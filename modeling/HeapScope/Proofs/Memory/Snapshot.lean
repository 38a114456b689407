import HeapScope.Memory.Snapshot
import HeapScope.Proofs.Primitive
import Mathlib.Order.CompletePartialOrder
import Mathlib.Order.Interval.Set.Disjoint

/-!
# Writing into captured memory

A read and a write find the region of their address in one way, and each has to stay inside of it.
Regions may overlap, so the bytes at an address may be held twice; but an address belongs to one
region only, and a write changes the bytes of no other. So it is enough to follow the regions: every
address belongs to the region it belonged to before, with its bytes written over if that is the
region of the write. What is read behind an address then follows from what writing over a part of a
byte sequence does to its other parts.
-/

namespace HeapScope

/-- Two first finds that would each do for the other search are one. -/
theorem find?_eq_of_both {α : Type} {p q : α → Bool} {l : List α} {x y : α}
    (hx : l.find? p = some x) (hy : l.find? q = some y) (py : p y = true) (qx : q x = true) :
    x = y := by
  induction l with
  | nil => cases hx
  | cons z l ih =>
    rw [List.find?_cons] at hx hy
    cases hp : p z <;> cases hq : q z <;> simp only [hp, hq] at hx hy
    case false.false => exact ih hx hy
    case true.true => exact Option.some.inj (hx.symm.trans hy)
    case false.true =>
      cases hy
      exact absurd py (by simp [hp])
    case true.false =>
      cases hx
      exact absurd qx (by simp [hq])

/-! ## Bytes written over others -/

namespace MemorySnapshot

section Overwrite

variable {old new : List UInt8} {offset : Nat}

/-- Writing over bytes adds none and drops none. -/
theorem length_overwrite (fits : offset + new.length ≤ old.length) :
    (overwrite old offset new).length = old.length := by
  rw [overwrite, List.length_append, List.length_append, List.length_take, List.length_drop]
  omega

/-- The bytes that were written stand where they were written. -/
theorem take_drop_overwrite (fits : offset + new.length ≤ old.length) :
    ((overwrite old offset new).drop offset).take new.length = new := by
  have front : (old.take offset).length = offset := List.length_take_of_le (by omega)
  rw [overwrite, List.append_assoc, List.drop_left' front, List.take_left' rfl]

/-- Writing over bytes changes none ahead of the written ones and none behind them. -/
theorem getElem?_overwrite_of_outside (fits : offset + new.length ≤ old.length) {i : Nat}
    (outside : i < offset ∨ offset + new.length ≤ i) :
    (overwrite old offset new)[i]? = old[i]? := by
  have front : (old.take offset).length = offset := List.length_take_of_le (by omega)
  rw [overwrite, List.append_assoc]
  rcases outside with ahead | behind
  · rw [List.getElem?_append_left (by omega), List.getElem?_take_of_lt ahead]
  · rw [List.getElem?_append_right (by omega), List.getElem?_append_right (by omega), front,
      List.getElem?_drop]
    congr 1
    omega

/-- A part that has no place in common with the written bytes stays as it was. -/
theorem take_drop_overwrite_of_outside (fits : offset + new.length ≤ old.length) {start size : Nat}
    (outside : ∀ i, start ≤ i → i < start + size → i < offset ∨ offset + new.length ≤ i) :
    ((overwrite old offset new).drop start).take size = (old.drop start).take size := by
  refine List.ext_getElem? fun i => ?_
  rw [List.getElem?_take, List.getElem?_take, List.getElem?_drop, List.getElem?_drop]
  split
  case isTrue inside =>
    exact getElem?_overwrite_of_outside fits (outside (start + i) (by omega) (by omega))
  case isFalse => rfl

end Overwrite

end MemorySnapshot

namespace Region

/-- A region with bytes written over its own at an address. -/
def written (r : Region) (a : UInt64) (bytes : List UInt8) : Region :=
  ⟨r.start, MemorySnapshot.overwrite r.bytes (a.toNat - r.start.toNat) bytes⟩

/-- Whether bytes at an address end in a region. -/
def Fits (r : Region) (a : UInt64) (size : Nat) : Prop :=
  a.toNat - r.start.toNat + size ≤ r.bytes.length

variable {r : Region} {a : UInt64} {bytes : List UInt8}

/-- A region stays where it is when bytes are written over its own. -/
@[simp] theorem start_written : (r.written a bytes).start = r.start := rfl

/-- A region stays as long as it is when bytes in it are written over. -/
theorem length_written (fits : r.Fits a bytes.length) :
    (r.written a bytes).bytes.length = r.bytes.length := MemorySnapshot.length_overwrite fits

end Region

namespace MemorySnapshot

/-! ## The regions of addresses -/

variable {m m' : MemorySnapshot} {a b : UInt64} {r s : Region} {bytes : List UInt8} {size : Nat}

/-- The region of an address is the last one that does not start behind it. -/
theorem regionOf_eq_find? (m : MemorySnapshot) (a : UInt64) :
    m.regionOf a = m.regions.reverse.find? fun r => r.start ≤ a := List.getLast?_filter

/-- A region does not start behind its addresses. -/
theorem start_le_of_regionOf (h : m.regionOf a = some r) : r.start ≤ a := by
  rw [regionOf_eq_find?] at h
  simpa using List.find?_some h

/-- The regions of two addresses are one if they start at one place. -/
theorem eq_of_regionOf (hr : m.regionOf a = some r) (hs : m.regionOf b = some s)
    (same : r.start = s.start) : r = s := by
  have ra := start_le_of_regionOf hr
  have sb := start_le_of_regionOf hs
  rw [regionOf_eq_find?] at hr hs
  exact find?_eq_of_both hr hs (by simpa [← same] using ra) (by simpa [same] using sb)

/-- Where the bytes of regions change but their starts do not, so do the regions of addresses. -/
theorem regionOf_map {f : Region → Region} (keeps : ∀ s, (f s).start = s.start) :
    (⟨m.regions.map f⟩ : MemorySnapshot).regionOf b = (m.regionOf b).map f := by
  have tests : (fun s : Region => decide (s.start ≤ b)) ∘ f = fun s => decide (s.start ≤ b) :=
    funext fun s => by rw [Function.comp_apply, keeps]
  rw [regionOf, regionOf, List.filter_map, tests, List.getLast?_map]

/-! ## Reading and writing in a region -/

/-- A read succeeds in the region of its address, and gives bytes of that region. -/
theorem read_ok_iff :
    m.read a size = .ok bytes ↔ ∃ r, m.regionOf a = some r ∧
      a.toNat - r.start.toNat < r.bytes.length ∧ r.Fits a size ∧
      (r.bytes.drop (a.toNat - r.start.toNat)).take size = bytes := by
  cases region : m.regionOf a with
  | none => simp [read, region]
  | some r =>
    rw [read, region]
    dsimp only
    split
    case isTrue inside => simp [Region.Fits, inside]
    case isFalse outside => simp +contextual [Region.Fits, not_and.1 outside]

/-- A read gives as many bytes as were wanted. -/
theorem length_of_read (ok : m.read a size = .ok bytes) : bytes.length = size := by
  obtain ⟨r, -, -, fits, rfl⟩ := read_ok_iff.1 ok
  rw [Region.Fits] at fits
  rw [List.length_take, List.length_drop]
  omega

/-- Of what is read at an address, a shorter read gives the front. -/
theorem read_take (ok : m.read a size = .ok bytes) {less : Nat} (le : less ≤ size) :
    m.read a less = .ok (bytes.take less) := by
  obtain ⟨r, region, starts, fits, rfl⟩ := read_ok_iff.1 ok
  refine read_ok_iff.2 ⟨r, region, starts, (Nat.add_le_add_left le _).trans fits, ?_⟩
  rw [List.take_take, Nat.min_eq_left le]

/-- A write succeeds in the region of its address, and changes the bytes of that region. -/
theorem write_ok_iff :
    m.write a bytes = (.ok (), m') ↔ ∃ r, m.regionOf a = some r ∧ r.Fits a bytes.length ∧
      m' = ⟨m.regions.map fun s => if s.start = r.start then
        ⟨s.start, overwrite s.bytes (a.toNat - r.start.toNat) bytes⟩ else s⟩ := by
  cases region : m.regionOf a with
  | none => simp [write, region]
  | some r =>
    rw [write, region]
    dsimp only
    split
    case isTrue fits => simp [Region.Fits, fits, eq_comm]
    case isFalse leaves => simp [Region.Fits, leaves]

/-- A write is refused before any byte is written, so a refused one leaves the snapshot as it is. -/
theorem eq_of_write_error {reason : String} (refused : m.write a bytes = (.error reason, m')) :
    m' = m := by
  rw [write] at refused
  split at refused
  case h_1 =>
    cases refused
    rfl
  case h_2 r _ =>
    dsimp only at refused
    split at refused <;> cases refused
    rfl

/-- After a write every address belongs to the region it belonged to, with the bytes written over
if that is the region of the write. -/
theorem regionOf_write (ok : m.write a bytes = (.ok (), m')) :
    ∃ r, m.regionOf a = some r ∧ r.Fits a bytes.length ∧
      ∀ b, m'.regionOf b = (m.regionOf b).map fun s => if s = r then r.written a bytes else s := by
  obtain ⟨r, region, fits, rfl⟩ := write_ok_iff.1 ok
  refine ⟨r, region, fits, fun b => ?_⟩
  rw [regionOf_map fun s => by split <;> rfl]
  refine Option.map_congr fun s hs => ?_
  by_cases same : s.start = r.start
  · obtain rfl := eq_of_regionOf hs region same
    rw [if_pos rfl, if_pos rfl, Region.written]
  · rw [if_neg same, if_neg fun eq => same (congrArg Region.start eq)]

/-! ## What a write does to reads -/

/-- The addresses of a number of bytes, counted on where the address space ends. -/
def span (a : UInt64) (size : Nat) : Set Nat := Set.Ico a.toNat (a.toNat + size)

/-- The bytes that were written are read back. -/
theorem read_write_self (nonempty : bytes ≠ []) (ok : m.write a bytes = (.ok (), m')) :
    m'.read a bytes.length = .ok bytes := by
  obtain ⟨r, region, fits, regions⟩ := regionOf_write ok
  have here : m'.regionOf a = some (r.written a bytes) := by
    rw [regions, region, Option.map_some, if_pos rfl]
  have some_byte : 0 < bytes.length := List.length_pos_iff.2 nonempty
  refine read_ok_iff.2 ⟨_, here, ?_, ?_, take_drop_overwrite fits⟩
  · rw [Region.length_written fits, Region.start_written]
    exact Nat.lt_of_lt_of_le (Nat.lt_add_of_pos_right some_byte) fits
  · rw [Region.Fits, Region.length_written fits]
    exact fits

/-- A read at an address of another region than that of the write is not changed, and one in its
region finds the bytes written over. -/
theorem read_write_cases (ok : m.write a bytes = (.ok (), m')) (b : UInt64) :
    (∀ size, m'.read b size = m.read b size) ∨
      ∃ r, m.regionOf a = some r ∧ r.Fits a bytes.length ∧
        m.regionOf b = some r ∧ m'.regionOf b = some (r.written a bytes) := by
  obtain ⟨r, region, fits, regions⟩ := regionOf_write ok
  by_cases same : m.regionOf b = some r
  · refine .inr ⟨r, region, fits, same, ?_⟩
    rw [regions, same, Option.map_some, if_pos rfl]
  · have kept : m'.regionOf b = m.regionOf b := by
      rw [regions]
      refine (Option.map_congr fun s hs => if_neg fun eq => same ?_).trans Option.map_id'
      rw [hs, eq]
    exact .inl fun size => by rw [read, read, kept]

/-- No read is won or lost by a write. -/
theorem read_write_ok_iff (ok : m.write a bytes = (.ok (), m')) (b : UInt64) (size : Nat) :
    (∃ found, m'.read b size = .ok found) ↔ ∃ found, m.read b size = .ok found := by
  obtain same | ⟨r, -, fits, before, after⟩ := read_write_cases ok b
  · rw [same]
  · simp [read_ok_iff, before, after, Region.Fits, Region.length_written fits]

/-- A part of a written region that shares no address with the write is not changed. -/
theorem take_drop_written_of_disjoint {r : Region} (fits : r.Fits a bytes.length)
    (starts_a : r.start ≤ a) (starts_b : r.start ≤ b)
    (apart : Disjoint (span b size) (span a bytes.length)) :
    ((r.written a bytes).bytes.drop (b.toNat - r.start.toNat)).take size =
      (r.bytes.drop (b.toNat - r.start.toNat)).take size := by
  rw [UInt64.le_iff_toNat_le] at starts_a starts_b
  refine take_drop_overwrite_of_outside fits fun i lower upper => ?_
  by_contra inside
  -- the address of this place belongs to both spans
  have shared : i + r.start.toNat ∈ span b size ∧ i + r.start.toNat ∈ span a bytes.length :=
    ⟨⟨by omega, by omega⟩, ⟨by omega, by omega⟩⟩
  exact Set.disjoint_left.1 apart shared.1 shared.2

/-- A read that shares no address with a write is not changed. -/
theorem read_write_of_disjoint (ok : m.write a bytes = (.ok (), m'))
    (apart : Disjoint (span b size) (span a bytes.length)) : m'.read b size = m.read b size := by
  obtain same | ⟨r, region, fits, before, after⟩ := read_write_cases ok b
  · exact same size
  · have part := take_drop_written_of_disjoint fits (start_le_of_regionOf region)
      (start_le_of_regionOf before) apart
    rw [read, read, before, after]
    simp only [Region.start_written, Region.length_written fits, part]

/-- Bytes can be written exactly where as many can be read. -/
theorem write_ok_iff_read_ok (nonempty : bytes ≠ []) :
    (m.write a bytes).1 = .ok () ↔ ∃ old, m.read a bytes.length = .ok old := by
  have answered : (m.write a bytes).1 = .ok () ↔ ∃ m', m.write a bytes = (.ok (), m') :=
    ⟨fun ok => ⟨_, Prod.ext ok rfl⟩, fun ⟨_, ok⟩ => congrArg Prod.fst ok⟩
  rw [answered]
  simp only [write_ok_iff, read_ok_iff]
  constructor
  · rintro ⟨-, r, region, fits, -⟩
    have starts := Nat.lt_of_lt_of_le
      (Nat.lt_add_of_pos_right (List.length_pos_iff.2 nonempty)) fits
    exact ⟨_, r, region, starts, fits, rfl⟩
  · rintro ⟨-, r, region, -, fits, -⟩
    exact ⟨_, r, region, fits, rfl⟩

/-! ## Numbers -/

/-- A number that is read is the one that the bytes there stand for. -/
theorem readNumber_ok_iff {n : Nat} :
    Memory.readNumber m.read a size = .ok n ↔
      ∃ bytes, m.read a size = .ok bytes ∧ littleEndian bytes = n := by
  rw [Memory.readNumber]
  cases read : m.read a size with
  | error reason => exact ⟨nofun, nofun⟩
  | ok bytes =>
    show (if bytes.length = size then _ else _ : Except String Nat) = _ ↔ _
    rw [if_pos (length_of_read read)]
    simp [pure, Except.pure]

/-- The bytes of a number are read back after it was written. -/
theorem read_writeNumber {n : Nat} (sized : 0 < size) (ok : m.writeNumber a size n = (.ok (), m')) :
    m'.read a size = .ok (toLittleEndian size n) := by
  have nonempty : toLittleEndian size n ≠ [] := by
    rwa [← List.length_pos_iff, length_toLittleEndian]
  have back := read_write_self nonempty ok
  rwa [length_toLittleEndian] at back

/-- A read of as many bytes as were written or of fewer gives the remainder of the number. -/
theorem readNumber_writeNumber {n width : Nat} (sized : 0 < size) (small : n < 256 ^ size)
    (ok : m.writeNumber a size n = (.ok (), m')) (le : width ≤ size) :
    Memory.readNumber m'.read a width = .ok (n % 256 ^ width) := by
  refine readNumber_ok_iff.2 ⟨_, read_take (read_writeNumber sized ok) le, ?_⟩
  rw [littleEndian_take, littleEndian_toLittleEndian small]

/-- A read of more bytes than were written gives a number with the written one as its remainder. -/
theorem readNumber_writeNumber_mod {n width found : Nat} (sized : 0 < size)
    (small : n < 256 ^ size) (ok : m.writeNumber a size n = (.ok (), m')) (le : size ≤ width)
    (read : Memory.readNumber m'.read a width = .ok found) : found % 256 ^ size = n := by
  obtain ⟨bytes, whole, rfl⟩ := readNumber_ok_iff.1 read
  have front : bytes.take size = toLittleEndian size n :=
    Except.ok.inj ((read_take whole le).symm.trans (read_writeNumber sized ok))
  rw [← littleEndian_take, front, littleEndian_toLittleEndian small]

/-- A pointer of either width is the number that is read there. -/
theorem readPointer_of_readNumber {n width : Nat} (whole : width = 4 ∨ width = 8)
    (read : Memory.readNumber m.read a width = .ok n) :
    Memory.readPointer m.read a width = .ok (UInt64.ofNat n) := by
  rw [Memory.readPointer, if_pos whole, read]
  rfl

/-! ## Writing, then reading -/

/-- Bytes can be written exactly where as many can be read, and a write that is refused changes
nothing. Bytes that were written are read back, whatever shares no address with them is read as
before, and no read is won or lost. A number of 32 or 64 bits that was written is read back, as a
number and as a pointer. Four bytes of eight give its low half, and eight bytes of which four were
written have it as their low half. -/
theorem write_then_read (m : MemorySnapshot) (a : UInt64) :
    (∀ bytes : List UInt8, bytes ≠ [] →
      ((m.write a bytes).1 = .ok () ↔ ∃ old, m.read a bytes.length = .ok old) ∧
      (∀ reason m', m.write a bytes = (.error reason, m') → m' = m) ∧
      ∀ m', m.write a bytes = (.ok (), m') →
        m'.read a bytes.length = .ok bytes ∧
        (∀ b size, Disjoint (span b size) (span a bytes.length) →
          m'.read b size = m.read b size) ∧
        ∀ b size, (∃ found, m'.read b size = .ok found) ↔ ∃ found, m.read b size = .ok found) ∧
    (∀ (value : UInt32) m', m.writeNumber a 4 value.toNat = (.ok (), m') →
      Memory.readNumber m'.read a 4 = .ok value.toNat ∧
      Memory.readPointer m'.read a 4 = .ok value.toUInt64 ∧
      ∀ found, Memory.readNumber m'.read a 8 = .ok found → found % 2 ^ 32 = value.toNat) ∧
    ∀ (value : UInt64) m', m.writeNumber a 8 value.toNat = (.ok (), m') →
      Memory.readNumber m'.read a 8 = .ok value.toNat ∧
      Memory.readPointer m'.read a 8 = .ok value ∧
      Memory.readNumber m'.read a 4 = .ok value.toUInt32.toNat ∧
      Memory.readPointer m'.read a 4 = .ok value.toUInt32.toUInt64 := by
  refine ⟨fun bytes nonempty => ⟨write_ok_iff_read_ok nonempty, fun reason m' => eq_of_write_error,
    fun m' ok => ⟨read_write_self nonempty ok, fun b size => read_write_of_disjoint ok,
      read_write_ok_iff ok⟩⟩, fun value m' ok => ?_, fun value m' ok => ?_⟩
  · have small : value.toNat < 256 ^ 4 := value.toNat_lt
    have back := readNumber_writeNumber (by decide) small ok (Nat.le_refl 4)
    rw [Nat.mod_eq_of_lt small] at back
    refine ⟨back, ?_, fun found read => ?_⟩
    · rw [readPointer_of_readNumber (.inl rfl) back, UInt64.ofNat_uInt32ToNat]
    · exact readNumber_writeNumber_mod (by decide) small ok (by decide) read
  · have small : value.toNat < 256 ^ 8 := value.toNat_lt
    have back := readNumber_writeNumber (by decide) small ok (Nat.le_refl 8)
    have low : Memory.readNumber m'.read a 4 = .ok value.toUInt32.toNat :=
      readNumber_writeNumber (by decide) small ok (by decide)
    rw [Nat.mod_eq_of_lt small] at back
    refine ⟨back, ?_, low, ?_⟩
    · rw [readPointer_of_readNumber (.inr rfl) back, UInt64.ofNat_toNat]
    · rw [readPointer_of_readNumber (.inl rfl) low, UInt64.ofNat_uInt32ToNat]

/-- Two regions overlap. Bytes written through the first one are read back through it, an address of
the second one still finds its own bytes, a write that leaves its region changes nothing, and a
number is read back in part. -/
theorem write_then_read_overlapping :
    let m : MemorySnapshot := ⟨[⟨0x1000, List.replicate 16 0⟩, ⟨0x1008, [1, 2, 3, 4]⟩]⟩
    let bytes : List UInt8 := [9, 8, 7, 6, 5]
    (∃ m', m.write 0x1004 bytes = (.ok (), m') ∧ m'.read 0x1004 5 = .ok bytes ∧
        m'.read 0x1008 4 = .ok [1, 2, 3, 4] ∧ m'.read 0x1000 4 = m.read 0x1000 4) ∧
      m.write 0x1009 bytes = (.error (writeOutside 0x1009 5), m) ∧
      ∃ m', m.writeNumber 0x1000 8 0x0123456789abcdef = (.ok (), m') ∧
        Memory.readPointer m'.read 0x1000 4 = .ok 0x89abcdef := by
  intro m bytes
  have written : m.write 0x1004 bytes =
      (.ok (), ⟨[⟨0x1000, [0, 0, 0, 0, 9, 8, 7, 6, 5, 0, 0, 0, 0, 0, 0, 0]⟩,
        ⟨0x1008, [1, 2, 3, 4]⟩]⟩) := by
    decide
  have refused : (m.write 0x1009 bytes).1 = .error (writeOutside 0x1009 5) := rfl
  have stored : ∃ m', m.writeNumber 0x1000 8 0x0123456789abcdef = (.ok (), m') := ⟨_, rfl⟩
  obtain ⟨back, elsewhere, -⟩ := ((write_then_read m 0x1004).1 bytes (by decide)).2.2 _ written
  have unchanged : (m.write 0x1009 bytes).2 = m :=
    ((write_then_read m 0x1009).1 bytes (by decide)).2.1 _ _ (Prod.ext refused rfl)
  refine ⟨⟨_, written, back, by decide, elsewhere 0x1000 4 ?_⟩, Prod.ext refused unchanged, ?_⟩
  · exact Set.Ico_disjoint_Ico.2 (by decide)
  · obtain ⟨m', ok⟩ := stored
    exact ⟨m', ok, ((write_then_read m 0x1000).2.2 0x0123456789abcdef m' ok).2.2.2⟩

end MemorySnapshot

end HeapScope
