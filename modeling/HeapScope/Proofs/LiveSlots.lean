import HeapScope.Proofs.Collection
import Mathlib.Data.List.Basic

/-!
# The live slots of a map

The children of a map are found one after the other: a walk looks at presence words until it meets
one that is not negative, makes the entry of that slot, and stays behind it until it is asked again.
`ShowsLive` says what this comes to. The children are the live slots in ascending order, numbered as
they come, up to the size that the map claims to have; and for the first of them no presence word
counts beyond the one of the last.

## Shape of the argument

* `liveFrom` is the list of the live slots that are still ahead, and `InReach` says up to which slot
  words can be read and addresses fit.
* `outcome_mapSource_of_cons` and `outcome_mapSource_of_nil` are one step of the walk: it answers
  with the head of that list and stands at its tail.
* `value_take_mapSource` is the walk, by induction on how many items are asked for. What is in reach
  is either all slots, or as many as have the live slots that are asked for.
-/

namespace HeapScope

/-! ## Live slots -/

/-- The live slots from one slot on up to a bound, in ascending order: those whose presence word is
not negative. -/
def liveFrom (word : Nat → Int32) (slot bound : Nat) : List Nat :=
  (List.range' slot (bound - slot)).filter fun i => decide (0 ≤ word i)

/-- The live slots of a map that uses as many slots. -/
def liveSlots (word : Nat → Int32) (slots : Nat) : List Nat :=
  (List.range slots).filter fun i => decide (0 ≤ word i)

section Live

variable {word : Nat → Int32} {slot bound : Nat}

/-- From the first slot on, all live slots are met. -/
theorem liveFrom_zero (word : Nat → Int32) (slots : Nat) :
    liveFrom word 0 slots = liveSlots word slots := by
  rw [liveFrom, liveSlots, List.range_eq_range', Nat.sub_zero]

/-- From the bound on, no live slot is met. -/
theorem liveFrom_of_le (h : bound ≤ slot) : liveFrom word slot bound = [] := by
  rw [liveFrom, Nat.sub_eq_zero_of_le h]
  rfl

/-- A live slot is met before those behind it. -/
theorem liveFrom_of_live (h : slot < bound) (live : 0 ≤ word slot) :
    liveFrom word slot bound = slot :: liveFrom word (slot + 1) bound := by
  obtain ⟨left, hleft⟩ : ∃ left, bound - slot = left + 1 := ⟨bound - slot - 1, by omega⟩
  have behind : bound - (slot + 1) = left := by omega
  rw [liveFrom, hleft, List.range'_succ, List.filter_cons, if_pos (decide_eq_true live), liveFrom,
    behind]

/-- Any other slot is passed over. -/
theorem liveFrom_of_dead (h : slot < bound) (dead : ¬ 0 ≤ word slot) :
    liveFrom word slot bound = liveFrom word (slot + 1) bound := by
  obtain ⟨left, hleft⟩ : ∃ left, bound - slot = left + 1 := ⟨bound - slot - 1, by omega⟩
  have behind : bound - (slot + 1) = left := by omega
  rw [liveFrom, hleft, List.range'_succ, List.filter_cons, if_neg (by simpa using dead), liveFrom,
    behind]

/-- The first live slot ahead is below the bound, and the others are ahead of the slot behind it. -/
theorem lt_and_eq_of_liveFrom {i : Nat} {rest : List Nat}
    (h : liveFrom word slot bound = i :: rest) :
    i < bound ∧ rest = liveFrom word (i + 1) bound := by
  induction left : bound - slot generalizing slot with
  | zero =>
    rw [liveFrom_of_le (by omega)] at h
    cases h
  | succ left ih =>
    by_cases live : 0 ≤ word slot
    · rw [liveFrom_of_live (by omega) live] at h
      cases h
      exact ⟨by omega, rfl⟩
    · rw [liveFrom_of_dead (by omega) live] at h
      exact ih h (by omega)

/-- Up to a live slot there are as many live slots as its place among them says. -/
theorem lt_length_liveSlots {slots k last : Nat} (h : (liveSlots word slots)[k]? = some last) :
    last < slots ∧ k < (liveSlots word (last + 1)).length := by
  have below : last < slots :=
    List.mem_range.1 (List.mem_of_mem_filter (List.mem_of_getElem? h))
  refine ⟨below, Nat.lt_of_not_le fun short => ?_⟩
  -- else the slot would be found among those beyond itself
  obtain ⟨rest, hrest⟩ : ∃ rest, slots = last + 1 + rest := ⟨slots - (last + 1), by omega⟩
  rw [liveSlots, hrest, List.range_add, List.filter_append, ← liveSlots,
    List.getElem?_append_right short] at h
  obtain ⟨i, -, hi⟩ := List.mem_map.1 (List.mem_of_mem_filter (List.mem_of_getElem? h))
  omega

end Live

/-! ## Where slots lie -/

/-- The elements of an array begin at the first multiple of eight behind its element count. -/
def Abi.elementsBegin (a : Abi) : Nat := (a.pointerSize.toNat + 4 + 7) / 8 * 8

namespace Context

variable {c : Context}

/-- A signed number of 32 bits lies at an address. -/
def HoldsInt32 (c : Context) (address : UInt64) (word : Int32) : Prop :=
  ∃ bytes, c.memory address 4 = .ok bytes ∧ bytes.length = 4 ∧
    word = (UInt32.ofNat (littleEndian bytes)).toInt32

/-- A signed number is read as the one that memory holds. -/
theorem outcome_readInt32_of_holds {address : UInt64} {word : Int32}
    (holds : c.HoldsInt32 address word) : (c.readInt32 address).outcome = .ok word := by
  obtain ⟨bytes, read, full, rfl⟩ := holds
  have number : Memory.readNumber c.memory address 4 = .ok (littleEndian bytes) := by
    rw [Memory.readNumber, read]
    exact if_pos full
  rw [readInt32, readUInt32, number]
  rfl

/-- Pointers are read only where they have four or eight bytes. -/
theorem hasWords_of_readPointer {address word : UInt64}
    (read : (c.readPointer address).outcome = .ok word) : c.HasWords := by
  obtain ⟨rest, -, read⟩ := Probe.exists_of_bind_ok read
  split at read
  · cases read
  · split at read
    case isTrue width => exact width.imp UInt64.toNat_inj.1 UInt64.toNat_inj.1
    case isFalse => cases read

/-- The place of the first element is found without overflow, for both widths. -/
theorem dataOffset_eq (words : c.HasWords) :
    c.abi.dataOffset = .ok (UInt64.ofNat c.abi.elementsBegin) := by
  rcases words with width | width <;> rw [Abi.dataOffset, Abi.countOffset, Abi.elementsBegin, width]
    <;> rfl

/-- The place of the first element fits a word. -/
theorem toNat_elementsBegin (words : c.HasWords) :
    (UInt64.ofNat c.abi.elementsBegin).toNat = c.abi.elementsBegin := by
  rcases words with width | width <;> rw [Abi.elementsBegin, width] <;> rfl

/-- Where the slot with an index of an array lies, be it that 64 bits hold the address. -/
def slotAt (c : Context) (array : UInt64) (i : Nat) : Nat :=
  array.toNat + c.abi.elementsBegin + i * c.abi.pointerSize.toNat

/-- Where the presence word of the slot with an index lies. -/
def presenceAt (c : Context) (presence : UInt64) (i : Nat) : Nat :=
  presence.toNat + c.abi.elementsBegin + i * 4

end Context

/-- The slots of a map up to a bound are in reach: 64 bits hold the addresses of what belongs to
them, and the presence words there can be read. -/
structure MapView.InReach (c : Context) (v : MapView) (word : Nat → Int32) (bound : Nat) :
    Prop where
  fits : ∀ i < bound, c.presenceAt v.presence i < UInt64.size
  holds : ∀ i < bound, c.HoldsInt32 (UInt64.ofNat (c.presenceAt v.presence i)) (word i)
  keys : ∀ i < bound, c.slotAt v.keys i < UInt64.size
  values : v.values ≠ 0 → ∀ i < bound, c.slotAt v.values i < UInt64.size

namespace Collection

variable {c : Context}

/-- The child for a slot: the entry of key and value, or the key alone where there are no values. -/
def childAt (c : Context) (v : MapView) (n i : Nat) : Child :=
  let key := elementAt c (UInt64.ofNat (c.slotAt v.keys i))
  if v.values = 0 then ⟨elementName n, key, none⟩
  else ⟨elementName n, elementAt c (UInt64.ofNat (c.slotAt v.values i)), some key⟩

/-- A slot that 64 bits have an address for is found there. -/
theorem slotAddress_eq (words : c.HasWords) {array : UInt64} {i : Nat} (index : i < UInt64.size)
    (fits : c.slotAt array i < UInt64.size) :
    slotAddress c array (UInt64.ofNat i) = .ok (UInt64.ofNat (c.slotAt array i)) := by
  have begins := Context.toNat_elementsBegin words
  rw [Context.slotAt] at fits ⊢
  have first : addExact array (UInt64.ofNat c.abi.elementsBegin) =
      .ok (UInt64.ofNat (array.toNat + c.abi.elementsBegin)) :=
    addExact_eq (by rw [begins]) (by omega)
  have distance : mulExact (UInt64.ofNat i) c.abi.pointerSize =
      .ok (UInt64.ofNat (i * c.abi.pointerSize.toNat)) :=
    mulExact_eq (by rw [UInt64.toNat_ofNat_of_lt' index]) (by omega)
  simp only [slotAddress, Context.dataOffset_eq words, first, distance, bind, Except.bind]
  refine addExact_eq ?_ fits
  rw [UInt64.toNat_ofNat_of_lt' (by omega), UInt64.toNat_ofNat_of_lt' (by omega)]

section Reach

variable {v : MapView} {word : Nat → Int32} {bound : Nat} (reach : v.InReach c word bound)
  (within : bound ≤ v.slots.toNat)

/-- Where the presence words of a map begin. -/
def presenceBegin (c : Context) (v : MapView) : UInt64 :=
  UInt64.ofNat (v.presence.toNat + c.abi.elementsBegin)

include reach within

/-- One slot in reach is live, or the search goes on behind it. -/
theorem outcome_nextLive_step {slot : Nat} (below : slot < bound) :
    (nextLive c v (presenceBegin c v) slot).outcome =
      if 0 ≤ word slot then .ok (some (.ok (UInt64.ofNat slot), slot + 1))
      else (nextLive c v (presenceBegin c v) (slot + 1)).outcome := by
  have fits := reach.fits slot below
  have index : slot < UInt64.size := Nat.lt_trans (Nat.lt_of_lt_of_le below within) v.slots.toNat_lt
  rw [Context.presenceAt] at fits
  have distance : mulExact (UInt64.ofNat slot) 4 = .ok (UInt64.ofNat (slot * 4)) :=
    mulExact_eq (by rw [UInt64.toNat_ofNat_of_lt' index]; rfl) (by omega)
  have place : addExact (presenceBegin c v) (UInt64.ofNat (slot * 4)) =
      .ok (UInt64.ofNat (c.presenceAt v.presence slot)) := by
    refine addExact_eq ?_ (reach.fits slot below)
    rw [presenceBegin, UInt64.toNat_ofNat_of_lt' (by omega), UInt64.toNat_ofNat_of_lt' (by omega)]
    rfl
  have read := Probe.outcome_attempt_of_ok
    (Context.outcome_readInt32_of_holds (reach.holds slot below))
  rw [nextLive.eq_def, if_pos (by omega), distance, Probe.liftM_ok_bind, place,
    Probe.liftM_ok_bind, Probe.outcome_bind_of_ok read]
  exact apply_ite Probe.outcome (0 ≤ word slot) _ _

/-- The search ends at the first live slot ahead, or else goes on behind all that is in reach. -/
theorem outcome_nextLive {slot : Nat} (start : slot ≤ bound) :
    (nextLive c v (presenceBegin c v) slot).outcome =
      match liveFrom word slot bound with
      | i :: _ => .ok (some (.ok (UInt64.ofNat i), i + 1))
      | [] => (nextLive c v (presenceBegin c v) bound).outcome := by
  induction left : bound - slot generalizing slot with
  | zero =>
    have all : slot = bound := by omega
    rw [liveFrom_of_le (by omega), all]
  | succ left ih =>
    rw [outcome_nextLive_step reach within (by omega)]
    by_cases live : 0 ≤ word slot
    · rw [if_pos live, liveFrom_of_live (by omega) live]
    · rw [if_neg live, liveFrom_of_dead (by omega) live, ih (by omega) (by omega)]

/-! ## The walk -/

/-- The walk is through where no live slot is ahead. -/
theorem outcome_mapSource_of_nil {slot : Nat} (start : slot ≤ bound) (all : bound = v.slots.toNat)
    (ahead : liveFrom word slot bound = []) (n : Nat) :
    (mapSource c v (presenceBegin c v) n slot).outcome = .ok none := by
  have found := outcome_nextLive reach within start
  rw [ahead] at found
  have none : (nextLive c v (presenceBegin c v) bound).outcome = .ok none := by
    rw [nextLive.eq_def, if_neg (by omega)]
    rfl
  rw [mapSource, Probe.outcome_bind_of_ok (found.trans none)]
  rfl

variable (words : c.HasWords)
include words

/-- The child for a slot in reach is made. -/
theorem outcome_mapChild {i : Nat} (below : i < bound) (n : Nat) :
    (mapChild c v n (UInt64.ofNat i)).outcome = .ok (childAt c v n i) := by
  have index : i < UInt64.size := Nat.lt_trans (Nat.lt_of_lt_of_le below within) v.slots.toNat_lt
  rw [mapChild, slotAddress_eq words index (reach.keys i below), Probe.liftM_ok_bind, childAt]
  by_cases alone : v.values = 0
  · rw [if_pos alone, if_pos alone]
    rfl
  · rw [if_neg alone, if_neg alone, slotAddress_eq words index (reach.values alone i below),
      Probe.liftM_ok_bind]
    rfl

/-- The walk answers with the child of the first live slot ahead and stands behind that slot. -/
theorem outcome_mapSource_of_cons {slot i : Nat} {rest : List Nat} (start : slot ≤ bound)
    (ahead : liveFrom word slot bound = i :: rest) (n : Nat) :
    (mapSource c v (presenceBegin c v) n slot).outcome =
      .ok (some (.ok (childAt c v n i), i + 1)) := by
  have found := outcome_nextLive reach within start
  rw [ahead] at found
  have made := Probe.outcome_attempt_of_ok
    (outcome_mapChild reach within words (lt_and_eq_of_liveFrom ahead).1 n)
  rw [mapSource, Probe.outcome_bind_of_ok found]
  exact Probe.outcome_bind_of_ok made _

/-- A walk yields the children of the live slots ahead, numbered on, as many as it is asked for and
as are left, if all slots are in reach or as many live ones as that. -/
theorem value_take_mapSource {limit remaining n slot : Nat} (start : slot ≤ bound)
    (enough : bound = v.slots.toNat ∨ min limit remaining ≤ (liveFrom word slot bound).length) :
    (ChildWalk.take limit ⟨some (mapSource c v (presenceBegin c v)), remaining, n, slot⟩).value =
      ((liveFrom word slot bound).take (min limit remaining)).mapIdx fun m i =>
        .ok (childAt c v (n + m) i) := by
  induction limit generalizing remaining n slot with
  | zero => rw [Nat.zero_min]; rfl
  | succ limit ih =>
    rw [ChildWalk.value_take_succ]
    cases remaining with
    | zero => rw [Nat.min_zero]; rfl
    | succ remaining =>
      rw [Nat.succ_min_succ] at enough ⊢
      rw [ChildWalk.value_next]
      cases ahead : liveFrom word slot bound with
      | nil =>
        have all : bound = v.slots.toNat := by
          rw [ahead] at enough
          exact enough.resolve_right (Nat.not_succ_le_zero _)
        rw [outcome_mapSource_of_nil reach within start all ahead]
        rfl
      | cons i rest =>
        obtain ⟨below, tail⟩ := lt_and_eq_of_liveFrom ahead
        rw [outcome_mapSource_of_cons reach within words start ahead]
        rw [ahead, List.length_cons, Nat.succ_le_succ_iff, tail] at enough
        rw [List.take_succ_cons, List.mapIdx_cons, tail]
        refine congrArg₂ _ rfl ((ih below enough).trans ?_)
        simp only [Nat.add_assoc, Nat.add_comm 1]

/-- The items of a map, if all slots are in reach or as many live ones as items are asked for. -/
theorem value_items_mapChildren {limit : Nat} (sized : v.size ≤ v.slots)
    (enough : bound = v.slots.toNat ∨ min limit v.size.toNat ≤ (liveSlots word bound).length) :
    ((mapChildren c v).items limit).value =
      ((liveSlots word bound).take (min limit v.size.toNat)).mapIdx fun n i =>
        .ok (childAt c v n i) := by
  rw [← liveFrom_zero] at enough ⊢
  rw [ChildSequence.items, Traced.value_bind, ChildSequence.value_walk]
  cases Nat.eq_zero_or_pos bound with
  | inl none =>
    -- nothing is in reach, so nothing is asked for or the map is empty
    have asked : min limit v.size.toNat = 0 := by
      subst none
      rcases enough with all | few
      · have : v.size.toNat ≤ v.slots.toNat := sized
        omega
      · exact Nat.le_zero.1 few
    rw [asked]
    exact ChildWalk.value_take_of_min_eq_zero asked
  | inr some =>
    have fits := reach.fits 0 some
    have begins : addExact v.presence (UInt64.ofNat c.abi.elementsBegin) =
        .ok (presenceBegin c v) :=
      addExact_eq (by rw [Context.toNat_elementsBegin words]) (by
        rw [Context.presenceAt] at fits
        omega)
    have started : (mapChildren c v).begin.outcome = .ok (mapSource c v (presenceBegin c v)) := by
      rw [mapChildren, Context.dataOffset_eq words, Probe.liftM_ok_bind, begins,
        Probe.liftM_ok_bind]
      rfl
    rw [started]
    refine (value_take_mapSource reach within words (Nat.zero_le _) enough).trans ?_
    simp only [Nat.zero_add]

end Reach

/-- A map that passes its check has no more entries than slots. -/
theorem ensures_checkMap_size (object : UInt64) (v : MapView) :
    (checkMap c object v).Ensures fun _ => v.size ≤ v.slots := by
  rw [checkMap]
  split
  · exact Probe.ensures_fail _
  · rename_i sized
    exact fun _ _ => UInt64.not_lt.1 sized

/-- A map is read only where pointers have four or eight bytes, and it has no more entries than
slots in use. -/
theorem ensures_readMap_size (c : Context) (object : UInt64) (layout : Option ClassLayout) :
    (readMap c object layout).Ensures fun v => c.HasWords ∧ v.size ≤ v.slots := by
  simp only [readMap, Probe.ensures_bind, Probe.ensures_pure]
  intro _ _ _ read
  intros
  exact ⟨Context.hasWords_of_readPointer read, ensures_checkMap_size object _ _ (by assumption)⟩

/-- The layout under which the map behind a set is read. -/
def mapLayout (c : Context) : Option ClassLayout :=
  (c.metadata.typeByName CollectionKind.hashMap.qualifiedName).bind (·.layout)

/-- A set refers to a map, in the field that its layout says. -/
def IsBackedBy (c : Context) (set : UInt64) (layout : Option ClassLayout) (map : UInt64) : Prop :=
  let offset := fieldOffset layout ["backing", "backingMap"] c.abi.pointerSize
  map ≠ 0 ∧ set.toNat + offset.toNat < UInt64.size ∧ c.HoldsWord (set + offset) map

/-- The slots of a set are those of the map behind it, without values. -/
theorem outcome_readSet_of_isBackedBy {set map : UInt64} {layout : Option ClassLayout}
    (words : c.HasWords) (backed : IsBackedBy c set layout map) :
    (readSet c set layout).outcome =
      (readMap c map (mapLayout c)).outcome.map fun v => { v with values := 0 } := by
  obtain ⟨nonzero, fits, holds⟩ := backed
  have place : addExact set (fieldOffset layout ["backing", "backingMap"] c.abi.pointerSize) =
      .ok (set + fieldOffset layout ["backing", "backingMap"] c.abi.pointerSize) := if_pos fits
  have found := Context.outcome_readPointer_of_holds words holds
  rw [readSet, place, Probe.liftM_ok_bind, Probe.outcome_bind_of_ok found, if_neg nonzero]
  exact Probe.outcome_map _ _

end Collection

open Collection in
/-- The children of a map are its live slots, in ascending order, as many as the map has entries or
as there are. The children up to one of them do not change with the presence words behind its own,
or with anything else in memory. -/
structure MapView.ShowsLive (c : Context) (v : MapView) (word : Nat → Int32) : Prop where
  count : (mapChildren c v).count = v.size.toNat
  items : ∀ limit, ((mapChildren c v).items limit).value =
    ((liveSlots word v.slots.toNat).take (min limit v.size.toNat)).mapIdx fun n i =>
      .ok (childAt c v n i)
  ahead : ∀ k last, (liveSlots word v.slots.toNat)[k]? = some last → k < v.size.toNat →
    ∀ memory : MemoryReader,
      (∀ i ≤ last, memory (UInt64.ofNat (c.presenceAt v.presence i)) 4 =
        c.memory (UInt64.ofNat (c.presenceAt v.presence i)) 4) →
      ((mapChildren { c with memory } v).items (k + 1)).value =
        ((mapChildren c v).items (k + 1)).value

namespace Collection

variable {c : Context}

/-- What is in reach up to a slot is in reach of a memory with the same presence words up to it. -/
theorem inReach_of_same {v : MapView} {word : Nat → Int32} {bound last : Nat}
    (reach : v.InReach c word bound) (below : last < bound) {memory : MemoryReader}
    (same : ∀ i ≤ last, memory (UInt64.ofNat (c.presenceAt v.presence i)) 4 =
      c.memory (UInt64.ofNat (c.presenceAt v.presence i)) 4) :
    v.InReach { c with memory } word (last + 1) where
  fits i hi := reach.fits i (by omega)
  holds i hi := by
    obtain ⟨bytes, read, full, number⟩ := reach.holds i (by omega)
    exact ⟨bytes, (same i (by omega)).trans read, full, number⟩
  keys i hi := reach.keys i (by omega)
  values alone i hi := reach.values alone i (by omega)

/-- A map all of whose slots are in reach shows its live slots. -/
theorem showsLive {v : MapView} {word : Nat → Int32} (words : c.HasWords) (sized : v.size ≤ v.slots)
    (reach : v.InReach c word v.slots.toNat) : v.ShowsLive c word where
  count := rfl
  items limit := value_items_mapChildren reach (Nat.le_refl _) words sized (.inl rfl)
  ahead k last live below memory same := by
    obtain ⟨used, enough⟩ := lt_length_liveSlots live
    have asked : min (k + 1) v.size.toNat ≤ (liveSlots word (last + 1)).length :=
      Nat.le_trans (Nat.min_le_left _ _) enough
    -- both runs are told by the presence words up to the last slot
    rw [value_items_mapChildren (inReach_of_same reach used same) used words sized (.inr asked),
      value_items_mapChildren (inReach_of_same reach used fun _ _ => rfl) used words sized
        (.inr asked)]
    rfl

/-- Where a map can be read, its children are its live slots, if all its slots are in reach, and the
first of them do not depend on what is behind them. A set that refers to the map has the same
children as the map would have without values. -/
theorem children_showLive {object : UInt64} {layout : Option ClassLayout} {v : MapView}
    (read : (readMap c object layout).outcome = .ok v) :
    let keys : MapView := { v with values := 0 }
    (children c object .hashMap layout).outcome = .ok (mapChildren c v) ∧
      (layout = mapLayout c → ∀ set setLayout, IsBackedBy c set setLayout object →
        (children c set .hashSet setLayout).outcome = .ok (mapChildren c keys)) ∧
      ∀ word, (v.InReach c word v.slots.toNat → v.ShowsLive c word) ∧
        (keys.InReach c word v.slots.toNat → keys.ShowsLive c word) := by
  intro keys
  obtain ⟨words, sized⟩ := ensures_readMap_size c object layout v read
  refine ⟨Probe.outcome_bind_of_ok read _, ?_, fun word => ⟨showsLive words sized,
    showsLive (v := keys) words sized⟩⟩
  rintro rfl set setLayout backed
  have found := outcome_readSet_of_isBackedBy words backed
  rw [read] at found
  exact Probe.outcome_bind_of_ok found _

/-- A map of three slots, the second of which is not live, has the entries of the others; a set that
refers to it has their keys; and of the first entry nothing but the first presence word is told. -/
theorem children_showLive_tombstone :
    let word (address : UInt64) : Nat :=
      if address = 0x1008 then 0x2000 else if address = 0x1010 then 0x3000
      else if address = 0x1018 then 0x4000 else if address = 0x1034 then 2
      else if address = 0x4014 then 0xffffffff else if address = 0x5008 then 0x1000 else 3
    let c : Context :=
      { memory := fun address size => .ok (toLittleEndian size (word address))
        metadata := ⟨fun _ => none, fun _ => none⟩ }
    let v : MapView := ⟨0x2000, 0x3000, 0x4000, 3, 2⟩
    let keys : MapView := { v with values := 0 }
    let presence (i : Nat) : Int32 := if i = 1 then -1 else 3
    let memory : MemoryReader := fun address size =>
      if address = 0x4010 then c.memory address size else .error "out of reach"
    let first : ChildItem := .ok ⟨"[0]", elementAt c 0x3010, some (elementAt c 0x2010)⟩
    (readMap c 0x1000 none).outcome = .ok v ∧ v.InReach c presence v.slots.toNat ∧
      ((mapChildren c v).items 3).value =
        [first, .ok ⟨"[1]", elementAt c 0x3020, some (elementAt c 0x2020)⟩] ∧
      IsBackedBy c 0x5000 none 0x1000 ∧
      (children c 0x5000 .hashSet none).outcome = .ok (mapChildren c keys) ∧
      ((mapChildren c keys).items 3).value =
        [.ok ⟨"[0]", elementAt c 0x2010, none⟩, .ok ⟨"[1]", elementAt c 0x2020, none⟩] ∧
      ((mapChildren { c with memory } v).items 1).value = [first] := by
  intro word c v keys presence memory first
  have read : (readMap c 0x1000 none).outcome = .ok v := by decide +kernel
  have three : ∀ i < v.slots.toNat, i = 0 ∨ i = 1 ∨ i = 2 := fun i hi => by
    have : i < 3 := hi
    omega
  have reach : v.InReach c presence v.slots.toNat := by
    refine ⟨fun i hi => ?_, fun i hi => ?_, fun i hi => ?_, fun _ i hi => ?_⟩
    · obtain rfl | rfl | rfl := three i hi <;> decide +kernel
    · obtain rfl | rfl | rfl := three i hi
      all_goals exact ⟨_, rfl, by decide +kernel, by decide +kernel⟩
    · obtain rfl | rfl | rfl := three i hi <;> decide +kernel
    · obtain rfl | rfl | rfl := three i hi <;> decide +kernel
  have alone : keys.InReach c presence v.slots.toNat :=
    ⟨reach.fits, reach.holds, reach.keys, fun values => absurd rfl values⟩
  have backed : IsBackedBy c 0x5000 none 0x1000 :=
    ⟨by decide, by decide +kernel, by decide, _, rfl, by decide +kernel, by decide +kernel⟩
  obtain ⟨-, sets, shows⟩ := children_showLive read
  obtain ⟨-, items, ahead⟩ := (shows presence).1 reach
  obtain ⟨-, elements, -⟩ := (shows presence).2 alone
  refine ⟨read, reach, (items 3).trans (by decide +kernel), backed, sets rfl 0x5000 none backed,
    (elements 3).trans (by decide +kernel), ?_⟩
  -- the other presence words are out of reach for this memory
  refine (ahead 0 0 (by decide +kernel) (by decide) memory fun i hi => ?_).trans
    ((items 1).trans (by decide +kernel))
  cases Nat.le_zero.1 hi
  decide +kernel

end Collection

end HeapScope
