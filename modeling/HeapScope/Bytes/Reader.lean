import HeapScope.Primitive

/-!
# Reading a byte sequence from its front

A byte reader takes a value from the front of a sequence and leaves the rest, or refuses. The rest
is never longer than what was there, which is what lets readers be repeated: `loop` repeats a step
that takes at least one byte until it has a result, and `all` reads items to the end.

Object files store numbers with their least or their most significant byte first. Debug information
stores most of its numbers in groups of seven bits, lowest first, where the high bit of a byte says
that another follows.
-/

namespace HeapScope

/-- Which byte of a stored number comes first. -/
inductive ByteOrder where
  | leastFirst | mostFirst
deriving DecidableEq, Repr

/-- The number that bytes stand for. -/
def ByteOrder.number : ByteOrder → List UInt8 → Nat
  | .leastFirst, bytes => littleEndian bytes
  | .mostFirst, bytes => littleEndian bytes.reverse

/-- What is left of a byte sequence once a value has been read from it. -/
abbrev Rest (s : List UInt8) := { rest : List UInt8 // rest.length ≤ s.length }

/-- Reads a value from the front of a byte sequence, or refuses. -/
def ByteReader (α : Type) := (s : List UInt8) → Option (α × Rest s)

namespace ByteReader

/-- One reader after the other. -/
def andThen {α β : Type} (first : ByteReader α) (second : α → ByteReader β) : ByteReader β :=
  fun s => (first s).bind fun (a, rest) =>
    (second a rest.1).map fun (b, last) => (b, ⟨last.1, Nat.le_trans last.2 rest.2⟩)

instance : Monad ByteReader where
  pure a := fun s => some (a, ⟨s, Nat.le_refl _⟩)
  bind := andThen

/-- Refuses. -/
def refuse {α : Type} : ByteReader α := fun _ => none

/-- Goes on only where a condition holds. -/
def require (condition : Bool) : ByteReader Unit := if condition then pure () else refuse

/-- The number of bytes still to be read. -/
def remaining : ByteReader Nat := fun s => some (s.length, ⟨s, Nat.le_refl _⟩)

/-- The next byte. -/
def byte : ByteReader UInt8
  | [] => none
  | b :: s => some (b, ⟨s, Nat.le_succ _⟩)

/-- The next `size` bytes. -/
def take (size : Nat) : ByteReader (List UInt8) := fun s =>
  if size ≤ s.length then some (s.take size, ⟨s.drop size, by simp⟩) else none

/-- A stored number of `size` bytes. -/
def number (order : ByteOrder) (size : Nat) : ByteReader Nat := order.number <$> take size

/-- The bytes before the next zero byte, which is taken too. -/
def upToZero : ByteReader (List UInt8) := fun s =>
  match h : s.dropWhile (· ≠ 0) with
  | [] => none
  | _ :: rest => some (s.takeWhile (· ≠ 0), ⟨rest, by
      have := (List.dropWhile_suffix (p := (· ≠ 0)) (l := s)).length_le
      rw [h] at this
      exact Nat.le_of_succ_le this⟩)

/-- Repeats a step, which is given the first of the bytes that are left, until it has a result. -/
def loop {σ α : Type} (step : σ → UInt8 → ByteReader (σ ⊕ α)) (state : σ) : ByteReader α
  | [] => none
  | b :: s =>
    match step state b s with
    | none => none
    | some (.inr result, rest) => some (result, ⟨rest.1, Nat.le_succ_of_le rest.2⟩)
    | some (.inl next, rest) =>
      (loop step next rest.1).map fun (a, last) =>
        (a, ⟨last.1, Nat.le_succ_of_le (Nat.le_trans last.2 rest.2)⟩)
termination_by s => s.length
decreasing_by exact Nat.lt_succ_of_le rest.2

/-- The items that fill a byte sequence. Reading one is given the first of its bytes. -/
def all {α : Type} (item : UInt8 → ByteReader α) : List UInt8 → Option (List α)
  | [] => some []
  | b :: s =>
    match item b s with
    | none => none
    | some (a, rest) => (all item rest.1).map (a :: ·)
termination_by s => s.length
decreasing_by exact Nat.lt_succ_of_le rest.2

/-- A number in groups of seven bits, of which the first byte is known. At most `more` bytes follow,
and the last of that many is at most `last`. -/
def groupsFrom : (more : Nat) → (last : UInt8) → UInt8 → ByteReader Nat
  | 0, last, b => do
    require (b ≤ last)
    pure b.toNat
  | more + 1, last, b =>
    if b < 0x80 then pure b.toNat
    else do
      let rest ← groupsFrom more last (← byte)
      pure (b.toNat % 0x80 + 0x80 * rest)

/-- A number of at most 64 bits in groups of seven, of which the first byte is known. -/
def unsignedFrom (first : UInt8) : ByteReader Nat := groupsFrom 9 1 first

/-- A number of at most 64 bits in groups of seven. -/
def unsigned : ByteReader Nat := do unsignedFrom (← byte)

/-- A number of at most 16 bits in groups of seven. -/
def unsigned16 : ByteReader Nat := do groupsFrom 2 3 (← byte)

/-- A signed number in groups of seven bits, of which the first byte is known. Bit 6 of the last
byte is its sign; a byte that would lie beyond bit 63 can only repeat it. -/
def signedFrom : (more : Nat) → UInt8 → ByteReader Int
  | 0, b => do
    require (b = 0 || b = 0x7f)
    pure (if b = 0 then 0 else -1)
  | more + 1, b =>
    if b < 0x80 then pure (if b < 0x40 then b.toNat else b.toNat - 0x80)
    else do
      let rest ← signedFrom more (← byte)
      pure ((b.toNat % 0x80 : Nat) + 0x80 * rest)

/-- A signed number of at most 64 bits in groups of seven. -/
def signed : ByteReader Int := do signedFrom 9 (← byte)

/-- The value read from the front of a byte sequence, whatever follows it. -/
def value {α : Type} (r : ByteReader α) (s : List UInt8) : Option α := (r s).map (·.1)

end ByteReader

end HeapScope
