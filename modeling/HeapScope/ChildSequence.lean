import HeapScope.Probe
import HeapScope.Text.Dump
import HeapScope.Value

/-!
# Sequences of children

The children of a value are a sequence that is read while it is walked and can be walked again. Its
length is fixed when it is made and bounds every walk. What makes the children may fail for single
ones and may crash: a crash ends the walk with one last error, and a crash while the walk is set up
leaves it without items. A walk itself never crashes.
-/

namespace HeapScope

/-- A child: a name, a value, and the key for an entry of a map. -/
structure Child where
  name : String
  value : Value
  key : Option Value := none
deriving DecidableEq, Repr

/-- What a walk yields: a child, or the error that stands in its place. -/
abbrev ChildItem := Except InspectionError Child

/-- What the maker of children does when it is asked for the next one: given how often it was asked
before and where it stands, it yields an item and where it stands then, or it is through. -/
abbrev ChildSource := (ordinal cursor : Nat) → Probe (Option (ChildItem × Nat))

/-- The children of a value. -/
structure ChildSequence where
  count : Nat
  begin : Probe ChildSource

/-- A walk through children, between two items. -/
structure ChildWalk where
  source : Option ChildSource
  remaining : Nat
  ordinal : Nat := 0
  cursor : Nat := 0

namespace ChildWalk

/-- The error that ends a walk whose source crashed. -/
def crashError : InspectionError := .malformed "synthetic children provider panicked"

/-- The next item, if there is one, and the walk behind it. -/
def next (w : ChildWalk) : Traced (Option ChildItem × ChildWalk) :=
  match w.remaining, w.source with
  | 0, _ => pure (none, w)
  | _ + 1, none => pure (none, w)
  | n + 1, some source => do
    match ← (source w.ordinal w.cursor).run with
    | .ok (some (item, cursor)) =>
      pure (some item, { w with remaining := n, ordinal := w.ordinal + 1, cursor })
    | .ok none => pure (none, { w with remaining := 0 })
    | .error _ => pure (some (.error crashError), { w with source := none, remaining := 0 })

/-- How many items are still to come: the least number that is known, and a bound. -/
def sizeHint (w : ChildWalk) : Nat × Option Nat := (0, some w.remaining)

/-- The next items, at most `limit` of them. -/
def take : Nat → ChildWalk → Traced (List ChildItem)
  | 0, _ => pure []
  | limit + 1, w => do
    match ← w.next with
    | (none, _) => pure []
    | (some item, w') => return item :: (← take limit w')

/-- The item behind `index` others, if the walk gets there. -/
def nth : Nat → ChildWalk → Traced (Option ChildItem)
  | 0, w => return (← w.next).1
  | index + 1, w => do
    match ← w.next with
    | (none, _) => pure none
    | (some _, w') => nth index w'

end ChildWalk

namespace ChildSequence

/-- A source that walks through a list. -/
def listSource (children : List Child) : ChildSource := fun ordinal cursor =>
  match children[ordinal]? with
  | some child => pure (some (.ok child, cursor))
  | none => pure none

/-- Children that are known already. -/
def ofList (children : List Child) : ChildSequence :=
  ⟨children.length, pure (listSource children)⟩

/-- No children. -/
def empty : ChildSequence := ofList []

/-- The item that a probe for one child amounts to; a crash remains one. -/
def itemOf (p : Probe Child) : Probe ChildItem := p.attempt

/-- A source that makes the child of each index below a bound. -/
def indexSource (count : Nat) (child : Nat → Probe Child) : ChildSource := fun ordinal cursor => do
  if ordinal < count then return some (← itemOf (child ordinal), cursor) else return none

/-- Children made from their index. -/
def indexed (count : Nat) (child : Nat → Probe Child) : ChildSequence :=
  ⟨count, pure (indexSource count child)⟩

/-- Starts a walk. -/
def walk (s : ChildSequence) : Traced ChildWalk := do
  match ← s.begin.run with
  | .ok source => pure { source := some source, remaining := s.count }
  | .error _ => pure { source := none, remaining := s.count }

/-- The first items of a walk, at most `limit`. -/
def items (s : ChildSequence) (limit : Nat) : Traced (List ChildItem) := do
  ChildWalk.take limit (← s.walk)

/-- A sequence as it is shown to developers: its length alone. -/
def dump (s : ChildSequence) : String :=
  Text.dumpRecord "SyntheticChildren" [("count", Text.decimal s.count)]

/-- The item at an index. -/
def get (s : ChildSequence) (index : Nat) : Traced (Option ChildItem) := do
  ChildWalk.nth index (← s.walk)

end ChildSequence

end HeapScope
