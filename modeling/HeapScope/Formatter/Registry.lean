import HeapScope.ChildSequence
import HeapScope.Context
import HeapScope.Formatter.Config
import HeapScope.Pattern.Reader

/-!
# Formatter registry

A host registers formatters for types: by name, by a pattern for names, or by the kind of type. A
formatter makes a summary, or children, or both. Where several are registered for a type, those for
its very name come first; among equals the higher priority wins, and then the earlier registration.
A summary may let the next formatter add to it.
-/

namespace HeapScope

open Pattern (Dialect NamePattern)

/-- The types that a formatter is for. -/
inductive TypePattern where
  | exact (name : String)
  | names (pattern : NamePattern)
  | category (category : TypeCategory)
deriving DecidableEq, Repr

namespace TypePattern

/-- A pattern that the whole name of a type must match. -/
def ofNames (d : Dialect) (pattern : String) : Except RegistrationError TypePattern :=
  match NamePattern.ofText d pattern with
  | some p => .ok (names p)
  | none => .error (.badPattern pattern "not a regular expression")

/-- Whether a formatter is for a type. -/
def holds (p : TypePattern) (t : TypeDescriptor) : Bool :=
  match p with
  | exact name => name == t.name
  | names pattern => pattern.holds t.name
  | category c => c == t.category

/-- Whether a pattern gives the name of a type. -/
def isExact : TypePattern → Bool
  | exact _ => true
  | _ => false

/-- Whether a pattern gives a name of blanks only, which no type has. -/
def isBlank : TypePattern → Bool
  | exact name => (Text.trim name.toList).isEmpty
  | _ => false

/-- A pattern as it is shown to developers. -/
def dump : TypePattern → String
  | exact name => Text.dumpPart "Exact" (Text.quoted name)
  | names p =>
    Text.dumpPart "Regex" (Text.dumpPart "Regex" (Text.quoted (NamePattern.anchored p.text)))
  | category c => Text.dumpPart "Category" c.name

end TypePattern

/-- What summarizes a value, given its resolved type. -/
abbrev SummaryFormatter := Context → Value → TypeDescriptor → Probe String

/-- What finds the children of a value, given its resolved type. -/
abbrev ChildrenFormatter := Context → Value → TypeDescriptor → Probe ChildSequence

/-- A formatter of a host. -/
structure Formatter where
  pattern : TypePattern
  summary : Option SummaryFormatter := none
  children : Option ChildrenFormatter := none
  cascade : Bool := false
  priority : Int := 0

/-- A formatter as it is shown to developers. -/
def Formatter.dump (f : Formatter) : String :=
  Text.dumpRecord "FormatterEntry"
    [("pattern", f.pattern.dump),
     ("has_summary", Text.dumpBool f.summary.isSome),
     ("has_children", Text.dumpBool f.children.isSome),
     ("cascade", Text.dumpBool f.cascade),
     ("priority", Text.signed f.priority)]

/-- A formatter under the number that it was given when it was registered. -/
structure Registration where
  id : Nat
  formatter : Formatter

/-- The formatters of a host in the order of their registration, and the limits of formatting. -/
structure FormatterRegistry where
  config : FormatterConfig := {}
  entries : List Registration := []
  nextId : Nat := 1

namespace FormatterRegistry

/-- Registers a formatter and gives it a number that no other one had. The registry that results is
returned also when the formatter is rejected. -/
def register (r : FormatterRegistry) (f : Formatter) :
    Except RegistrationError Nat × FormatterRegistry :=
  match f.pattern with
  | .exact name =>
    if f.pattern.isBlank then (.error (.badPattern name "empty type name"), r) else added r f
  | _ => added r f
where
  /-- The number of the new formatter and the registry that holds it. -/
  added (r : FormatterRegistry) (f : Formatter) :
      Except RegistrationError Nat × FormatterRegistry :=
    (.ok r.nextId, { r with entries := r.entries ++ [⟨r.nextId, f⟩], nextId := r.nextId + 1 })

/-- Registers a summary for the names that a pattern matches. -/
def registerNames (r : FormatterRegistry) (d : Dialect) (pattern : String) (priority : Int)
    (summary : SummaryFormatter) : Except RegistrationError Nat × FormatterRegistry :=
  match TypePattern.ofNames d pattern with
  | .ok p => r.register { pattern := p, summary := some summary, priority }
  | .error e => (.error e, r)

/-- Takes the formatter of a number out, and tells whether there was one. -/
def unregister (r : FormatterRegistry) (id : Nat) : Bool × FormatterRegistry :=
  let left := r.entries.filter fun e => e.id != id
  (r.entries.length != left.length, { r with entries := left })

/-- Whether a registration comes before another: by higher priority, and then by lower number. -/
def precedes (a b : Registration) : Bool :=
  b.formatter.priority < a.formatter.priority
    || (b.formatter.priority == a.formatter.priority && a.id ≤ b.id)

/-- The registrations for a type that are wanted, in the order in which they are consulted. -/
def matching (r : FormatterRegistry) (t : TypeDescriptor) (wanted : Formatter → Bool) :
    List Registration :=
  let found := r.entries.filter fun e => wanted e.formatter && e.formatter.pattern.holds t
  let (exact, others) := found.partition fun e => e.formatter.pattern.isExact
  exact.mergeSort precedes ++ others.mergeSort precedes

/-- A registry as it is shown to developers. -/
def dump (r : FormatterRegistry) : String :=
  Text.dumpRecord "FormatterRegistry"
    [("config", r.config.dump),
     ("entries", Text.dumpList (r.entries.map fun e =>
       "(" ++ Text.dumpPart "FormatterId" (Text.decimal e.id) ++ ", " ++ e.formatter.dump ++ ")"))]

end FormatterRegistry

end HeapScope
