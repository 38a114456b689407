import HeapScope.Formatter.Summary

/-!
# Children

The children of a value come from the first formatter of the host that has some for its type, and
otherwise from what is built in: elements, entries and fields. If that fails or crashes there are no
children. A nullable value has the children of what it holds.
-/

namespace HeapScope.FormatterRegistry

/-- Runs a formatter of the host under guard. -/
def runChildren (c : Context) (v : Value) (t : TypeDescriptor) (e : Registration)
    (children : ChildrenFormatter) : Probe ChildSequence := do
  Probe.note (.formatter e.id)
  (children c v t).guarded

/-- The first formatter for the children of a type. -/
def childrenEntry (r : FormatterRegistry) (t : TypeDescriptor) :
    Option (Registration × ChildrenFormatter) :=
  (r.childrenEntries t).findSome? fun e => e.formatter.children.map fun f => (e, f)

/-- The children that a probe finds, and none where it fails. -/
def orNone (p : Probe ChildSequence) : Probe ChildSequence := do
  match ← p.attempt with
  | .ok children => return children
  | .error _ => return .empty

mutual

/-- The children of a value under its resolved type. -/
def children (r : FormatterRegistry) (c : Context) (v : Value) (t : TypeDescriptor) :
    Probe ChildSequence :=
  if !c.isFresh v then return .empty
  else
    match r.childrenEntry t with
    | some (e, f) => orNone (runChildren c v t e f)
    | none => orNone (r.builtinChildren c v t).guarded
termination_by (t.nesting, 1)

/-- The children that are built in for a value. -/
def builtinChildren (r : FormatterRegistry) (c : Context) (v : Value) (t : TypeDescriptor) :
    Probe ChildSequence :=
  match t with
  | .plain _ (.primitive _) => return .empty
  | .plain _ (.boxed _) => return .empty
  | .plain _ .string => return .empty
  | .plain h (.object f) => Builtin.fieldChildren c v (.plain h (.object f))
  | .plain h .interface => Builtin.fieldChildren c v (.plain h .interface)
  | .plain _ (.array element) => Builtin.arrayChildren c v element
  | .plain h (.collection k) => Builtin.collectionChildren c v (.plain h (.collection k)) k
  | .nullable _ inner => do
    match ← c.unwrap v inner with
    | none => return .empty
    | some content =>
      have := content.nesting_le
      r.children c (content.resolved.toValue v.stop) content.resolved.type
termination_by (t.nesting, 0)
decreasing_by
  exact Prod.Lex.left _ _ (by simp only [TypeDescriptor.nesting]; omega)

end

/-- The children that are built in for a value, whatever the host has registered for its type. -/
def hardcodedChildren (r : FormatterRegistry) (c : Context) (v : Value) (t : TypeDescriptor) :
    Probe ChildSequence := do
  c.validate v
  (r.builtinChildren c v t).guarded

end HeapScope.FormatterRegistry
