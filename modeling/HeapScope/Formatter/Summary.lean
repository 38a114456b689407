import HeapScope.Formatter.Builtin
import HeapScope.Formatter.Registry

/-!
# Summaries

A summary is one line of text on a value. The formatters of the host are consulted in order, each
adding its text, until one does not let the next go on; what is built in comes last. If one of them
fails or crashes, the summary is the plain one, type and address, and nothing else of what was
found.

## Depth

Elements of an array of references are summarized one level deeper, and at the last level only
described. A nullable value is unwrapped on the same level; its type is then nested less deeply,
because no class on the heap is nullable. So the levels left and the nesting of the type bound the
recursion, whatever the heap looks like.
-/

namespace HeapScope

/-- What the formatters of a host came to: one failed, the last one consulted had the last word, or
all let the next one go on. -/
inductive Consultation where
  | failed
  | settled (texts : List String)
  | passed (texts : List String)
deriving DecidableEq, Repr

/-- Puts a text in front of what later formatters came to. -/
def Consultation.cons (text : String) : Consultation → Consultation
  | failed => failed
  | settled texts => settled (text :: texts)
  | passed texts => passed (text :: texts)

namespace FormatterRegistry

/-- The summary of a value that no formatter is for: its type and where it is. A reference is
followed if it can be. -/
def genericSummary (c : Context) (v : Value) (t : TypeDescriptor) : Probe String := do
  let location ← match v.kind with
    | .reference =>
      if c.isFresh v then
        match ← (c.objectAddress v).attempt with
        | .ok object => pure (ValueLocation.memory object)
        | .error _ => pure v.location
      else pure v.location
    | _ => pure v.location
  return t.name ++ " @ " ++ location.text

/-- Runs a formatter of the host under guard. -/
def runSummary (c : Context) (v : Value) (t : TypeDescriptor) (e : Registration)
    (summary : SummaryFormatter) : Probe String := do
  Probe.note (.formatter e.id)
  (summary c v t).guarded

/-- Consults formatters in order. -/
def consult (c : Context) (v : Value) (t : TypeDescriptor) :
    List Registration → Probe Consultation
  | [] => return .passed []
  | e :: es =>
    match e.formatter.summary with
    | none => consult c v t es
    | some summary => do
      match ← (runSummary c v t e summary).attempt with
      | .error _ => return .failed
      | .ok text =>
        if e.formatter.cascade then return (← consult c v t es).cons text
        else return .settled [text]

/-- The formatters that are consulted for the summary of a type. -/
def summaryEntries (r : FormatterRegistry) (t : TypeDescriptor) : List Registration :=
  r.matching t fun f => f.summary.isSome

/-- The formatters that are consulted for the children of a type. -/
def childrenEntries (r : FormatterRegistry) (t : TypeDescriptor) : List Registration :=
  r.matching t fun f => f.children.isSome

/-- Texts joined by single spaces. -/
def joinTexts (texts : List String) : String := " ".intercalate texts

/-- The description of an element that is not expanded: its class and address, or the plain summary
where that cannot be read. -/
def describeElement (c : Context) (v : Value) : Probe String := do
  match ← (c.describe v).attempt with
  | .ok text => return text
  | .error _ => genericSummary c v v.staticType

mutual

/-- The summary of a value at a depth, under its resolved type. -/
def summaryAt (r : FormatterRegistry) (c : Context) (v : Value) (t : TypeDescriptor)
    (depth : Nat) : Probe String := do
  Probe.note (.summary depth)
  if !c.isFresh v then genericSummary c v t
  else
    match ← consult c v t (r.summaryEntries t) with
    | .failed => genericSummary c v t
    | .settled texts => return joinTexts texts
    | .passed texts =>
      match ← (r.builtinSummary c v t depth).guarded.attempt with
      | .error _ => genericSummary c v t
      | .ok (some text) => return joinTexts (texts ++ [text])
      | .ok none => if texts.isEmpty then genericSummary c v t else return joinTexts texts
termination_by (r.config.maxDepth - depth, t.nesting, 1)

/-- The summary that is built in for a value at a depth, if there is one for its type. -/
def builtinSummary (r : FormatterRegistry) (c : Context) (v : Value) (t : TypeDescriptor)
    (depth : Nat) : Probe (Option String) := do
  match t with
  | .plain _ (.primitive k) => return some (← Builtin.scalarText c v k)
  | .plain _ (.boxed k) => return some (← Builtin.boxedText c v k)
  | .plain _ .string => return some (← Builtin.stringText r.config c v)
  | .plain _ (.object _) => return none
  | .plain _ .interface => return none
  | .plain _ (.array (.primitive k)) =>
    return some (← Builtin.arrayText r.config c v (Builtin.primitiveElementText c k))
  | .plain _ (.array .reference) =>
    return some (← Builtin.arrayText r.config c v fun data index => do
      let element ← Builtin.slotValue c data index
      if _deeper : depth + 1 < r.config.maxDepth then
        let d ← c.resolveOrStatic element .preferDynamic
        r.summaryAt c (d.toValue c.stop) d.type (depth + 1)
      else describeElement c element)
  | .plain h (.collection k) =>
    return some (← Builtin.collectionText c v (.plain h (.collection k)) k)
  | .nullable _ inner =>
    match ← c.unwrap v inner with
    | none => return some Builtin.nullText
    | some content =>
      have := content.nesting_le
      return some (← r.summaryAt c (content.resolved.toValue v.stop) content.resolved.type depth)
termination_by (r.config.maxDepth - depth, t.nesting, 0)
decreasing_by
  · exact Prod.Lex.left _ _ (by omega)
  · exact Prod.Lex.right _ (Prod.Lex.left _ _ (by simp only [TypeDescriptor.nesting]; omega))

end

/-- The summary of a value under its resolved type. -/
def summarize (r : FormatterRegistry) (c : Context) (v : Value) (t : TypeDescriptor) :
    Probe String :=
  r.summaryAt c v t 0

/-- The summary that is built in for a value, whatever the host has registered for its type. -/
def hardcodedSummary (r : FormatterRegistry) (c : Context) (v : Value) (t : TypeDescriptor) :
    Probe (Option String) := do
  c.validate v
  (r.builtinSummary c v t 0).guarded

end FormatterRegistry

end HeapScope
