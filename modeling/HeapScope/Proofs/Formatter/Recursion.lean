import Mathlib.Data.List.Chain
import Mathlib.Logic.Function.Iterate
import HeapScope.Proofs.Formatter.Consultation

/-!
# How deep formatting goes

A summary asks for further summaries: of the elements of an array, one level deeper, and of what a
nullable value holds, on the same level. The heap may have cycles, and what is asked for next is
read from it, yet no chain of such calls goes on for ever: an element is on a deeper level, what a
nullable value holds has a type with fewer wrappers, and a class found on the heap has none at all.

## Shape of the proof

* `SummaryCall.Asks` says which summaries a summary asks for; `rank` gets smaller along it and no
  level is passed beyond the last one.
* `summaryWith` and `childrenWith` are one call each, with a parameter for the calls inside. A call
  depends on the parameter only where it asks for something (`summaryWith_congr`), so as many calls
  on top of each other as there is rank are the whole recursion (`iterate_summaryWith`).
* `KeepsLevels` follows the marks that summaries leave in the trace.
-/

namespace HeapScope

/-- A summary that is asked for: of a value, under a type, at a depth. -/
structure SummaryCall where
  value : Value
  type : TypeDescriptor
  depth : Nat

namespace Builtin

/-! ## Arrays -/

/-- How many elements an array has and where they begin; there is neither for null. -/
def arrayHead (c : Context) (v : Value) : Probe (Option (Nat × UInt64)) :=
  withObject c v none fun object => do
    let count := (← c.arrayCount object).toNat
    let data ← addExact object (← c.abi.dataOffset)
    return some (count, data)

/-- How many elements of an array its text shows. -/
def shownCount (config : FormatterConfig) (count : Nat) : Nat := min count config.maxArrayPreview

/-- The text of an array of some size from the texts of the elements that it shows. -/
def joinItems (config : FormatterConfig) (count : Nat) (items : List String) : String :=
  "size=" ++ Text.decimal count ++ " ["
    ++ ", ".intercalate (if shownCount config count < count then items ++ [ellipsis] else items)
    ++ "]"

/-- The text of an array is found by reading its head, then one element after the other. -/
theorem arrayText_eq (config : FormatterConfig) (c : Context) (v : Value)
    (item : UInt64 → Nat → Probe String) :
    arrayText config c v item = do
      match ← arrayHead c v with
      | none => return nullText
      | some (count, data) =>
        return joinItems config count (← tabulate (item data) (shownCount config count) 0) := by
  simp only [arrayText, arrayHead, withObject, bind_assoc]
  refine bind_congr fun object => ?_
  split
  · rfl
  · simp only [bind_assoc, pure_bind]
    rfl

/-- Probes for the same indices that agree on them make the same list. -/
theorem tabulate_congr {f g : Nat → Probe String} {n i : Nat}
    (h : ∀ j, i ≤ j → j < i + n → f j = g j) : tabulate f n i = tabulate g n i := by
  induction n generalizing i with
  | zero => rfl
  | succ n ih =>
    rw [tabulate, tabulate, h i (Nat.le_refl i) (by omega)]
    refine bind_congr fun text => ?_
    rw [ih fun j hij hj => h j (by omega) (by omega)]

/-- The text of the element at an index of an array at a depth. Up to the last depth it is a
summary; there it is a description. -/
def elementText (config : FormatterConfig) (c : Context) (next : SummaryCall → Probe String)
    (depth : Nat) (data : UInt64) (index : Nat) : Probe String := do
  let element ← slotValue c data index
  if depth + 1 < config.maxDepth then
    let d ← c.resolveOrStatic element .preferDynamic
    next ⟨d.toValue c.stop, d.type, depth + 1⟩
  else FormatterRegistry.describeElement c element

/-- What is built in for the summary of a value. The summaries of what is inside come from
`next`. -/
def summaryWith (config : FormatterConfig) (c : Context) (next : SummaryCall → Probe String)
    (call : SummaryCall) : Probe (Option String) :=
  match call.type with
  | .plain _ (.primitive k) => return some (← scalarText c call.value k)
  | .plain _ (.boxed k) => return some (← boxedText c call.value k)
  | .plain _ .string => return some (← stringText config c call.value)
  | .plain _ (.object _) => return none
  | .plain _ .interface => return none
  | .plain _ (.array (.primitive k)) =>
    return some (← arrayText config c call.value (primitiveElementText c k))
  | .plain _ (.array .reference) =>
    return some (← arrayText config c call.value (elementText config c next call.depth))
  | .plain h (.collection k) =>
    return some (← collectionText c call.value (.plain h (.collection k)) k)
  | .nullable _ inner => do
    match ← c.unwrap call.value inner with
    | none => return some nullText
    | some content =>
      return some (← next ⟨content.resolved.toValue call.value.stop, content.resolved.type,
        call.depth⟩)

end Builtin

namespace FormatterRegistry

/-- The summary that a call asks for. -/
def summaryOf (r : FormatterRegistry) (c : Context) (call : SummaryCall) : Probe String :=
  r.summaryAt c call.value call.type call.depth

/-- One call of a summary. The summaries of what is inside come from `next`. -/
def summaryWith (r : FormatterRegistry) (c : Context) (next : SummaryCall → Probe String)
    (call : SummaryCall) : Probe String := do
  Probe.note (.summary call.depth)
  r.summaryFrom c call.value call.type (Builtin.summaryWith r.config c next call)

/-- What is built in asks for further summaries one level deeper. -/
theorem builtinSummary_eq (r : FormatterRegistry) (c : Context) (v : Value) (t : TypeDescriptor)
    (depth : Nat) :
    r.builtinSummary c v t depth
      = Builtin.summaryWith r.config c (r.summaryOf c) ⟨v, t, depth⟩ := by
  rw [builtinSummary.eq_def, Builtin.summaryWith]
  split <;> rfl

/-- One call of a summary, with its own summary for what is inside, is the summary. -/
theorem summaryOf_eq (r : FormatterRegistry) (c : Context) (call : SummaryCall) :
    r.summaryOf c call = r.summaryWith c (r.summaryOf c) call := by
  rw [summaryOf, summaryAt_eq, builtinSummary_eq]
  rfl

end FormatterRegistry

/-! ## Which summaries a summary asks for -/

namespace SummaryCall

/-- Whether the text lists the elements of an array of references. -/
def expandsArray (call : SummaryCall) : Bool :=
  match call.type with
  | .plain _ (.array .reference) => true
  | _ => false

/-- The summaries that a summary asks for: above the last depth those of the resolved elements of an
array, one level deeper, and that of what a nullable value holds, on the same level. -/
inductive Asks (config : FormatterConfig) (c : Context) : SummaryCall → SummaryCall → Prop where
  | element {v : Value} {h : TypeHead} {depth count index : Nat} {data : UInt64} {element : Value}
      {d : DynamicValue}
      (head : (Builtin.arrayHead c v).outcome = .ok (some (count, data)))
      (shown : index < Builtin.shownCount config count)
      (slot : (Builtin.slotValue c data index).outcome = .ok element)
      (deeper : depth + 1 < config.maxDepth)
      (resolved : (c.resolveOrStatic element .preferDynamic).outcome = .ok d) :
      Asks config c ⟨v, .plain h (.array .reference), depth⟩ ⟨d.toValue c.stop, d.type, depth + 1⟩
  | content {v : Value} {h : TypeHead} {inner : TypeDescriptor} {depth : Nat}
      {content : Unwrapped inner}
      (found : (c.unwrap v inner).outcome = .ok (some content)) :
      Asks config c ⟨v, .nullable h inner, depth⟩
        ⟨content.resolved.toValue v.stop, content.resolved.type, depth⟩

/-- The deepest level on which there are summaries, counted from one. -/
def levels (config : FormatterConfig) : Nat := max 1 config.maxDepth

/-- What gets smaller from a summary to those that it asks for: the levels left, then the wrappers
of the type. -/
def rank (config : FormatterConfig) (call : SummaryCall) : Nat :=
  call.type.nesting + 2 * (levels config - call.depth)

end SummaryCall

namespace Context

/-- Resolving a value does not nest its type more deeply. -/
theorem nesting_le_of_resolveOrStatic {c : Context} {v : Value} {p : Preference} {d : DynamicValue}
    (h : (c.resolveOrStatic v p).outcome = .ok d) : d.type.nesting ≤ v.staticType.nesting := by
  obtain ⟨found, -, hd⟩ := Probe.exists_of_bind_ok h
  cases hd
  exact DynamicValue.nesting_ofFound_le v found

end Context

namespace Builtin

/-- The type of a slot is a wrapper around a plain type. -/
theorem nesting_of_slotValue {c : Context} {data : UInt64} {index : Nat} {element : Value}
    (h : (slotValue c data index).outcome = .ok element) : element.staticType.nesting = 1 := by
  obtain ⟨address, -, stored⟩ := Probe.exists_of_bind_ok h
  cases stored
  rfl

end Builtin

namespace SummaryCall.Asks

variable {config : FormatterConfig} {c : Context} {a b : SummaryCall}

/-- Every summary that is asked for is below the one that asks for it. -/
theorem rank_lt (h : Asks config c a b) : b.rank config < a.rank config := by
  cases h with
  | element head shown slot deeper resolved =>
    -- a level less is worth more than the one wrapper that a slot's type may add
    have nested := Context.nesting_le_of_resolveOrStatic resolved
    rw [Builtin.nesting_of_slotValue slot] at nested
    simp only [rank, levels, TypeDescriptor.nesting]
    omega
  | content found =>
    rename_i content
    have nested := content.nesting_le
    simp only [rank, TypeDescriptor.nesting]
    omega

/-- No summary is asked for beyond the last level. -/
theorem depth_lt (h : Asks config c a b) (ha : a.depth < levels config) :
    b.depth < levels config := by
  cases h with
  | element head shown slot deeper resolved => exact deeper.trans_le (Nat.le_max_right _ _)
  | content found => exact ha

/-- On the way from one summary to the next ones the levels and the wrappers run out. -/
theorem wellFounded (config : FormatterConfig) (c : Context) :
    WellFounded fun later earlier => Asks config c earlier later :=
  Subrelation.wf rank_lt (measure (rank config)).wf

/-- A path of summaries, each asked for by the one before, stays above the last level and meets an
array of references at most once on each level that is left. -/
theorem isChain_bounds {a : SummaryCall} {path : List SummaryCall}
    (chain : (a :: path).IsChain (Asks config c)) (ha : a.depth < levels config) :
    (∀ b ∈ a :: path, b.depth < levels config) ∧
      (a :: path).countP expandsArray ≤ levels config - a.depth := by
  induction path generalizing a with
  | nil =>
    refine ⟨by simpa using ha, ?_⟩
    have := List.countP_le_length (p := expandsArray) (l := [a])
    simp only [List.length_singleton] at this
    omega
  | cons b path ih =>
    obtain ⟨hab, hpath⟩ := List.isChain_cons_cons.1 chain
    obtain ⟨depths, count⟩ := ih hpath (hab.depth_lt ha)
    refine ⟨List.forall_mem_cons.2 ⟨ha, depths⟩, ?_⟩
    rw [List.countP_cons]
    cases hab with
    | @element v head depth _ _ _ _ _ _ _ _ deeper _ =>
      -- the array is counted here, and its element is one level deeper
      have expands : expandsArray ⟨v, .plain head (.array .reference), depth⟩ = true := rfl
      rw [if_pos expands]
      simp only at ha count ⊢
      omega
    | content found =>
      simpa [expandsArray] using count

end SummaryCall.Asks

/-! ## One call at a time -/

namespace Builtin

variable {config : FormatterConfig} {c : Context} {next other : SummaryCall → Probe String}

/-- The text of an element needs no summary but that of what the element resolves to. -/
theorem elementText_congr {depth : Nat} {data : UInt64} {index : Nat}
    (h : depth + 1 < config.maxDepth → ∀ element, (slotValue c data index).outcome = .ok element →
      ∀ d, (c.resolveOrStatic element .preferDynamic).outcome = .ok d →
        next ⟨d.toValue c.stop, d.type, depth + 1⟩ = other ⟨d.toValue c.stop, d.type, depth + 1⟩) :
    elementText config c next depth data index = elementText config c other depth data index := by
  rw [elementText, elementText]
  refine Probe.bind_congr fun element slot => ?_
  split
  case isTrue deeper => exact Probe.bind_congr fun d resolved => h deeper element slot d resolved
  case isFalse => rfl

/-- What is built in needs only those summaries that it asks for. -/
theorem summaryWith_congr {call : SummaryCall}
    (h : ∀ b, SummaryCall.Asks config c call b → next b = other b) :
    summaryWith config c next call = summaryWith config c other call := by
  obtain ⟨v, t, depth⟩ := call
  rw [summaryWith, summaryWith]
  split
  case h_7 head ht =>
    cases ht
    rw [arrayText_eq, arrayText_eq]
    congr 1
    refine Probe.bind_congr fun found hfound => ?_
    cases found with
    | none => rfl
    | some shape =>
      obtain ⟨count, data⟩ := shape
      refine congrArg (· >>= _) (tabulate_congr fun index _ hindex => ?_)
      refine elementText_congr fun deeper element slot d resolved => h _ ?_
      exact .element hfound (by omega) slot deeper resolved
  case h_9 head inner ht =>
    cases ht
    refine Probe.bind_congr fun found hfound => ?_
    cases found with
    | none => rfl
    | some content => exact congrArg (· >>= _) (h _ (.content hfound))
  all_goals rfl

variable {P : Event → Prop}

/-- Texts in a row leave what each of them does. -/
theorem leaves_tabulate {f : Nat → Probe String} {n i : Nat}
    (h : ∀ j, i ≤ j → j < i + n → (f j).Leaves P) : (tabulate f n i).Leaves P := by
  induction n generalizing i with
  | zero => exact Probe.leaves_pure _
  | succ n ih =>
    simp only [tabulate, Probe.leaves_bind, Probe.leaves_pure]
    refine ⟨h i (Nat.le_refl i) (by omega), fun _ _ => ⟨ih fun j hij hj => ?_, by simp⟩⟩
    exact h j (by omega) (by omega)

/-- The text of an array leaves what finding the texts of the elements that it shows leaves. -/
theorem leaves_arrayText {v : Value} {item : UInt64 → Nat → Probe String}
    (reads : ∀ e, e.isRead = true → P e)
    (h : ∀ count data index, (arrayHead c v).outcome = .ok (some (count, data)) →
      index < shownCount config count → (item data index).Leaves P) :
    (arrayText config c v item).Leaves P := by
  rw [arrayText_eq, Probe.leaves_bind]
  refine ⟨Probe.Leaves.mono (by simp [arrayHead]) reads, fun found hfound => ?_⟩
  cases found with
  | none => exact Probe.leaves_pure _
  | some shape =>
    simp only [Probe.leaves_bind, Probe.leaves_pure, implies_true, and_true]
    exact leaves_tabulate fun index _ hindex => h _ _ index hfound (by omega)

/-- What is built in reads, and leaves what the summaries that it asks for leave. -/
theorem leaves_summaryWith {call : SummaryCall} (reads : ∀ e, e.isRead = true → P e)
    (h : ∀ b, SummaryCall.Asks config c call b → (next b).Leaves P) :
    (summaryWith config c next call).Leaves P := by
  obtain ⟨v, t, depth⟩ := call
  rw [summaryWith]
  split
  case h_6 head k ht =>
    simp only [Probe.leaves_bind, Probe.leaves_pure, implies_true, and_true]
    exact leaves_arrayText reads fun count data index _ _ => Probe.Leaves.mono (by simp) reads
  case h_7 head ht =>
    cases ht
    simp only [Probe.leaves_bind, Probe.leaves_pure, implies_true, and_true]
    refine leaves_arrayText reads fun count data index hhead hindex => ?_
    rw [elementText, Probe.leaves_bind]
    refine ⟨Probe.Leaves.mono (by simp) reads, fun element slot => ?_⟩
    split
    case isTrue deeper =>
      rw [Probe.leaves_bind]
      refine ⟨Probe.Leaves.mono (by simp) reads, fun d resolved => h _ ?_⟩
      exact .element hhead hindex slot deeper resolved
    case isFalse => exact Probe.Leaves.mono (by simp) reads
  case h_9 head inner ht =>
    cases ht
    rw [Probe.leaves_bind]
    refine ⟨Probe.Leaves.mono (by simp) reads, fun found hfound => ?_⟩
    cases found with
    | none => exact Probe.leaves_pure _
    | some content =>
      simp only [Probe.leaves_bind, Probe.leaves_pure, implies_true, and_true]
      exact h _ (.content hfound)
  all_goals exact Probe.Leaves.mono (by simp) reads

end Builtin

namespace FormatterRegistry

variable {r : FormatterRegistry} {c : Context}

/-- A summary needs only those summaries that it asks for. -/
theorem summaryWith_congr {next other : SummaryCall → Probe String} {call : SummaryCall}
    (h : ∀ b, call.Asks r.config c b → next b = other b) :
    r.summaryWith c next call = r.summaryWith c other call := by
  rw [summaryWith, summaryWith, Builtin.summaryWith_congr h]

/-- After as many calls on top of each other as there are levels and wrappers left, no summary is
asked for any more. -/
theorem iterate_summaryWith (next : SummaryCall → Probe String) {n : Nat} {call : SummaryCall}
    (above : call.depth < SummaryCall.levels r.config) (enough : call.rank r.config ≤ n + 1) :
    (r.summaryWith c)^[n] next call = r.summaryOf c call := by
  induction n generalizing call with
  | zero =>
    -- on every level one call is left at least
    have left : 2 ≤ call.rank r.config := by
      rw [SummaryCall.rank]
      omega
    omega
  | succ n ih =>
    rw [Function.iterate_succ_apply', summaryOf_eq]
    refine summaryWith_congr fun b hb => ih (hb.depth_lt above) ?_
    have := hb.rank_lt
    omega

/-! ## The trace -/

/-- Whether a formatter of the host itself leaves an event in the trace. -/
def HostLeaves (r : FormatterRegistry) (e : Event) : Prop :=
  ∃ registration ∈ r.entries, ∃ f, registration.formatter.summary = some f ∧
    ∃ c v t, e ∈ (f c v t).events

/-- Whether an event is no mark of a summary below the last level, unless a formatter of the host
left it. -/
def KeepsLevels (r : FormatterRegistry) (e : Event) : Prop :=
  ∀ depth, e = .summary depth → depth < SummaryCall.levels r.config ∨ r.HostLeaves e

/-- A read has no depth to keep. -/
theorem keepsLevels_of_isRead {e : Event} (h : e.isRead = true) : r.KeepsLevels e := by
  rintro depth rfl
  cases h

/-- A formatter of the host leaves no mark of a summary but its own. -/
theorem keepsLevels_turn {e : Registration} (he : e ∈ r.entries) (v : Value) (t : TypeDescriptor) :
    (turn c v t e).Leaves r.KeepsLevels := by
  rw [turn]
  cases hf : e.formatter.summary with
  | none => simp
  | some f =>
    simp only [Probe.leaves_map, runSummary, Probe.leaves_bind, Probe.leaves_note,
      Probe.leaves_guarded]
    refine ⟨?_, ?_⟩
    · rintro depth ⟨⟩
    · intro _ _ event left depth _
      exact .inr ⟨e, he, f, hf, c, v, t, left⟩

/-- A summary leaves what its formatters and what is built in leave, and reads. -/
theorem keepsLevels_summaryFrom {v : Value} {t : TypeDescriptor} {builtin : Probe (Option String)}
    (h : builtin.Leaves r.KeepsLevels) : (r.summaryFrom c v t builtin).Leaves r.KeepsLevels := by
  have plain : (genericSummary c v t).Leaves r.KeepsLevels :=
    (onlyReads_genericSummary c v t).mono fun e => keepsLevels_of_isRead
  cases fresh : c.isFresh v with
  | false =>
    rw [summaryFrom, fresh]
    exact plain
  | true =>
    intro e he
    rw [(r.answers_summaryFrom fresh builtin).events, List.mem_append, List.mem_flatMap] at he
    obtain ⟨p, hp, hep⟩ | he := he
    · obtain hosted | own := List.mem_append.1 (mem_of_mem_upToFirst hp)
      · obtain ⟨registration, hr, rfl⟩ := List.mem_map.1 hosted
        have registered := (mem_matching_iff.1 (mem_of_mem_upToFirst hr)).1
        exact keepsLevels_turn registered v t e hep
      · split at own
        · rw [List.mem_singleton.1 own, Probe.events_guarded] at hep
          exact h e hep
        · cases own
    · split at he
      · cases he
      · exact plain e he

/-- A summary leaves marks of its own level and of those that it asks for. -/
theorem keepsLevels_summaryOf {call : SummaryCall}
    (above : call.depth < SummaryCall.levels r.config) :
    (r.summaryOf c call).Leaves r.KeepsLevels := by
  induction call using (SummaryCall.Asks.wellFounded r.config c).induction with
  | _ call ih =>
    rw [summaryOf_eq, summaryWith, Probe.leaves_bind, Probe.leaves_note]
    refine ⟨?_, fun _ _ => keepsLevels_summaryFrom ?_⟩
    · rintro depth ⟨⟩
      exact .inl above
    · refine Builtin.leaves_summaryWith (fun e => keepsLevels_of_isRead) fun b hb => ?_
      exact ih b hb (hb.depth_lt above)

/-! ## Children -/

/-- What is built in for the children of a value. The children of what a nullable value holds come
from `next`. -/
def builtinChildrenWith (c : Context) (next : Value → TypeDescriptor → Probe ChildSequence)
    (v : Value) (t : TypeDescriptor) : Probe ChildSequence :=
  match t with
  | .plain _ (.primitive _) => return .empty
  | .plain _ (.boxed _) => return .empty
  | .plain _ .string => return .empty
  | .plain h (.object f) => Builtin.fieldChildren c v (.plain h (.object f))
  | .plain h .interface => Builtin.fieldChildren c v (.plain h .interface)
  | .plain _ (.array element) => Builtin.arrayChildren c v element
  | .plain h (.collection k) => Builtin.collectionChildren c v (.plain h (.collection k)) k
  | .nullable _ inner => do
    match ← c.unwrap v inner with
    | none => return .empty
    | some content => next (content.resolved.toValue v.stop) content.resolved.type

/-- One call for the children of a value. The children of what is inside come from `next`. -/
def childrenWith (r : FormatterRegistry) (c : Context)
    (next : Value → TypeDescriptor → Probe ChildSequence) (v : Value) (t : TypeDescriptor) :
    Probe ChildSequence :=
  r.childrenFrom c v t (builtinChildrenWith c next v t)

/-- What is built in asks for the children of what a nullable value holds. -/
theorem builtinChildren_eq (r : FormatterRegistry) (c : Context) (v : Value) (t : TypeDescriptor) :
    r.builtinChildren c v t = builtinChildrenWith c (r.children c) v t := by
  rw [builtinChildren.eq_def]
  cases t with
  | plain h k => cases k <;> rfl
  | nullable h inner => rfl

/-- The children of a value need only those of a value whose type is nested less deeply. -/
theorem childrenWith_congr {next other : Value → TypeDescriptor → Probe ChildSequence} {v : Value}
    {t : TypeDescriptor} (h : ∀ v' t', t'.nesting < t.nesting → next v' t' = other v' t') :
    r.childrenWith c next v t = r.childrenWith c other v t := by
  suffices builtinChildrenWith c next v t = builtinChildrenWith c other v t by
    rw [childrenWith, childrenWith, this]
  cases t with
  | plain head kind => cases kind <;> rfl
  | nullable head inner =>
    refine bind_congr fun found => ?_
    cases found with
    | none => rfl
    | some content => exact h _ _ (Nat.lt_succ_of_le content.nesting_le)

/-- After as many calls on top of each other as the type has wrappers, and one more, no children are
asked for any more. -/
theorem iterate_childrenWith (next : Value → TypeDescriptor → Probe ChildSequence) {n : Nat}
    {v : Value} {t : TypeDescriptor} (enough : t.nesting < n) :
    (r.childrenWith c)^[n] next v t = r.children c v t := by
  induction n generalizing v t with
  | zero => exact absurd enough (Nat.not_lt_zero _)
  | succ n ih =>
    rw [Function.iterate_succ_apply', children_eq, builtinChildren_eq]
    exact childrenWith_congr fun v' t' ht => ih (by omega)

/-! ## Formatting ends -/

/-- Summaries and children of a value are found in the end, whatever the heap looks like. Each
summary needs only those that it asks for, and no chain of these goes on for ever: on a stack of as
many calls as twice the levels and the wrappers of the type nothing further is asked for, and
likewise for children. No summary is made beyond the last level; a path of summaries meets at most
one array of references on each level, and such an array on the last level asks for none. -/
theorem summarize_terminates (r : FormatterRegistry) (c : Context) (v : Value)
    (t : TypeDescriptor) :
    let levels := max 1 r.config.maxDepth
    let start : SummaryCall := ⟨v, t, 0⟩
    (WellFounded fun later earlier => SummaryCall.Asks r.config c earlier later) ∧
      (∀ call next, (∀ b, call.Asks r.config c b → next b = r.summaryOf c b) →
        r.summaryWith c next call = r.summaryOf c call) ∧
      (∀ next, (r.summaryWith c)^[t.nesting + 2 * levels] next start = r.summarize c v t) ∧
      (∀ next, (r.childrenWith c)^[t.nesting + 1] next v t = r.children c v t) ∧
      (∀ depth, .summary depth ∈ (r.summarize c v t).events →
        depth < levels ∨ r.HostLeaves (.summary depth)) ∧
      (∀ path, (start :: path).IsChain (SummaryCall.Asks r.config c) →
        (∀ call ∈ start :: path, call.depth < levels) ∧
          (start :: path).countP SummaryCall.expandsArray ≤ levels) ∧
      ∀ call next, call.expandsArray = true → levels ≤ call.depth + 1 →
        r.summaryWith c next call = r.summaryOf c call := by
  intro levels start
  have above : start.depth < SummaryCall.levels r.config := Nat.le_max_left 1 _
  have needs : ∀ call next, (∀ b, call.Asks r.config c b → next b = r.summaryOf c b) →
      r.summaryWith c next call = r.summaryOf c call := fun call next h => by
    rw [summaryOf_eq r c call]
    exact summaryWith_congr h
  refine ⟨SummaryCall.Asks.wellFounded _ _, needs, fun next => ?_, fun next => ?_,
    fun depth left => ?_, fun path chain => ?_, fun call next expands last => ?_⟩
  · exact iterate_summaryWith next above (Nat.le_succ _)
  · exact iterate_childrenWith next (Nat.lt_succ_self _)
  · exact keepsLevels_summaryOf above _ left depth rfl
  · exact SummaryCall.Asks.isChain_bounds chain above
  · refine needs call next fun b asked => ?_
    cases asked with
    | element head shown slot deeper resolved =>
      have : r.config.maxDepth ≤ levels := Nat.le_max_right _ _
      simp only at last
      omega
    | content found => cases expands

end FormatterRegistry

end HeapScope
