import HeapScope.Proofs.ChildSequence
import HeapScope.Proofs.Formatter.Consultation
import HeapScope.Proofs.Staleness
import HeapScope.Session

/-!
# Values of an earlier stop

A value that was found at one stop of a process says nothing about memory at another. Its class is
never looked up and it is never described: both are refused before anything is read.

A session that inspects such a value falls back on the static type, and from there on takes the
value for one of the current stop. `inspect_of_stale` and `inspectChildren_of_stale` say what this
comes to: the summary and the children are those of the same place at the current stop, under the
static type. So a stale value shows as stale only if nothing is to be seen at its place, which
`refusesStale_iff` makes precise.
-/

namespace HeapScope

/-- A value as if it had been found at another stop. -/
def Value.atStop (v : Value) (stop : UInt64) : Value := { v with stop }

/-- A type has the nullability of itself. -/
theorem TypeDescriptor.likeStatic_self (t : TypeDescriptor) : t.likeStatic t = t := by
  cases t <;> rfl

namespace Context

variable {c : Context} {v : Value}

/-- A value whose static type settles its class stays as it is declared, fresh or not. -/
theorem resolveOrStatic_of_settled
    (h : (!couldBeDynamic v.staticType || v.staticType.isFinal) = true) (p : Preference) :
    c.resolveOrStatic v p = pure (.unchanged v) := by
  by_cases fresh : v.stop = c.stop
  · rw [resolveOrStatic, findClassIfAny, findClass, validate, if_pos (isFresh_iff.2 fresh),
      pure_bind, if_pos h]
    rfl
  · exact resolveOrStatic_of_stale fresh p

end Context

namespace FormatterRegistry

variable {r : FormatterRegistry} {c : Context} {v : Value}

/-- The plain summary of a value that is no reference shows the place of the value itself. -/
theorem genericSummary_of_ne_reference (h : v.kind ≠ .reference) (t : TypeDescriptor) :
    genericSummary c v t = pure (t.name ++ " @ " ++ v.location.text) := by
  rw [genericSummary]
  cases hkind : v.kind with
  | reference => exact absurd hkind h
  | object => rfl
  | scalar k => rfl

/-- An object of a class that no formatter is for is summarized as its class and place. -/
theorem summarize_of_unformatted_object (fresh : c.isFresh v = true) (h : v.kind ≠ .reference)
    {head : TypeHead} {isFinal : Bool}
    (unformatted : r.summaryEntries (.plain head (.object isFinal)) = []) :
    (r.summarize c v (.plain head (.object isFinal))).outcome =
      .ok (head.name ++ " @ " ++ v.location.text) := by
  have builtin : r.builtinSummary c v (.plain head (.object isFinal)) 0 = pure none := by
    rw [builtinSummary.eq_def]
  rw [summarize, summaryAt, unformatted, builtin, fresh, genericSummary_of_ne_reference h]
  rfl

/-- An object has no children if no formatter has some for its class and the layout is not known. -/
theorem children_of_unformatted_object (fresh : c.isFresh v = true)
    {head : TypeHead} {isFinal : Bool}
    (unformatted : r.childrenEntries (.plain head (.object isFinal)) = [])
    (unknown : Builtin.layoutOf c (.plain head (.object isFinal)) = none) :
    (r.children c v (.plain head (.object isFinal))).outcome = .ok .empty := by
  have builtin : r.builtinChildren c v (.plain head (.object isFinal)) = pure .empty := by
    rw [builtinChildren.eq_def]
    show Builtin.fieldChildren c v _ = _
    rw [Builtin.fieldChildren, unknown]
  rw [children.eq_def, childrenEntry, unformatted, builtin, fresh]
  rfl

end FormatterRegistry

namespace Session

variable {s : Session} {v : Value}

/-- A stale value is inspected as what lies at its place at the current stop, under its static
type. -/
theorem inspect_of_stale (stale : v.stop ≠ s.stop) :
    s.inspect v = (do
      let summary ← s.formatters.summarize s.context (v.atStop s.stop) v.staticType
      return ⟨"", v.staticType, v.staticType, summary⟩) := by
  rw [inspect, inspectNamed]
  rw [Context.resolveOrStatic_of_stale (c := s.context) stale, pure_bind]
  simp only [DynamicValue.unchanged, TypeDescriptor.likeStatic_self]
  rfl

/-- The children of a stale value are those of what lies at its place at the current stop, under its
static type. -/
theorem inspectChildren_of_stale (stale : v.stop ≠ s.stop) (limit : Nat) :
    s.inspectChildren v limit = (do
      let children ← s.formatters.children s.context (v.atStop s.stop) v.staticType
      let walk ← ExceptT.lift children.walk
      return (children.count, ← s.inspectNext limit walk)) := by
  rw [inspectChildren]
  rw [Context.resolveOrStatic_of_stale (c := s.context) stale, pure_bind]
  rfl

/-- Where the static type settles the class, inspecting does not tell a stale value from a fresh
one. -/
theorem inspect_of_settled
    (h : (!Context.couldBeDynamic v.staticType || v.staticType.isFinal) = true) :
    s.inspect v = s.inspect (v.atStop s.stop) := by
  rw [inspect, inspect, inspectNamed, inspectNamed]
  rw [Context.resolveOrStatic_of_settled h, pure_bind,
    Context.resolveOrStatic_of_settled (v := v.atStop s.stop) h, pure_bind]
  rfl

/-- What it means to treat a value as stale: whatever memory holds, inspecting it shows
the static type and its place, it has no children, and it is not described. -/
structure RefusesStale (s : Session) (v : Value) : Prop where
  inspect : ∀ memory, ((s.loadSnapshot memory).inspect v).outcome =
    .ok ⟨"", v.staticType, v.staticType, v.staticType.name ++ " @ " ++ v.location.text⟩
  children : ∀ memory limit,
    ((s.loadSnapshot memory).inspectChildren v limit).outcome = .ok (0, [])
  describe : ∀ memory, ((s.loadSnapshot memory).describe v).outcome =
    .error (.failed (Context.staleError s.stop v))

/-- A stale value is inspected as its type and a summary exactly if that is the summary of what lies
at its place. -/
theorem inspect_of_stale_iff (stale : v.stop ≠ s.stop) {summary : String} :
    (s.inspect v).outcome = .ok ⟨"", v.staticType, v.staticType, summary⟩ ↔
      (s.formatters.summarize s.context (v.atStop s.stop) v.staticType).outcome = .ok summary := by
  rw [inspect_of_stale stale, Probe.outcome_bind]
  cases (s.formatters.summarize s.context (v.atStop s.stop) v.staticType).outcome with
  | error e => simp [bind, Except.bind]
  | ok text => simp [bind, Except.bind]

/-- A walk without items left is over at once. -/
theorem inspectNext_of_remaining_eq_zero {w : ChildWalk} (h : w.remaining = 0) (limit : Nat) :
    (s.inspectNext limit w).outcome = .ok [] := by
  cases limit with
  | zero => rfl
  | succ limit =>
    have finished : w.next = pure (none, w) := by
      rw [ChildWalk.next, h]
    rw [inspectNext, finished]
    rfl

/-- A stale value has no children exactly if what lies at its place has none. -/
theorem inspectChildren_of_stale_iff (stale : v.stop ≠ s.stop) (limit : Nat) :
    (s.inspectChildren v limit).outcome = .ok (0, []) ↔
      ∃ children, (s.formatters.children s.context (v.atStop s.stop) v.staticType).outcome
        = .ok children ∧ children.count = 0 := by
  rw [inspectChildren_of_stale stale, Probe.outcome_bind]
  cases (s.formatters.children s.context (v.atStop s.stop) v.staticType).outcome with
  | error e => simp [bind, Except.bind]
  | ok children =>
    have walked : (do
        let walk ← ExceptT.lift children.walk
        return (children.count, ← s.inspectNext limit walk) : Probe _).outcome =
        (s.inspectNext limit children.walk.value).outcome.map fun items =>
          (children.count, items) := by
      rw [Probe.outcome_bind, Probe.outcome_lift]
      exact Probe.outcome_bind _ _
    show Probe.outcome _ = _ ↔ _
    rw [walked]
    constructor
    · intro h
      cases hitems : (s.inspectNext limit children.walk.value).outcome with
      | error e =>
        rw [hitems] at h
        cases h
      | ok items =>
        rw [hitems] at h
        exact ⟨children, rfl, congrArg Prod.fst (Except.ok.inj h)⟩
    · rintro ⟨other, same, hcount⟩
      cases same
      rw [inspectNext_of_remaining_eq_zero (children.remaining_walk.trans hcount)]
      simp [Except.map, hcount]

/-- A stale value is never described. It is inspected as stale, without children, exactly if,
whatever memory holds, what lies at its place at the current stop has no other summary under the
static type than type and place, and no children. -/
theorem refusesStale_iff (stale : v.stop ≠ s.stop) :
    s.describe v = Probe.fail (Context.staleError s.stop v) ∧
      (s.RefusesStale v ↔ ∀ memory,
        let c := (s.loadSnapshot memory).context
        (s.formatters.summarize c (v.atStop s.stop) v.staticType).outcome =
            .ok (v.staticType.name ++ " @ " ++ v.location.text) ∧
          ∃ children, (s.formatters.children c (v.atStop s.stop) v.staticType).outcome
            = .ok children ∧ children.count = 0) := by
  -- replacing captured memory leaves the current stop and the formatters as they are
  have stale' : ∀ memory, v.stop ≠ (s.loadSnapshot memory).stop := fun _ => stale
  refine ⟨Context.describe_of_stale (c := s.context) stale, fun refuses memory => ?_, fun h => ?_⟩
  · refine ⟨?_, (inspectChildren_of_stale_iff (stale' memory) 0).1 (refuses.children memory 0)⟩
    exact (inspect_of_stale_iff (stale' memory)).1 (refuses.inspect memory)
  · refine ⟨fun memory => ?_, fun memory limit => ?_, fun memory => ?_⟩
    · exact (inspect_of_stale_iff (stale' memory)).2 (h memory).1
    · exact (inspectChildren_of_stale_iff (stale' memory) limit).2 (h memory).2
    · have refused :
          (s.loadSnapshot memory).describe v = Probe.fail (Context.staleError s.stop v) :=
        Context.describe_of_stale (c := (s.loadSnapshot memory).context) (stale' memory)
      rw [refused, Probe.outcome_fail]

/-- An object whose class nothing is known about, at a place of an earlier stop, is refused. -/
theorem refusesStale_plain_object :
    let s := create .linuxX8664 {}
    let v : Value := ⟨.object "app.Node" false, .memory 0x5000, .object, 2⟩
    v.stop ≠ s.stop ∧ s.RefusesStale v := by
  intro s v
  have stale : v.stop ≠ s.stop := by decide
  refine ⟨stale, (refusesStale_iff stale).2.2 fun memory => ⟨?_, .empty, ?_, rfl⟩⟩
  · exact FormatterRegistry.summarize_of_unformatted_object rfl (by decide)
      (FormatterRegistry.matching_of_entries_nil rfl _ _)
  · exact FormatterRegistry.children_of_unformatted_object rfl
      (FormatterRegistry.matching_of_entries_nil rfl _ _) rfl

/-- A primitive of an earlier stop is shown as what memory holds at its place now. -/
theorem inspect_stale_boolean :
    let s := (create .linuxX8664 {}).loadSnapshot ⟨[⟨0x1000, [1]⟩]⟩
    let v : Value := ⟨.primitive .boolean, .memory 0x1000, .scalar .boolean, 2⟩
    v.stop ≠ s.stop ∧ (s.inspect v).outcome = .ok ⟨"", v.staticType, v.staticType, "true"⟩ ∧
      ¬ s.RefusesStale v := by
  intro s v
  have stale : v.stop ≠ s.stop := by decide
  have shown : (s.inspect v).outcome = .ok ⟨"", v.staticType, v.staticType, "true"⟩ := by
    refine (inspect_of_stale_iff stale).2 ?_
    have unformatted : s.formatters.summaryEntries v.staticType = [] :=
      FormatterRegistry.matching_of_entries_nil rfl _ _
    have builtin : s.formatters.builtinSummary s.context (v.atStop s.stop) v.staticType 0 =
        some <$> Builtin.scalarText s.context (v.atStop s.stop) .boolean := by
      rw [FormatterRegistry.builtinSummary.eq_def]
      rfl
    rw [FormatterRegistry.summarize, FormatterRegistry.summaryAt, unformatted, builtin]
    rfl
  refine ⟨stale, shown, fun refuses => ?_⟩
  have refused := refuses.inspect s.memory
  rw [show s.loadSnapshot s.memory = s from rfl, shown] at refused
  have : "true" = v.staticType.name ++ " @ " ++ v.location.text :=
    congrArg Inspection.summary (Except.ok.inj refused)
  exact absurd this (by decide)

end Session

end HeapScope
