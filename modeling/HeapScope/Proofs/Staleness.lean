import HeapScope.Formatter.Children
import HeapScope.Proofs.Reading

/-!
# Values of another stop

Every operation on a value compares the stop of the value with the current one before it looks at
anything. So a stale value is refused, or shown as it is declared, on the strength of the two stop
numbers alone: no memory and no register is read for it, and no formatter of the host has a say.

A summary that is refused is still a text. The plain one is the only one that may be given then, and
for a stale value it shows the place of the value itself instead of following a reference there.
-/

namespace HeapScope

/-- Whether an event only marks that a summary was asked for. All other events are reads, or
formatters of the host at work. -/
def Event.isMark : Event → Bool
  | .summary _ => true
  | _ => false

/-- A probe ends as it is said to without looking: it reads no memory and no register and consults
no formatter of the host. -/
structure Probe.EndsUnread {α : Type} (p : Probe α) (result : Except Stop α) : Prop where
  outcome : p.outcome = result
  events : p.Leaves fun e => e.isMark = true

namespace Probe.EndsUnread

variable {α : Type}

/-- An inspection error is an end without a read. -/
theorem fail (e : InspectionError) : (Probe.fail e : Probe α).EndsUnread (.error (.failed e)) :=
  ⟨rfl, leaves_fail e⟩

/-- So is a value by itself. -/
theorem pure (a : α) : (Pure.pure a : Probe α).EndsUnread (.ok a) := ⟨rfl, leaves_pure a⟩

end Probe.EndsUnread

namespace Context

variable {c : Context} {v : Value}

/-- A value is fresh if it was found at the current stop. -/
theorem isFresh_iff : c.isFresh v = true ↔ v.stop = c.stop := beq_iff_eq

/-- A value of another stop is not fresh. -/
theorem isFresh_of_stale (h : v.stop ≠ c.stop) : c.isFresh v = false :=
  Bool.eq_false_iff.2 (mt isFresh_iff.1 h)

/-- A stale value is refused before anything is read. -/
theorem validate_of_stale (h : v.stop ≠ c.stop) :
    c.validate v = Probe.fail (staleError c.stop v) := by
  rw [validate, if_neg (mt isFresh_iff.1 h)]

/-- The class of a stale value is not looked up. -/
theorem findClass_of_stale (h : v.stop ≠ c.stop) (p : Preference) :
    c.findClass v p = Probe.fail (staleError c.stop v) := by
  rw [findClass, validate_of_stale h, Probe.fail_bind]

/-- A stale value is not resolved. -/
theorem resolve_of_stale (h : v.stop ≠ c.stop) (p : Preference) :
    c.resolve v p = Probe.fail (staleError c.stop v) := by
  rw [resolve, findClass_of_stale h, Probe.fail_bind]

/-- A stale value stays as it is declared. -/
theorem resolveOrStatic_of_stale (h : v.stop ≠ c.stop) (p : Preference) :
    c.resolveOrStatic v p = pure (.unchanged v) := by
  rw [resolveOrStatic, findClassIfAny, findClass_of_stale h, Probe.attempt_fail]
  rfl

/-- A stale value is not described. -/
theorem describe_of_stale (h : v.stop ≠ c.stop) :
    c.describe v = Probe.fail (staleError c.stop v) := by
  rw [describe, validate_of_stale h, Probe.fail_bind]

/-- A stale value is neither true nor false. -/
theorem isTrue_of_stale (h : v.stop ≠ c.stop) :
    c.isTrue v = Probe.fail (staleError c.stop v) := by
  rw [isTrue, resolve_of_stale h, Probe.fail_bind]

end Context

namespace FormatterRegistry

variable {c : Context} {v : Value}

/-- The plain summary of a stale value shows the place of the value itself, also for a reference. -/
theorem genericSummary_of_stale (h : v.stop ≠ c.stop) (t : TypeDescriptor) :
    genericSummary c v t = pure (t.name ++ " @ " ++ v.location.text) := by
  rw [genericSummary, Context.isFresh_of_stale h]
  cases v.kind <;> rfl

/-- The summary of a stale value is the plain one, whatever formatters there are. -/
theorem summarize_of_stale (h : v.stop ≠ c.stop) (r : FormatterRegistry) (t : TypeDescriptor) :
    r.summarize c v t = (do
      Probe.note (.summary 0)
      return t.name ++ " @ " ++ v.location.text) := by
  rw [summarize, summaryAt, Context.isFresh_of_stale h, genericSummary_of_stale h]
  rfl

/-- A stale value has no children. -/
theorem children_of_stale (h : v.stop ≠ c.stop) (r : FormatterRegistry) (t : TypeDescriptor) :
    r.children c v t = pure .empty := by
  rw [children, Context.isFresh_of_stale h]
  rfl

/-- What is built in for summaries refuses a value of another stop. -/
theorem hardcodedSummary_of_stale (h : v.stop ≠ c.stop) (r : FormatterRegistry)
    (t : TypeDescriptor) :
    r.hardcodedSummary c v t = Probe.fail (Context.staleError c.stop v) := by
  rw [hardcodedSummary, Context.validate_of_stale h, Probe.fail_bind]

/-- What is built in for children refuses a value of another stop. -/
theorem hardcodedChildren_of_stale (h : v.stop ≠ c.stop) (r : FormatterRegistry)
    (t : TypeDescriptor) :
    r.hardcodedChildren c v t = Probe.fail (Context.staleError c.stop v) := by
  rw [hardcodedChildren, Context.validate_of_stale h, Probe.fail_bind]

/-- At a stop other than its own a value is refused with one and the same error, which names its
address, or zero if it lies in a register; where an answer is due all the same, it is the declared
type and place and no children. What the error says and what is answered is settled before any
memory, register, type or formatter is given, and nothing is read and nobody consulted for it. -/
theorem stale_refused (v : Value) {stop : UInt64} (stale : v.stop ≠ stop) :
    ∃ reason, ∀ (c : Context) (r : FormatterRegistry) (t : TypeDescriptor) (p : Preference),
      c.stop = stop →
        let refusal := Stop.failed (.inaccessible (v.location.address?.getD 0) reason)
        (c.resolve v p).EndsUnread (.error refusal) ∧
        (c.describe v).EndsUnread (.error refusal) ∧
        (c.isTrue v).EndsUnread (.error refusal) ∧
        (r.hardcodedSummary c v t).EndsUnread (.error refusal) ∧
        (r.hardcodedChildren c v t).EndsUnread (.error refusal) ∧
        (c.resolveOrStatic v p).EndsUnread (.ok ⟨v.staticType, v.location, v.kind⟩) ∧
        (r.summarize c v t).EndsUnread (.ok (t.name ++ " @ " ++ v.location.text)) ∧
        (r.children c v t).EndsUnread (.ok .empty) := by
  refine ⟨"stale value handle (stop " ++ Text.decimal v.stop.toNat ++ ", current stop "
    ++ Text.decimal stop.toNat ++ ")", ?_⟩
  rintro c r t p rfl refusal
  rw [Context.resolve_of_stale stale, Context.describe_of_stale stale,
    Context.isTrue_of_stale stale, hardcodedSummary_of_stale stale,
    hardcodedChildren_of_stale stale, Context.resolveOrStatic_of_stale stale,
    summarize_of_stale stale, children_of_stale stale]
  refine ⟨.fail _, .fail _, .fail _, .fail _, .fail _, .pure _, ⟨rfl, ?_⟩, .pure _⟩
  -- asking for the summary is all that leaves a mark
  simp [Event.isMark]

/-- A reference that was found in a register at the second stop is refused at the first one. -/
theorem stale_refused_register :
    let v : Value := ⟨.anyReference, .register .rdi, .reference, 2⟩
    let c : Context :=
      { memory := fun _ size => .ok (List.replicate size 0)
        registers := some fun _ => .ok 0x1000
        metadata := ⟨fun _ => none, fun _ => none⟩ }
    v.stop ≠ c.stop ∧
      ∃ reason, (c.describe v).EndsUnread (.error (.failed (.inaccessible 0 reason))) ∧
        (c.resolveOrStatic v .preferDynamic).EndsUnread
          (.ok ⟨.anyReference, .register .rdi, .reference⟩) := by
  intro v c
  have stale : v.stop ≠ c.stop := by decide
  obtain ⟨reason, refused⟩ := stale_refused v stale
  obtain ⟨-, describe, -, -, -, resolve, -, -⟩ := refused c {} .anyReference .preferDynamic rfl
  exact ⟨stale, reason, describe, resolve⟩

end FormatterRegistry

end HeapScope
