import Mathlib.Data.List.Forall2
import HeapScope.Proofs.ChildSequence

/-!
# Results that differ in wording only

Memory can refuse a read for many reasons, and the reason is part of the error. Two runs of one
operation on memories that refuse the same reads end alike: with the same value, or with errors that
differ in the reasons only. `Probe.Alike` says so, with a relation for the values, because a value
may hold errors itself: an attempt has the error of what was attempted, and so has an item of a
walk.

For each way of building probes there is a rule, so an operation ends alike in two memories if its
reads do. Two sequences of children whose sources answer alike show the same children, which
`ChildSequence.Alike.showsLike` proves along a walk.
-/

namespace HeapScope

/-! ## Errors and results -/

/-- An error without the reason why memory was not accessible. -/
def InspectionError.withoutReason : InspectionError → InspectionError
  | .inaccessible address _ => .inaccessible address ""
  | e => e

/-- Two errors differ in nothing but the reason why memory was not accessible. -/
def InspectionError.Alike (e e' : InspectionError) : Prop := e.withoutReason = e'.withoutReason

/-- Two results are related: both are values, in one relation, or both are failures, in another. -/
inductive Related {ε α β : Type} (E : ε → ε → Prop) (R : α → β → Prop) :
    Except ε α → Except ε β → Prop where
  | ok {a : α} {b : β} (values : R a b) : Related E R (.ok a) (.ok b)
  | error {e e' : ε} (failures : E e e') : Related E R (.error e) (.error e')

/-- Outcomes that are related are related more weakly. -/
theorem Related.mono {ε α β : Type} {E : ε → ε → Prop} {R R' : α → β → Prop} {x : Except ε α}
    {y : Except ε β} (h : Related E R x y) (weaker : ∀ a b, R a b → R' a b) : Related E R' x y := by
  cases h with
  | ok values => exact .ok (weaker _ _ values)
  | error failures => exact .error failures

/-- Two probes have no value for reasons that are alike: the same crash, or errors that differ in
wording. -/
inductive Stop.Alike : Stop → Stop → Prop where
  | failed {e e' : InspectionError} (errors : e.Alike e') : Alike (.failed e) (.failed e')
  | crashed (crash : Crash) : Alike (.crashed crash) (.crashed crash)

/-- Every end is like itself. -/
theorem Stop.Alike.refl (s : Stop) : s.Alike s := by
  cases s with
  | failed e => exact .failed rfl
  | crashed crash => exact .crashed crash

/-! ## Probes -/

namespace Probe

variable {α β γ δ : Type} {R : α → β → Prop} {S : γ → δ → Prop} {T : α → α → Prop}

/-- Two probes end alike: with related values, or for reasons that are alike. -/
def Alike (R : α → β → Prop) (p : Probe α) (q : Probe β) : Prop :=
  Related Stop.Alike R p.outcome q.outcome

namespace Alike

/-- Values that are related are ends alike. -/
theorem pure {a : α} {b : β} (h : R a b) : Alike R (Pure.pure a) (Pure.pure b) := .ok h

/-- Errors that are alike are ends alike. -/
theorem fail {e e' : InspectionError} (h : e.Alike e') :
    Alike R (Probe.fail e : Probe α) (Probe.fail e' : Probe β) := .error (.failed h)

/-- Every probe ends like itself. -/
theorem refl (h : ∀ a, T a a) (p : Probe α) : Alike T p p := by
  rw [Alike]
  cases p.outcome with
  | ok a => exact .ok (h a)
  | error s => exact .error (.refl s)

/-- A probe ends as it ends. -/
theorem same (p : Probe α) : Alike Eq p p := refl (fun _ => rfl) p

/-- Probes with related values have values that are related more weakly. -/
theorem mono {R' : α → β → Prop} {p : Probe α} {q : Probe β} (h : Alike R p q)
    (weaker : ∀ a b, R a b → R' a b) : Alike R' p q :=
  Related.mono h weaker

/-- What goes on alike from related values ends alike. -/
theorem bind {p : Probe α} {q : Probe β} {f : α → Probe γ} {g : β → Probe δ} (h : Alike R p q)
    (next : ∀ a b, p.outcome = .ok a → R a b → Alike S (f a) (g b)) :
    Alike S (p >>= f) (q >>= g) := by
  rw [Alike, outcome_bind, outcome_bind]
  rw [Alike] at h
  generalize p.outcome = x, q.outcome = y at h next
  cases h with
  | ok values => exact next _ _ rfl values
  | error failures => exact .error failures

/-- What goes on alike from one value ends alike. -/
theorem andThen {p q : Probe α} {f : α → Probe γ} {g : α → Probe δ} (h : Alike Eq p q)
    (next : ∀ a, p.outcome = .ok a → Alike S (f a) (g a)) : Alike S (p >>= f) (q >>= g) := by
  refine h.bind fun a b ok same => ?_
  cases same
  exact next a ok

/-- An attempt turns errors that are alike into values that are. -/
theorem attempt {p : Probe α} {q : Probe β} (h : Alike R p q) :
    Alike (Related InspectionError.Alike R) p.attempt q.attempt := by
  rw [Alike, outcome_attempt, outcome_attempt]
  rw [Alike] at h
  generalize p.outcome = x, q.outcome = y at h
  cases h with
  | ok values => exact .ok (.ok values)
  | error failures =>
    cases failures with
    | failed errors => exact .ok (.error errors)
    | crashed crash => exact .error (.crashed crash)

/-- Under guard the same crash is the same error. -/
theorem guarded {p : Probe α} {q : Probe β} (h : Alike R p q) : Alike R p.guarded q.guarded := by
  rw [Alike, outcome_guarded, outcome_guarded]
  rw [Alike] at h
  generalize p.outcome = x, q.outcome = y at h
  cases h with
  | ok values => exact .ok values
  | error failures =>
    cases failures with
    | failed errors => exact .error (.failed errors)
    | crashed crash => exact .error (.failed rfl)

end Alike

end Probe

/-! ## Children -/

/-- Two items are alike: the same child, or errors that are alike. -/
abbrev ChildItem.Alike : ChildItem → ChildItem → Prop := Related InspectionError.Alike Eq

/-- Two answers of what walks along places are alike: both are none, or they hold things that are
alike and stand at one place. -/
inductive AnswersAlike {α : Type} :
    Option (Except InspectionError α × Nat) → Option (Except InspectionError α × Nat) → Prop where
  | none : AnswersAlike none none
  | some {x y : Except InspectionError α} (found : Related InspectionError.Alike Eq x y)
    (cursor : Nat) : AnswersAlike (some (x, cursor)) (some (y, cursor))

/-- Every answer of a source is like itself. -/
theorem AnswersAlike.refl {α : Type} (a : Option (Except InspectionError α × Nat)) :
    AnswersAlike a a := by
  cases a with
  | none => exact .none
  | some step =>
    obtain ⟨found, cursor⟩ := step
    cases found with
    | ok value => exact .some (.ok rfl) cursor
    | error e => exact .some (.error rfl) cursor

/-- Two sources always answer alike. -/
def ChildSource.Alike (source source' : ChildSource) : Prop :=
  ∀ ordinal cursor, Probe.Alike AnswersAlike (source ordinal cursor) (source' ordinal cursor)

/-- Two sequences are alike: they have one length, and what they start from answers alike. -/
structure ChildSequence.Alike (s s' : ChildSequence) : Prop where
  count : s.count = s'.count
  begin : Probe.Alike ChildSource.Alike s.begin s'.begin

/-- Two walks are alike: they stand at one place, and their sources answer alike, or both have lost
theirs. -/
structure ChildWalk.Alike (w w' : ChildWalk) : Prop where
  source : Option.Rel ChildSource.Alike w.source w'.source
  remaining : w.remaining = w'.remaining
  ordinal : w.ordinal = w'.ordinal
  cursor : w.cursor = w'.cursor

/-- Every source of children is like itself. -/
theorem ChildSource.Alike.refl (source : ChildSource) : source.Alike source :=
  fun ordinal cursor => Probe.Alike.refl AnswersAlike.refl (source ordinal cursor)

/-- Every sequence of children is like itself. -/
theorem ChildSequence.Alike.refl (s : ChildSequence) : s.Alike s :=
  ⟨rfl, Probe.Alike.refl ChildSource.Alike.refl s.begin⟩

namespace ChildWalk.Alike

/-- The next items of walks that are alike are alike, and so are the walks behind them. -/
theorem next {w w' : ChildWalk} (h : w.Alike w') :
    Option.Rel ChildItem.Alike w.next.value.1 w'.next.value.1 ∧
      w.next.value.2.Alike w'.next.value.2 := by
  obtain ⟨source, remaining, ordinal, cursor⟩ := w
  obtain ⟨source', remaining', ordinal', cursor'⟩ := w'
  obtain ⟨sources, count, place, stand⟩ := h
  dsimp only at sources count place stand
  subst count place stand
  cases remaining with
  | zero => exact ⟨.none, sources, rfl, rfl, rfl⟩
  | succ n =>
    cases sources with
    | none => exact ⟨.none, .none, rfl, rfl, rfl⟩
    | @some source source' sources =>
      have answers := sources ordinal cursor
      rw [Probe.Alike] at answers
      rw [value_next, value_next]
      generalize (source ordinal cursor).outcome = x, (source' ordinal cursor).outcome = y
        at answers
      cases answers with
      | error failures => exact ⟨.some (.error rfl), .none, rfl, rfl, rfl⟩
      | ok values =>
        cases values with
        | none => exact ⟨.none, .some sources, rfl, rfl, rfl⟩
        | some found cursor => exact ⟨.some found, .some sources, rfl, rfl, rfl⟩

/-- Walks that are alike yield items that are alike. -/
theorem take (limit : Nat) {w w' : ChildWalk} (h : w.Alike w') :
    List.Forall₂ ChildItem.Alike (w.take limit).value (w'.take limit).value := by
  induction limit generalizing w w' with
  | zero => exact .nil
  | succ limit ih =>
    obtain ⟨items, walks⟩ := h.next
    rw [value_take_succ, value_take_succ]
    generalize w.next.value = x, w'.next.value = y at items walks
    obtain ⟨item, later⟩ := x
    obtain ⟨item', later'⟩ := y
    dsimp only at items walks
    cases items with
    | none => exact .nil
    | some items => exact .cons items (ih walks)

end ChildWalk.Alike

/-- Two sequences show the same children, but for the wording of errors in their place. -/
structure ChildSequence.ShowsLike (s s' : ChildSequence) : Prop where
  count : s.count = s'.count
  items : ∀ limit, List.Forall₂ ChildItem.Alike (s.items limit).value (s'.items limit).value

/-- Sequences that are alike show the same children. -/
theorem ChildSequence.Alike.showsLike {s s' : ChildSequence} (h : s.Alike s') : s.ShowsLike s' := by
  refine ⟨h.count, fun limit => ?_⟩
  rw [items, items, Traced.value_bind, Traced.value_bind, value_walk, value_walk]
  refine ChildWalk.Alike.take limit ⟨?_, h.count, rfl, rfl⟩
  have begin := h.begin
  rw [Probe.Alike] at begin
  generalize s.begin.outcome = x, s'.begin.outcome = y at begin
  cases begin with
  | ok sources => exact .some sources
  | error failures => exact .none

end HeapScope
