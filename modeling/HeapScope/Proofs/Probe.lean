import HeapScope.Probe

/-!
# How probes end and what they leave behind

A probe is known by what it ends with and by its trace. For each way of building probes this module
says what becomes of both. A probe completes if it does not crash: it has a value or an inspection
error. Under guard every probe completes.
-/

namespace HeapScope.Probe

variable {α β : Type}

/-- Two probes with the same end and the same trace are the same. -/
theorem ext {p q : Probe α} (outcome : p.outcome = q.outcome) (events : p.events = q.events) :
    p = q := by
  show (⟨p.outcome, p.events⟩ : Traced (Except Stop α)) = ⟨q.outcome, q.events⟩
  rw [outcome, events]

/-- A value by itself has an empty trace. -/
@[simp] theorem events_pure (a : α) : (pure a : Probe α).events = [] := rfl

/-- So has an inspection error. -/
@[simp] theorem events_fail (e : InspectionError) : (fail e : Probe α).events = [] := rfl

/-- A crash is what a crashing probe ends with. -/
@[simp] theorem outcome_crash (c : Crash) : (crash c : Probe α).outcome = .error (.crashed c) := rfl

/-- Recording an event always succeeds. -/
@[simp] theorem outcome_note (e : Event) : (note e).outcome = .ok () := rfl

/-- An event that is recorded is the whole trace. -/
@[simp] theorem events_note (e : Event) : (note e).events = [e] := rfl

/-- What follows a probe with a value comes after it in the trace. -/
theorem events_bind_of_ok {p : Probe α} {a : α} (h : p.outcome = .ok a) (f : α → Probe β) :
    (p >>= f).events = p.events ++ (f a).events := by
  have value : p.run.value = .ok a := h
  show p.run.events ++ (ExceptT.bindCont f p.run.value).events = _
  rw [value]
  rfl

/-- Nothing follows a probe without a value. -/
theorem events_bind_of_error {p : Probe α} {s : Stop} (h : p.outcome = .error s)
    (f : α → Probe β) : (p >>= f).events = p.events := by
  have value : p.run.value = .error s := h
  show p.run.events ++ (ExceptT.bindCont f p.run.value).events = _
  rw [value]
  exact List.append_nil _

/-- What follows a probe with a value decides how both end. -/
theorem outcome_bind_of_ok {p : Probe α} {a : α} (h : p.outcome = .ok a) (f : α → Probe β) :
    (p >>= f).outcome = (f a).outcome := by
  rw [outcome_bind, h]
  rfl

/-- Without a value, the first probe decides. -/
theorem outcome_bind_of_error {p : Probe α} {s : Stop} (h : p.outcome = .error s)
    (f : α → Probe β) : (p >>= f).outcome = .error s := by
  rw [outcome_bind, h]
  rfl

/-- Where two probes in a row have a value, the first has one. -/
theorem exists_of_bind_ok {p : Probe α} {f : α → Probe β} {b : β}
    (h : (p >>= f).outcome = .ok b) : ∃ a, p.outcome = .ok a ∧ (f a).outcome = .ok b := by
  cases hp : p.outcome with
  | ok a =>
    rw [outcome_bind_of_ok hp] at h
    exact ⟨a, rfl, h⟩
  | error s =>
    rw [outcome_bind_of_error hp] at h
    cases h

/-- Two probes in a row have a value exactly if the first has one and the second has it from there.
-/
theorem bind_ok_iff {p : Probe α} {f : α → Probe β} {b : β} :
    (p >>= f).outcome = .ok b ↔ ∃ a, p.outcome = .ok a ∧ (f a).outcome = .ok b :=
  ⟨exists_of_bind_ok, fun ⟨_, first, last⟩ => (outcome_bind_of_ok first f).trans last⟩

/-- Exact arithmetic that succeeds hands its number on. -/
@[simp] theorem liftM_ok_bind (a : α) (f : α → Probe β) :
    ((liftM (.ok a : Except Crash α) : Probe α) >>= f) = f a :=
  pure_bind a f

/-- Exact arithmetic that fails is a crash, and nothing follows. -/
@[simp] theorem liftM_error_bind (c : Crash) (f : α → Probe β) :
    ((liftM (.error c : Except Crash α) : Probe α) >>= f) = crash c :=
  rfl

/-- Exact arithmetic has a value in a probe if it has one by itself. -/
theorem eq_ok_of_liftM {x : Except Crash α} {a : α} (h : (liftM x : Probe α).outcome = .ok a) :
    x = .ok a := by
  cases x with
  | ok b =>
    cases h
    rfl
  | error c => cases h

/-- A change of the value changes what the probe ends with and nothing else. -/
theorem outcome_map (f : α → β) (p : Probe α) : (f <$> p).outcome = p.outcome.map f := by
  rw [map_eq_pure_bind, outcome_bind]
  cases p.outcome <;> rfl

/-- The changed value of a probe that has one. -/
theorem outcome_map_of_ok {p : Probe α} {a : α} (h : p.outcome = .ok a) (f : α → β) :
    (f <$> p).outcome = .ok (f a) := by
  rw [outcome_map, h]
  rfl

/-- A change of the value leaves the trace as it is. -/
@[simp] theorem events_map (f : α → β) (p : Probe α) : (f <$> p).events = p.events := by
  rw [map_eq_pure_bind]
  cases h : p.outcome with
  | ok a => rw [events_bind_of_ok h, events_pure, List.append_nil]
  | error s => exact events_bind_of_error h _

/-- Two continuations may differ where the probe does not lead. -/
theorem bind_congr {p : Probe α} {f g : α → Probe β}
    (h : ∀ a, p.outcome = .ok a → f a = g a) : p >>= f = p >>= g := by
  cases hp : p.outcome with
  | ok a =>
    refine ext ?_ ?_
    · rw [outcome_bind_of_ok hp, outcome_bind_of_ok hp, h a hp]
    · rw [events_bind_of_ok hp, events_bind_of_ok hp, h a hp]
  | error s =>
    refine ext ?_ ?_
    · rw [outcome_bind_of_error hp, outcome_bind_of_error hp]
    · rw [events_bind_of_error hp, events_bind_of_error hp]

/-- An attempt ends with how the probe ended, unless that crashed. -/
theorem outcome_attempt (p : Probe α) :
    p.attempt.outcome = match p.outcome with
      | .ok a => .ok (.ok a)
      | .error (.failed e) => .ok (.error e)
      | .error (.crashed c) => .error (.crashed c) := by
  show (match p.run.value with
    | .ok a => (pure (.ok (.ok a)) : Traced (Except Stop (Except InspectionError α)))
    | .error (.failed e) => pure (.ok (.error e))
    | .error (.crashed c) => pure (.error (.crashed c))).value = _
  unfold outcome
  rcases p.run.value with (_ | _) | _ <;> rfl

/-- An attempt leaves the trace of the probe. -/
@[simp] theorem events_attempt (p : Probe α) : p.attempt.events = p.events := by
  show p.run.events ++ (match p.run.value with
    | .ok a => (pure (.ok (.ok a)) : Traced (Except Stop (Except InspectionError α)))
    | .error (.failed e) => pure (.ok (.error e))
    | .error (.crashed c) => pure (.error (.crashed c))).events = _
  rcases p.run.value with (_ | _) | _ <;> exact List.append_nil _

/-- An attempt hands on a value only if the probe has it. -/
theorem outcome_of_attempt {p : Probe α} {a : α} (h : p.attempt.outcome = .ok (.ok a)) :
    p.outcome = .ok a := by
  rw [outcome_attempt] at h
  split at h
  case h_1 b ok =>
    cases h
    exact ok
  case h_2 => cases h
  case h_3 => cases h

/-- An attempt hands on the value of a probe that has one. -/
theorem outcome_attempt_of_ok {p : Probe α} {a : α} (h : p.outcome = .ok a) :
    p.attempt.outcome = .ok (.ok a) := by
  rw [outcome_attempt, h]

/-- An attempt hands on the inspection error of a probe that has one. -/
theorem outcome_attempt_of_failed {p : Probe α} {e : InspectionError}
    (h : p.outcome = .error (.failed e)) : p.attempt.outcome = .ok (.error e) := by
  rw [outcome_attempt, h]

/-- Under guard a crash ends as an inspection error. -/
theorem outcome_guarded (p : Probe α) :
    p.guarded.outcome = match p.outcome with
      | .error (.crashed c) => .error (.failed (crashError c))
      | r => r := by
  show (match p.run.value with
    | .error (.crashed c) =>
      (pure (.error (.failed (crashError c))) : Traced (Except Stop α))
    | r => pure r).value = _
  unfold outcome
  rcases p.run.value with (_ | _) | _ <;> rfl

/-- Guarding a probe leaves its trace as it is. -/
@[simp] theorem events_guarded (p : Probe α) : p.guarded.events = p.events := by
  show p.run.events ++ (match p.run.value with
    | .error (.crashed c) =>
      (pure (.error (.failed (crashError c))) : Traced (Except Stop α))
    | r => pure r).events = _
  rcases p.run.value with (_ | _) | _ <;> exact List.append_nil _

/-- Probes that end alike end alike under guard. -/
theorem outcome_guarded_congr {p q : Probe α} (h : p.outcome = q.outcome) :
    p.guarded.outcome = q.guarded.outcome := by
  rw [outcome_guarded, outcome_guarded, h]

/-- A value under guard is that of the probe, as no crash ends as a value. -/
theorem outcome_of_guarded {p : Probe α} {a : α} (h : p.guarded.outcome = .ok a) :
    p.outcome = .ok a := by
  rw [outcome_guarded] at h
  split at h
  case h_1 => cases h
  case h_2 => exact h

/-- Under guard a probe has a value exactly if it has it without. -/
theorem guarded_ok_iff {p : Probe α} {a : α} :
    p.guarded.outcome = .ok a ↔ p.outcome = .ok a :=
  ⟨outcome_of_guarded, fun ok => by rw [outcome_guarded, ok]⟩

/-! ## What probes ensure -/

/-- Whether a probe ends with values of some kind only. -/
def Ensures (P : α → Prop) (p : Probe α) : Prop := ∀ a, p.outcome = .ok a → P a

variable {P : α → Prop}

/-- A value by itself is of a kind if it is. -/
@[simp] theorem ensures_pure (a : α) : (pure a : Probe α).Ensures P ↔ P a := by
  simp [Ensures]

/-- An inspection error ends with no value of another kind. -/
@[simp] theorem ensures_fail (e : InspectionError) : (fail e : Probe α).Ensures P := nofun

/-- What follows has to ensure the kind, for every value that it is reached with. -/
@[simp] theorem ensures_bind (p : Probe β) (f : β → Probe α) :
    (p >>= f).Ensures P ↔ ∀ b, p.outcome = .ok b → (f b).Ensures P := by
  refine ⟨fun h b ok a last => h a ?_, fun h a ok => ?_⟩
  · rw [outcome_bind_of_ok ok, last]
  · obtain ⟨b, first, last⟩ := exists_of_bind_ok ok
    exact h b first a last

/-- A guard adds no value. -/
theorem Ensures.guarded {p : Probe α} (h : p.Ensures P) : p.guarded.Ensures P :=
  fun a ok => h a (outcome_of_guarded ok)

/-- A property of what is found for each member of a list is one of all that is found. -/
theorem ensures_mapM {f : β → Probe α} (h : ∀ b, (f b).Ensures P) (bs : List β) :
    (bs.mapM f).Ensures fun found => ∀ a ∈ found, P a := by
  induction bs with
  | nil => simp
  | cons b bs ih =>
    simp only [List.mapM_cons, ensures_bind, ensures_pure, List.forall_mem_cons]
    exact fun a first as later => ⟨h b a first, ih as later⟩

/-! ## Probes that complete -/

/-- A probe completes if it does not crash. -/
def Completes (p : Probe α) : Prop := ∀ c, p.outcome ≠ .error (.crashed c)

namespace Completes

variable {p : Probe α}

/-- A value by itself is no crash. -/
theorem pure (a : α) : (Pure.pure a : Probe α).Completes := nofun

/-- An inspection error is no crash. -/
theorem fail (e : InspectionError) : (Probe.fail e : Probe α).Completes := nofun

/-- Recording an event does not crash. -/
theorem note (e : Event) : (Probe.note e).Completes := nofun

/-- A step without a trace does not crash. -/
theorem ofExcept (x : Except InspectionError α) : (Probe.ofExcept x).Completes := by
  cases x <;> nofun

/-- A probe with a value did not crash. -/
theorem of_ok {a : α} (h : p.outcome = .ok a) : p.Completes := by
  intro c crashed
  rw [h] at crashed
  cases crashed

/-- Under guard nothing crashes. -/
theorem guarded (p : Probe α) : p.guarded.Completes := by
  intro c h
  -- no end of `p` is still a crash under guard
  rw [outcome_guarded] at h
  rcases hp : p.outcome with (e | c') | a <;> rw [hp] at h <;> cases h

/-- Two probes in a row complete if both do. -/
theorem bind (hp : p.Completes) {f : α → Probe β} (hf : ∀ a, (f a).Completes) :
    (p >>= f).Completes := by
  intro c h
  cases hpo : p.outcome with
  | ok a =>
    rw [outcome_bind_of_ok hpo] at h
    exact hf a c h
  | error s =>
    rw [outcome_bind_of_error hpo] at h
    cases h
    exact hp c hpo

/-- An attempt completes if the probe does. -/
theorem attempt (h : p.Completes) : p.attempt.Completes := by
  intro c crashed
  rw [outcome_attempt] at crashed
  rcases hp : p.outcome with (e | c') | a <;> rw [hp] at crashed <;> cases crashed
  exact h c hp

/-- What completes ends with a value or with an inspection error. -/
theorem cases (h : p.Completes) :
    (∃ a, p.outcome = .ok a) ∨ ∃ e, p.outcome = .error (.failed e) := by
  cases hp : p.outcome with
  | ok a => exact .inl ⟨a, rfl⟩
  | error s =>
    cases s with
    | failed e => exact .inr ⟨e, rfl⟩
    | crashed c => exact absurd hp (h c)

end Completes

end HeapScope.Probe
