import Mathlib.Data.List.Sort
import HeapScope.Formatter.Children
import HeapScope.Proofs.Reading

/-!
# Consulting the formatters

The summary of a value is a matter of turns. Each formatter of the host that is consulted has one,
in order, up to the first that does not let the next go on; what is built in has the last turn if
they all do. If nobody fails the summary is their texts, and otherwise the plain one; behind one who
fails nobody has a turn. Children are asked for once, from the first formatter that has some or else
from what is built in.

Formatters and what is built in run under guard, so a crash of theirs counts as a failure. What runs
without a guard is the plain summary, and it always has its text where pointers have a width.

## Shape of the proof

* `consult_spec` says by induction what consulting formatters comes to, from one lemma for each way
  in which a turn can end.
* `Answers` relates a summary to the turns of all who had one; `answers_summaryFrom` shows it for a
  fresh value, with what is built in as a parameter.
* `outcome_genericSummary` is the text of the plain summary, `orNone_spec` the end of the search for
  children.
-/

namespace HeapScope

/-- A list up to and including its first member of some kind. -/
def upToFirst {α : Type} (p : α → Bool) : List α → List α
  | [] => []
  | a :: l => if p a then [a] else a :: upToFirst p l

section upToFirst

variable {α : Type} {p : α → Bool} {l : List α}

/-- Nothing counts behind the first member of the kind. -/
theorem upToFirst_append_of_any (h : l.any p = true) (l' : List α) :
    upToFirst p (l ++ l') = upToFirst p l := by
  induction l with
  | nil => cases h
  | cons a l ih =>
    rw [List.cons_append, upToFirst, upToFirst]
    cases ha : p a with
    | true => rfl
    | false =>
      rw [List.any_cons, ha, Bool.false_or] at h
      rw [ih h]

/-- Where no member of a list is of the kind, what is behind the list counts too. -/
theorem upToFirst_append_of_not_any (h : l.any p = false) (l' : List α) :
    upToFirst p (l ++ l') = l ++ upToFirst p l' := by
  induction l with
  | nil => rfl
  | cons a l ih =>
    obtain ⟨ha, hl⟩ := Bool.or_eq_false_iff.1 h
    rw [List.cons_append, upToFirst, ha, ih hl]
    rfl

/-- A list without a member of the kind counts as a whole. -/
theorem upToFirst_of_not_any (h : l.any p = false) : upToFirst p l = l := by
  simpa [upToFirst] using upToFirst_append_of_not_any h []

/-- A single member is taken, whether it is the one looked for or not. -/
@[simp] theorem upToFirst_singleton (a : α) : upToFirst p [a] = [a] := by
  rw [upToFirst, upToFirst]
  split <;> rfl

/-- What is taken was there. -/
theorem mem_of_mem_upToFirst {a : α} (h : a ∈ upToFirst p l) : a ∈ l := by
  induction l with
  | nil => exact h
  | cons b l ih =>
    rw [upToFirst] at h
    split at h
    · exact List.mem_cons.2 (.inl (List.mem_singleton.1 h))
    · exact List.mem_cons.2 ((List.mem_cons.1 h).imp_right ih)

end upToFirst

namespace Probe

variable {α β : Type}

/-- What a probe ends with, if that is a value. -/
def value? (p : Probe α) : Option α := p.outcome.toOption

/-- Whether a probe ends with a value. -/
def succeeds (p : Probe α) : Bool := p.value?.isSome

/-- The value of a probe that has one. -/
theorem value?_of_ok {p : Probe α} {a : α} (h : p.outcome = .ok a) : p.value? = some a := by
  rw [value?, h]
  rfl

/-- A probe that ends otherwise has no value. -/
theorem value?_of_error {p : Probe α} {s : Stop} (h : p.outcome = .error s) : p.value? = none := by
  rw [value?, h]
  rfl

/-- A change of the value needs one. -/
theorem value?_map (f : α → β) (p : Probe α) : (f <$> p).value? = p.value?.map f := by
  rw [value?, value?, outcome_map]
  cases p.outcome <;> rfl

end Probe

namespace FormatterRegistry

variable {r : FormatterRegistry} {c : Context} {v : Value} {t : TypeDescriptor}

/-- The registrations that are consulted are those that are wanted and hold for the type. -/
theorem mem_matching_iff {wanted : Formatter → Bool} {e : Registration} :
    e ∈ r.matching t wanted ↔
      e ∈ r.entries ∧ wanted e.formatter = true ∧ e.formatter.pattern.holds t = true := by
  simp only [matching, List.partition_eq_filter_filter, List.mem_append, List.mem_mergeSort,
    List.mem_filter, Function.comp_apply, Bool.and_eq_true]
  cases e.formatter.pattern.isExact <;> simp

/-- A registry without formatters has none for any type. -/
theorem matching_of_entries_nil (empty : r.entries = []) (t : TypeDescriptor)
    (wanted : Formatter → Bool) : r.matching t wanted = [] := by
  simp [matching, empty]

/-- What a formatter of the host comes to in its turn. -/
def turn (c : Context) (v : Value) (t : TypeDescriptor) (e : Registration) :
    Probe (Option String) :=
  match e.formatter.summary with
  | none => return none
  | some f => some <$> runSummary c v t e f

/-- Those of some formatters that are consulted as long as none fails: up to the first that does not
let the next one go on. -/
def consulted (es : List Registration) : List Registration :=
  upToFirst (fun e => !e.formatter.cascade) es

/-- The texts of those who had one. -/
def texts (turns : List (Probe (Option String))) : List String :=
  turns.filterMap fun p => p.value?.join

/-- Behind a formatter that lets others add to it, the next one is consulted. -/
theorem consulted_cons_of_cascade {e : Registration} (h : e.formatter.cascade = true)
    (es : List Registration) : consulted (e :: es) = e :: consulted es := by
  rw [consulted, upToFirst, h]
  rfl

/-- Behind any other formatter nobody is consulted. -/
theorem consulted_cons_of_final {e : Registration} (h : e.formatter.cascade = false)
    (es : List Registration) : consulted (e :: es) = [e] := by
  rw [consulted, upToFirst, h]
  rfl

/-! ## One formatter after the other -/

/-- A formatter runs under guard, so its turn does not crash. -/
theorem completes_runSummary (e : Registration) (f : SummaryFormatter) :
    (runSummary c v t e f).Completes :=
  (Probe.Completes.note _).bind fun _ => .guarded _

section step

variable {e : Registration} {f : SummaryFormatter} (hf : e.formatter.summary = some f)
include hf

/-- The turn of a formatter with a summary is a run of it. -/
theorem turn_eq : turn c v t e = some <$> runSummary c v t e f := by
  rw [turn, hf]

/-- A turn has a value exactly if the formatter has. -/
theorem value?_turn : (turn c v t e).value? = (runSummary c v t e f).value?.map some := by
  rw [turn_eq hf, Probe.value?_map]

/-- A turn leaves the trace of the run. -/
theorem events_turn : (turn c v t e).events = (runSummary c v t e f).events := by
  rw [turn_eq hf, Probe.events_map]

/-- Nobody is consulted behind a formatter that failed. -/
theorem consult_cons_of_failed {error : InspectionError}
    (failed : (runSummary c v t e f).outcome = .error (.failed error)) (es : List Registration) :
    (consult c v t (e :: es)).outcome = .ok .failed ∧
      (consult c v t (e :: es)).events = (turn c v t e).events := by
  have attempted := Probe.outcome_attempt_of_failed failed
  rw [consult, hf, Probe.outcome_bind_of_ok attempted, Probe.events_bind_of_ok attempted,
    events_turn hf]
  simp

/-- Nobody is consulted behind a formatter that has the last word. -/
theorem consult_cons_of_final {text : String} (ok : (runSummary c v t e f).outcome = .ok text)
    (final : e.formatter.cascade = false) (es : List Registration) :
    (consult c v t (e :: es)).outcome = .ok (.settled [text]) ∧
      (consult c v t (e :: es)).events = (turn c v t e).events := by
  have attempted := Probe.outcome_attempt_of_ok ok
  rw [consult, hf, Probe.outcome_bind_of_ok attempted, Probe.events_bind_of_ok attempted,
    events_turn hf]
  simp [final]

/-- A formatter that lets the next one go on puts its text in front. -/
theorem consult_cons_of_cascade {text : String} (ok : (runSummary c v t e f).outcome = .ok text)
    (cascade : e.formatter.cascade = true) (es : List Registration) :
    (consult c v t (e :: es)).outcome = (consult c v t es).outcome.map (·.cons text) ∧
      (consult c v t (e :: es)).events =
        (turn c v t e).events ++ (consult c v t es).events := by
  have attempted := Probe.outcome_attempt_of_ok ok
  rw [consult, hf, Probe.outcome_bind_of_ok attempted, Probe.events_bind_of_ok attempted,
    events_turn hf]
  simp only [cascade, if_true, Probe.events_attempt, ← map_eq_pure_bind, Probe.outcome_map,
    Probe.events_map, and_self]

end step

/-- Consulting formatters that all have summaries comes to the texts of those consulted, if each of
them had one, and else to nothing; nobody is consulted behind one who had none. -/
theorem consult_spec (es : List Registration) (h : ∀ e ∈ es, e.formatter.summary.isSome = true) :
    let turns := (consulted es).map (turn c v t)
    (consult c v t es).outcome = .ok (
        if turns.all (·.succeeds) then
          if (consulted es).all (·.formatter.cascade) then .passed (texts turns)
          else .settled (texts turns)
        else .failed) ∧
      (consult c v t es).events = (upToFirst (fun p => !p.succeeds) turns).flatMap (·.events) := by
  induction es with
  | nil => exact ⟨rfl, rfl⟩
  | cons e es ih =>
    obtain ⟨he, hes⟩ := List.forall_mem_cons.1 h
    obtain ⟨ihOutcome, ihEvents⟩ := ih hes
    obtain ⟨f, hf⟩ := Option.isSome_iff_exists.1 he
    obtain ⟨text, ok⟩ | ⟨error, failed⟩ :=
      (completes_runSummary (c := c) (v := v) (t := t) e f).cases
    · have value : (turn c v t e).value? = some (some text) := by
        rw [value?_turn hf, Probe.value?_of_ok ok, Option.map_some]
      have succeeds : (turn c v t e).succeeds = true := by
        rw [Probe.succeeds, value, Option.isSome_some]
      cases cascade : e.formatter.cascade with
      | false =>
        obtain ⟨outcome, events⟩ := consult_cons_of_final hf ok cascade es
        rw [consulted_cons_of_final cascade, outcome, events]
        simp [cascade, succeeds, value, texts]
      | true =>
        have front : ∀ turns, texts (turn c v t e :: turns) = text :: texts turns := fun turns =>
          List.filterMap_cons_some (by rw [value]; rfl)
        obtain ⟨outcome, events⟩ := consult_cons_of_cascade hf ok cascade es
        rw [consulted_cons_of_cascade cascade, outcome, events, ihOutcome, ihEvents]
        simp only [List.map_cons, List.all_cons, succeeds, cascade, Bool.true_and, front, upToFirst,
          Bool.not_true, Bool.false_eq_true, if_false, List.flatMap_cons, and_true]
        split_ifs <;> rfl
    · have value : (turn c v t e).value? = none := by
        rw [value?_turn hf, Probe.value?_of_error failed, Option.map_none]
      obtain ⟨outcome, events⟩ := consult_cons_of_failed hf failed es
      rw [outcome, events]
      cases cascade : e.formatter.cascade <;>
        simp [consulted, upToFirst, cascade, Probe.succeeds, value]

/-- All who have a turn at the summary of a value: the formatters of the host that are consulted,
and then what is built in, if they all let the next one go on. -/
def turns (r : FormatterRegistry) (c : Context) (v : Value) (t : TypeDescriptor)
    (builtin : Probe (Option String)) : List (Probe (Option String)) :=
  (consulted (r.summaryEntries t)).map (turn c v t) ++
    if (consulted (r.summaryEntries t)).all (·.formatter.cascade) then [builtin.guarded] else []

/-- The summary of a value whose formatters all let the next one go on, from their texts. -/
def afterHosts (plain : Probe String) (builtin : Probe (Option String)) (texts : List String) :
    Probe String := do
  match ← builtin.guarded.attempt with
  | .error _ => plain
  | .ok (some text) => return joinTexts (texts ++ [text])
  | .ok none => if texts.isEmpty then plain else return joinTexts texts

/-- The summary of a value where what is built in comes to `builtin`. -/
def summaryFrom (r : FormatterRegistry) (c : Context) (v : Value) (t : TypeDescriptor)
    (builtin : Probe (Option String)) : Probe String :=
  if !c.isFresh v then genericSummary c v t
  else do
    match ← consult c v t (r.summaryEntries t) with
    | .failed => genericSummary c v t
    | .settled texts => return joinTexts texts
    | .passed texts => afterHosts (genericSummary c v t) builtin texts

/-- Whether nobody failed and somebody had a text. -/
def isAnswered (turns : List (Probe (Option String))) : Bool :=
  turns.all (·.succeeds) && !(texts turns).isEmpty

/-- A formatter with a summary that does not fail has a text. -/
theorem exists_text_of_succeeds {e : Registration} (h : e.formatter.summary.isSome = true)
    (succeeded : (turn c v t e).succeeds = true) :
    ∃ text, (turn c v t e).value? = some (some text) := by
  obtain ⟨f, hf⟩ := Option.isSome_iff_exists.1 h
  rw [Probe.succeeds, value?_turn hf, Option.isSome_map] at succeeded
  obtain ⟨text, htext⟩ := Option.isSome_iff_exists.1 succeeded
  exact ⟨text, by rw [value?_turn hf, htext, Option.map_some]⟩

/-- Where formatters were consulted and none failed, there is a text. -/
theorem texts_ne_nil {es : List Registration} (nonempty : es ≠ [])
    (h : ∀ e ∈ es, e.formatter.summary.isSome = true)
    (succeeded : (es.map (turn c v t)).all (·.succeeds) = true) :
    texts (es.map (turn c v t)) ≠ [] := by
  obtain ⟨e, he⟩ := List.exists_mem_of_ne_nil es nonempty
  obtain ⟨text, htext⟩ := exists_text_of_succeeds (h e he)
    (List.all_eq_true.1 succeeded _ (List.mem_map_of_mem he))
  refine List.ne_nil_of_mem (a := text) (List.mem_filterMap.2 ⟨_, List.mem_map_of_mem he, ?_⟩)
  rw [htext]
  rfl

/-- What comes of a summary for which some had their turns: the texts of all of them, joined, if
nobody failed and somebody had a text, and otherwise the plain summary. Nobody has a turn behind one
who failed. -/
structure Answers (turns : List (Probe (Option String))) (plain summary : Probe String) : Prop where
  outcome : summary.outcome =
    if isAnswered turns then .ok (joinTexts (texts turns)) else plain.outcome
  events : summary.events = (upToFirst (fun p => !p.succeeds) turns).flatMap (·.events) ++
    if isAnswered turns then [] else plain.events

namespace Answers

variable {turns : List (Probe (Option String))} {plain summary : Probe String}

/-- The answer if nobody failed and somebody said something. -/
theorem of_texts (nobody : turns.any (fun p => !p.succeeds) = false) (somebody : texts turns ≠ [])
    (outcome : summary.outcome = .ok (joinTexts (texts turns)))
    (events : summary.events = turns.flatMap (·.events)) : Answers turns plain summary := by
  have said : isAnswered turns = true := by
    simpa [isAnswered, somebody] using nobody
  refine ⟨?_, ?_⟩
  · rw [said, outcome]
    rfl
  · rw [said, events, upToFirst_of_not_any nobody]
    simp

/-- The answer if nobody said anything, or somebody failed. -/
theorem of_plain (h : isAnswered turns = false) (outcome : summary.outcome = plain.outcome)
    (events : summary.events =
      (upToFirst (fun p => !p.succeeds) turns).flatMap (·.events) ++ plain.events) :
    Answers turns plain summary := by
  refine ⟨?_, ?_⟩
  · rw [h, outcome]
    rfl
  · rw [h, events]
    rfl

end Answers

/-- What is built in has the last turn behind formatters none of whom failed. -/
theorem Answers.afterHosts {hosts : List (Probe (Option String))} {plain summary : Probe String}
    (nobody : hosts.any (fun p => !p.succeeds) = false) {builtin : Probe (Option String)}
    (outcome : summary.outcome = (afterHosts plain builtin (texts hosts)).outcome)
    (events : summary.events =
      hosts.flatMap (·.events) ++ (afterHosts plain builtin (texts hosts)).events) :
    Answers (hosts ++ [builtin.guarded]) plain summary := by
  rw [FormatterRegistry.afterHosts] at outcome events
  obtain ⟨said, ok⟩ | ⟨error, failed⟩ := (Probe.Completes.guarded builtin).cases
  · have attempted := Probe.outcome_attempt_of_ok ok
    have value := Probe.value?_of_ok ok
    have nobody' : (hosts ++ [builtin.guarded]).any (fun p => !p.succeeds) = false := by
      simpa [Probe.succeeds, value] using nobody
    rw [Probe.outcome_bind_of_ok attempted] at outcome
    rw [Probe.events_bind_of_ok attempted, Probe.events_attempt] at events
    cases said with
    | some text =>
      -- the built-in text stands behind those of the host
      have joined : texts (hosts ++ [builtin.guarded]) = texts hosts ++ [text] := by
        simp [texts, value]
      refine of_texts nobody' (by simp [joined]) (by rw [joined]; exact outcome) ?_
      simpa using events
    | none =>
      -- nothing is built in for the type, so there may be no text at all
      have same : texts (hosts ++ [builtin.guarded]) = texts hosts := by
        simp [texts, value]
      by_cases empty : texts hosts = []
      · refine of_plain (by simp [isAnswered, same, empty]) (by simpa [empty] using outcome) ?_
        rw [upToFirst_of_not_any nobody']
        simpa [empty] using events
      · refine of_texts nobody' (by rwa [same]) ?_ ?_
        · simpa [empty, same] using outcome
        · simpa [empty] using events
  · have attempted := Probe.outcome_attempt_of_failed failed
    have value := Probe.value?_of_error failed
    rw [Probe.outcome_bind_of_ok attempted] at outcome
    rw [Probe.events_bind_of_ok attempted, Probe.events_attempt] at events
    refine of_plain (by simp [isAnswered, Probe.succeeds, value]) outcome ?_
    rw [upToFirst_append_of_not_any nobody, upToFirst_singleton]
    simpa using events

/-- The summary of a fresh value is what comes of the turns of its formatters. -/
theorem answers_summaryFrom (fresh : c.isFresh v = true) (builtin : Probe (Option String)) :
    Answers (r.turns c v t builtin) (genericSummary c v t) (r.summaryFrom c v t builtin) := by
  have summaries : ∀ e ∈ consulted (r.summaryEntries t), e.formatter.summary.isSome = true :=
    fun e he => (mem_matching_iff.1 (mem_of_mem_upToFirst he)).2.1
  obtain ⟨outcome, events⟩ := consult_spec (c := c) (v := v) (t := t) (r.summaryEntries t)
    fun e he => (mem_matching_iff.1 he).2.1
  rw [summaryFrom, fresh, turns]
  by_cases succeeded : ((consulted (r.summaryEntries t)).map (turn c v t)).all (·.succeeds) = true
  · have nobody : ((consulted (r.summaryEntries t)).map (turn c v t)).any (fun p => !p.succeeds)
        = false := by
      simpa using succeeded
    rw [if_pos succeeded] at outcome
    rw [upToFirst_of_not_any nobody] at events
    by_cases cascading : (consulted (r.summaryEntries t)).all (·.formatter.cascade) = true
    · rw [if_pos cascading] at outcome ⊢
      refine .afterHosts nobody (Probe.outcome_bind_of_ok outcome _) ?_
      rw [← events]
      exact Probe.events_bind_of_ok outcome _
    · -- the last one consulted keeps the built-in text out, so there is one who was consulted
      rw [if_neg cascading] at outcome ⊢
      have nonempty : consulted (r.summaryEntries t) ≠ [] := fun h => cascading (by rw [h]; rfl)
      rw [List.append_nil]
      refine .of_texts nobody (texts_ne_nil nonempty summaries succeeded) ?_ ?_
      · exact Probe.outcome_bind_of_ok outcome _
      · rw [← events]
        exact (Probe.events_bind_of_ok outcome _).trans (List.append_nil _)
  · have somebody : ((consulted (r.summaryEntries t)).map (turn c v t)).any (fun p => !p.succeeds)
        = true := by
      simpa using succeeded
    rw [if_neg succeeded] at outcome
    refine .of_plain (by simp [isAnswered, succeeded]) (Probe.outcome_bind_of_ok outcome _) ?_
    rw [upToFirst_append_of_any somebody, ← events]
    exact Probe.events_bind_of_ok outcome _

/-- A summary records its depth and consults the formatters ahead of what is built in. -/
theorem summaryAt_eq (r : FormatterRegistry) (c : Context) (v : Value) (t : TypeDescriptor)
    (depth : Nat) :
    r.summaryAt c v t depth = (do
      Probe.note (.summary depth)
      r.summaryFrom c v t (r.builtinSummary c v t depth)) := by
  rw [summaryAt, summaryFrom]
  rfl

/-! ## The plain summary -/

/-- Where the plain summary says that a value is: at the object, for a fresh reference that can be
followed, and else where the value lies. -/
def shownPlace (c : Context) (v : Value) : ValueLocation :=
  match v.kind with
  | .reference =>
    if c.isFresh v then ((c.objectAddress v).value?.map .memory).getD v.location else v.location
  | _ => v.location

/-- The text of the plain summary. -/
def plainText (c : Context) (v : Value) (t : TypeDescriptor) : String :=
  t.name ++ " @ " ++ (shownPlace c v).text

/-- The plain summary always has its text. -/
theorem outcome_genericSummary (width : c.abi.pointerSize ≠ 0) (v : Value) (t : TypeDescriptor) :
    (genericSummary c v t).outcome = .ok (plainText c v t) := by
  rw [genericSummary, plainText, shownPlace]
  cases hkind : v.kind with
  | reference =>
    cases fresh : c.isFresh v with
    | true =>
      obtain ⟨object, ok⟩ | ⟨error, failed⟩ := (Context.completes_objectAddress width v).cases
      · rw [Probe.value?_of_ok ok]
        exact Probe.outcome_bind_of_ok (Probe.outcome_attempt_of_ok ok) _
      · rw [Probe.value?_of_error failed]
        exact Probe.outcome_bind_of_ok (Probe.outcome_attempt_of_failed failed) _
    | false => rfl
  | object => rfl
  | scalar k => rfl

/-- The summary of a value is the texts of all who had their turns, or else the plain one. -/
theorem outcome_summaryFrom (width : c.abi.pointerSize ≠ 0) (r : FormatterRegistry) (v : Value)
    (t : TypeDescriptor) (builtin : Probe (Option String)) :
    let turns := r.turns c v t builtin
    (r.summaryFrom c v t builtin).outcome =
      .ok (if c.isFresh v && isAnswered turns then joinTexts (texts turns)
        else plainText c v t) := by
  intro turns
  have plain := outcome_genericSummary width v t
  cases fresh : c.isFresh v with
  | true =>
    rw [(answers_summaryFrom fresh builtin).outcome, plain, Bool.true_and]
    exact (apply_ite Except.ok _ _ _).symm
  | false =>
    rw [summaryFrom, fresh]
    exact plain

/-- On a target whose pointers have a width, every summary is found. -/
theorem exists_outcome_summaryAt (width : c.abi.pointerSize ≠ 0) (r : FormatterRegistry)
    (v : Value) (t : TypeDescriptor) (depth : Nat) :
    ∃ text, (r.summaryAt c v t depth).outcome = .ok text := by
  rw [summaryAt_eq, Probe.outcome_bind_of_ok (Probe.outcome_note _), outcome_summaryFrom width]
  exact ⟨_, rfl⟩

/-! ## Children -/

/-- Who is asked for the children of a value: the first formatter of the host that has some for the
type, and where there is none what is built in. -/
def provider (r : FormatterRegistry) (c : Context) (v : Value) (t : TypeDescriptor)
    (builtin : Probe ChildSequence) : Probe ChildSequence :=
  match r.childrenEntries t with
  | [] => builtin.guarded
  | e :: _ => e.formatter.children.elim builtin.guarded (runChildren c v t e)

/-- The children of a value where what is built in comes to `builtin`. -/
def childrenFrom (r : FormatterRegistry) (c : Context) (v : Value) (t : TypeDescriptor)
    (builtin : Probe ChildSequence) : Probe ChildSequence :=
  if !c.isFresh v then return .empty else orNone (r.provider c v t builtin)

/-- Children are looked for at the formatters ahead of what is built in. -/
theorem children_eq (r : FormatterRegistry) (c : Context) (v : Value) (t : TypeDescriptor) :
    r.children c v t = r.childrenFrom c v t (r.builtinChildren c v t) := by
  rw [children.eq_def, childrenFrom, provider, childrenEntry]
  cases hes : r.childrenEntries t with
  | nil => rfl
  | cons e es =>
    -- every formatter in the list has children, so the search ends at the first
    have he : e.formatter.children.isSome = true :=
      (mem_matching_iff.1 (hes ▸ List.mem_cons_self : e ∈ r.childrenEntries t)).2.1
    obtain ⟨f, hf⟩ := Option.isSome_iff_exists.1 he
    simp only [List.findSome?_cons, hf, Option.map_some, Option.elim_some]

/-- A probe that does not crash is followed by no children if it fails, and its trace is kept. -/
theorem orNone_spec {p : Probe ChildSequence} (h : p.Completes) :
    (orNone p).outcome = .ok (p.value?.getD .empty) ∧ (orNone p).events = p.events := by
  obtain ⟨children, ok⟩ | ⟨error, failed⟩ := h.cases
  · have attempted := Probe.outcome_attempt_of_ok ok
    rw [orNone, Probe.outcome_bind_of_ok attempted, Probe.events_bind_of_ok attempted,
      Probe.value?_of_ok ok]
    simp
  · have attempted := Probe.outcome_attempt_of_failed failed
    rw [orNone, Probe.outcome_bind_of_ok attempted, Probe.events_bind_of_ok attempted,
      Probe.value?_of_error failed]
    simp

/-- Finding who provides the children does not crash. -/
theorem completes_provider (builtin : Probe ChildSequence) :
    (r.provider c v t builtin).Completes := by
  rw [provider]
  split
  · exact .guarded _
  · rename_i e _ _
    cases e.formatter.children with
    | none => exact .guarded _
    | some f => exact (Probe.Completes.note _).bind fun _ => .guarded _

/-- On a target whose pointers have a width, a summary and the children of a value are always found,
whatever formatters and memory do. -/
theorem summarize_confined (width : c.abi.pointerSize ≠ 0) (r : FormatterRegistry) (v : Value)
    (t : TypeDescriptor) :
    let turns := r.turns c v t (r.builtinSummary c v t 0)
    let provider := r.provider c v t (r.builtinChildren c v t)
    let answered := c.isFresh v && isAnswered turns
    (r.summarize c v t).outcome =
        .ok (if answered then joinTexts (texts turns) else plainText c v t) ∧
      (r.summarize c v t).events =
        .summary 0 ::
          ((if c.isFresh v then (upToFirst (fun p => !p.succeeds) turns).flatMap (·.events) else [])
            ++ if answered then [] else (genericSummary c v t).events) ∧
      (r.children c v t).outcome =
        .ok (if c.isFresh v then provider.value?.getD .empty else .empty) ∧
      (r.children c v t).events = if c.isFresh v then provider.events else [] := by
  intro turns provider answered
  have noted := Probe.outcome_note (.summary 0)
  rw [summarize, summaryAt_eq, children_eq, childrenFrom, Probe.outcome_bind_of_ok noted,
    Probe.events_bind_of_ok noted]
  have said := outcome_summaryFrom width r v t (r.builtinSummary c v t 0)
  cases fresh : c.isFresh v with
  | true =>
    have told := (r.answers_summaryFrom (t := t) fresh (r.builtinSummary c v t 0)).events
    obtain ⟨found, asked⟩ := orNone_spec (completes_provider (r := r) (c := c) (v := v) (t := t)
      (r.builtinChildren c v t))
    have same : answered = isAnswered turns := by
      rw [show answered = (c.isFresh v && isAnswered turns) from rfl, fresh, Bool.true_and]
    refine ⟨said, ?_, found, asked⟩
    rw [same, told]
    rfl
  | false =>
    have stale : answered = false := by
      rw [show answered = (c.isFresh v && isAnswered turns) from rfl, fresh, Bool.false_and]
    refine ⟨said, ?_, rfl, rfl⟩
    rw [stale, summaryFrom, fresh]
    rfl

/-- A formatter that crashes takes the text of the one before it along. -/
theorem summarize_confined_crash :
    let c : Context :=
      { memory := fun _ _ => .error "not mapped"
        metadata := ⟨fun _ => none, fun _ => none⟩ }
    let named : Formatter :=
      { pattern := .exact "app.Point", summary := some fun _ _ _ => pure "here", cascade := true }
    let broken : Formatter :=
      { pattern := .category .object, summary := some fun _ _ _ => Probe.crash (.raised "bug") }
    let r : FormatterRegistry := { entries := [⟨1, named⟩, ⟨2, broken⟩], nextId := 3 }
    let t : TypeDescriptor := .object "app.Point" true
    c.abi.pointerSize ≠ 0 ∧
      (r.summarize c (.objectAt t 0x1040 1) t).outcome = .ok "app.Point @ 0x1040" := by
  intro c named broken r t
  have width : c.abi.pointerSize ≠ 0 := by decide
  refine ⟨width, (summarize_confined width r (.objectAt t 0x1040 1) t).1.trans ?_⟩
  have entries : r.summaryEntries t = [⟨1, named⟩, ⟨2, broken⟩] := by
    simp [r, t, named, broken, summaryEntries, matching, TypePattern.holds, TypePattern.isExact,
      TypeDescriptor.object, TypeDescriptor.ofKind, TypeDescriptor.name, TypeDescriptor.head,
      TypeDescriptor.category]
  have answered : isAnswered (r.turns c (.objectAt t 0x1040 1) t
      (r.builtinSummary c (.objectAt t 0x1040 1) t 0)) = false := by
    rw [turns, entries]
    rfl
  rw [answered, Bool.and_false]
  have plain : plainText c (.objectAt t 0x1040 1) t = "app.Point @ 0x1040" := by
    decide +kernel
  exact congrArg Except.ok plain

end FormatterRegistry

end HeapScope
