import HeapScope.Proofs.Formatter.Consultation
import HeapScope.Proofs.Removal

/-!
# Histories of a formatter registry

A host registers and takes out formatters while it runs, and it is told a number for each formatter
that it registers. What is registered at the end follows from the calls and the answers alone: each
formatter whose registration was answered with a number, unless a later call took that number out.
This is so in every dialect that patterns for names are written in.

Numbers go up by one with every registration and are never given again, so the order of the numbers
is the order of the registrations. That is what makes the order in which formatters are consulted
strict: names before patterns and categories, then by priority, and among equals by number.

## Shape of the proof

* `call_cases` says all that a call can do; the lemmas on histories are inductions with one case for
  each of its ways.
* `entries_run` and `numbers_transcript` say what is registered, and under which numbers.
* `consults_matching` is about one registry, with distinct numbers: a permutation, and sorted.
-/

namespace HeapScope

open Pattern (Dialect)

/-- Whether a registration comes before another: one for a name before one for a pattern or a
category, then the one of higher priority, and then the earlier one. -/
def Registration.Before (a b : Registration) : Prop :=
  match a.formatter.pattern.isExact, b.formatter.pattern.isExact with
  | true, false => True
  | false, true => False
  | _, _ => b.formatter.priority < a.formatter.priority ∨
      b.formatter.priority = a.formatter.priority ∧ a.id < b.id

/-- Of two registrations at most one comes before the other. -/
theorem Registration.Before.asymm {a b : Registration} (h : a.Before b) : ¬ b.Before a := by
  intro h'
  cases ha : a.formatter.pattern.isExact <;> cases hb : b.formatter.pattern.isExact <;>
    simp only [Before, ha, hb] at h h' <;> omega

namespace FormatterRegistry

/-! ## Calls and answers -/

/-- A call by which a host changes its formatters. -/
inductive Call where
  | register (f : Formatter)
  | registerNames (pattern : String) (priority : Int) (summary : SummaryFormatter)
  | unregister (id : Nat)

/-- What a host is told: the number of the new formatter or why it was rejected, or whether there
was a formatter to take out. -/
inductive Reply where
  | registration (result : Except RegistrationError Nat)
  | removal (found : Bool)

/-- What a call is answered, and the registry after it. -/
def call (d : Dialect) (r : FormatterRegistry) : Call → Reply × FormatterRegistry
  | .register f =>
    let (result, r') := r.register f
    (.registration result, r')
  | .registerNames pattern priority summary =>
    let (result, r') := r.registerNames d pattern priority summary
    (.registration result, r')
  | .unregister id =>
    let (found, r') := r.unregister id
    (.removal found, r')

/-- The registry after a history. -/
def run (d : Dialect) (r : FormatterRegistry) (history : List Call) : FormatterRegistry :=
  history.foldl (fun r c => (r.call d c).2) r

/-- The calls of a history with their answers. -/
def transcript (d : Dialect) (r : FormatterRegistry) : List Call → List (Call × Reply)
  | [] => []
  | c :: later => (c, (r.call d c).1) :: (r.call d c).2.transcript d later

/-! ## What a transcript says -/

/-- The formatter that a call offers, if it offers one. -/
def Call.offered (d : Dialect) : Call → Option Formatter
  | .register f => some f
  | .registerNames pattern priority summary =>
    (TypePattern.ofNames d pattern).toOption.map fun p =>
      { pattern := p, summary := some summary, priority }
  | .unregister _ => none

/-- The number that an answer gives. -/
def Reply.number : Reply → Option Nat
  | .registration (.ok id) => some id
  | _ => none

/-- The numbers that were given, in order. -/
def numbers (log : List (Call × Reply)) : List Nat := log.filterMap fun x => x.2.number

/-- The formatter that was registered, under its number. -/
def made (d : Dialect) (x : Call × Reply) : Option Registration :=
  x.2.number.bind fun id => (x.1.offered d).map fun f => ⟨id, f⟩

/-- Whether a call takes a number out. -/
def Call.withdraws (id : Nat) : Call → Bool
  | .unregister other => other == id
  | _ => false

/-- Whether some call of a transcript takes a number out. -/
def withdrawn (log : List (Call × Reply)) (id : Nat) : Bool := log.any fun x => x.1.withdraws id

/-- The formatters that were registered and whose numbers no later call took out, in the order in
which they were registered. -/
def standing (d : Dialect) : List (Call × Reply) → List Registration
  | [] => []
  | x :: later => (made d x).toList.filter (fun e => !withdrawn later e.id) ++ standing d later

/-- An order of some registrations for the formatters of a type that are wanted: each of them once,
and each before those that it comes before. -/
structure Consults (present : List Registration) (t : TypeDescriptor) (wanted : Formatter → Bool)
    (order : List Registration) : Prop where
  perm : order.Perm (present.filter fun e => wanted e.formatter && e.formatter.pattern.holds t)
  sorted : order.Pairwise Registration.Before

/-- There is only one such order. -/
theorem Consults.unique {present : List Registration} {t : TypeDescriptor}
    {wanted : Formatter → Bool} {order other : List Registration}
    (h : Consults present t wanted order) (h' : Consults present t wanted other) : order = other :=
  List.Perm.eq_of_pairwise (fun _ _ _ _ hab hba => absurd hba hab.asymm) h.sorted h'.sorted
    (h.perm.trans h'.perm.symm)

/-! ## One call -/

variable {d : Dialect}

/-- A formatter for a blank name is rejected before anything changes. -/
theorem register_of_isBlank {f : Formatter} (r : FormatterRegistry)
    (blank : f.pattern.isBlank = true) : ∃ e, r.register f = (.error e, r) := by
  rw [register]
  split
  case h_1 name _ => exact ⟨_, if_pos blank⟩
  case h_2 notExact =>
    -- only names are blank
    cases hp : f.pattern with
    | exact name => exact absurd hp (notExact name)
    | names p => simp [hp, TypePattern.isBlank] at blank
    | category k => simp [hp, TypePattern.isBlank] at blank

/-- Every other formatter gets the next number and is put behind those that are there. -/
theorem register_of_not_isBlank {f : Formatter} (r : FormatterRegistry)
    (named : f.pattern.isBlank = false) :
    r.register f = (.ok r.nextId,
      { r with entries := r.entries ++ [⟨r.nextId, f⟩], nextId := r.nextId + 1 }) := by
  rw [register]
  split
  · exact if_neg (by simp [named])
  · rfl

/-- What is taken out is told by whether the number was there. -/
theorem unregister_eq (r : FormatterRegistry) (id : Nat) :
    r.unregister id = (r.entries.any fun e => e.id == id,
      { r with entries := r.entries.filter fun e => e.id != id }) := by
  rw [unregister, length_bne_length_filter]

/-- Only taking out takes a number out. -/
theorem Call.withdraws_eq_false {c : Call} (h : ∀ id, c ≠ .unregister id) (id : Nat) :
    c.withdraws id = false := by
  cases c with
  | register f => rfl
  | registerNames pattern priority summary => rfl
  | unregister other => exact absurd rfl (h other)

/-- A call registers the formatter that it offers under the next number, or it is rejected because
it offers none or one for a blank name, or it takes a number out. -/
theorem call_cases (r : FormatterRegistry) (c : Call) :
    ((∀ id, c ≠ .unregister id) ∧
        ((∃ f, c.offered d = some f ∧ f.pattern.isBlank = false ∧
            r.call d c = (.registration (.ok r.nextId),
              { r with entries := r.entries ++ [⟨r.nextId, f⟩], nextId := r.nextId + 1 })) ∨
          ∃ e, (∀ f, c.offered d = some f → f.pattern.isBlank = true) ∧
            r.call d c = (.registration (.error e), r))) ∨
      ∃ id, c = .unregister id ∧ r.call d c = (.removal (r.entries.any fun e => e.id == id),
        { r with entries := r.entries.filter fun e => e.id != id }) := by
  have offer : ∀ f, c.offered d = some f →
      r.call d c = (.registration (r.register f).1, (r.register f).2) →
      (∃ f, c.offered d = some f ∧ f.pattern.isBlank = false ∧
        r.call d c = (.registration (.ok r.nextId),
          { r with entries := r.entries ++ [⟨r.nextId, f⟩], nextId := r.nextId + 1 })) ∨
      ∃ e, (∀ f, c.offered d = some f → f.pattern.isBlank = true) ∧
        r.call d c = (.registration (.error e), r) := by
    intro f hf hcall
    cases blank : f.pattern.isBlank with
    | false => exact .inl ⟨f, hf, blank, by rw [hcall, register_of_not_isBlank r blank]⟩
    | true =>
      obtain ⟨e, refused⟩ := register_of_isBlank r blank
      refine .inr ⟨e, fun g hg => ?_, by rw [hcall, refused]⟩
      rw [hf] at hg
      cases hg
      exact blank
  cases c with
  | register f => exact .inl ⟨nofun, offer f rfl rfl⟩
  | registerNames pattern priority summary =>
    refine .inl ⟨nofun, ?_⟩
    cases hp : TypePattern.ofNames d pattern with
    | ok p =>
      refine offer { pattern := p, summary := some summary, priority } ?_ ?_
      · simp only [Call.offered, hp, Except.toOption, Option.map_some]
      · simp only [call, registerNames, hp]
    | error e =>
      refine .inr ⟨e, fun f hf => ?_, ?_⟩
      · simp [Call.offered, hp, Except.toOption] at hf
      · simp only [call, registerNames, hp]
  | unregister id => exact .inr ⟨id, rfl, by rw [call, unregister_eq]⟩

/-- A call gives the next number, which the registry then counts, or it gives none. -/
theorem number_call (r : FormatterRegistry) (c : Call) :
    ((r.call d c).1.number = some r.nextId ∧ (r.call d c).2.nextId = r.nextId + 1) ∨
      ((r.call d c).1.number = none ∧ (r.call d c).2.nextId = r.nextId) := by
  obtain ⟨-, ⟨f, -, -, eq⟩ | ⟨e, -, eq⟩⟩ | ⟨id, -, eq⟩ := r.call_cases (d := d) c
  · exact .inl (by rw [eq]; exact ⟨rfl, rfl⟩)
  · exact .inr (by rw [eq]; exact ⟨rfl, rfl⟩)
  · exact .inr (by rw [eq]; exact ⟨rfl, rfl⟩)

/-- An attempt to register is rejected if it offers no formatter or one for a blank name, and only
then. -/
theorem rejected_iff (r : FormatterRegistry) (c : Call) :
    (∃ e, (r.call d c).1 = .registration (.error e)) ↔
      (∀ id, c ≠ .unregister id) ∧ ∀ f, c.offered d = some f → f.pattern.isBlank = true := by
  obtain ⟨attempt, ⟨f, offered, named, eq⟩ | ⟨e, blank, eq⟩⟩ | ⟨id, rfl, eq⟩ :=
    r.call_cases (d := d) c
  · rw [eq]
    refine ⟨nofun, fun h => ?_⟩
    rw [h.2 f offered] at named
    cases named
  · rw [eq]
    exact ⟨fun _ => ⟨attempt, blank⟩, fun _ => ⟨e, rfl⟩⟩
  · rw [eq]
    exact ⟨nofun, fun h => absurd rfl (h.1 id)⟩

/-- A rejected attempt changes nothing. -/
theorem eq_of_rejected {r r' : FormatterRegistry} {c : Call} {e : RegistrationError}
    (h : r.call d c = (.registration (.error e), r')) : r' = r := by
  obtain ⟨-, ⟨f, -, -, eq⟩ | ⟨e', -, eq⟩⟩ | ⟨id, -, eq⟩ := r.call_cases (d := d) c
  all_goals
    rw [eq] at h
    cases h
  rfl

/-! ## Histories -/

/-- Numbers are given one after the other, from the next one of the registry on. -/
theorem numbers_transcript (r : FormatterRegistry) (history : List Call) :
    numbers (r.transcript d history) =
      List.range' r.nextId (numbers (r.transcript d history)).length := by
  induction history generalizing r with
  | nil => rfl
  | cons c later ih =>
    have ih := ih (r.call d c).2
    obtain ⟨given, next⟩ | ⟨given, next⟩ := r.number_call (d := d) c
    · -- the number given is the next one, and the later ones follow it
      have front : numbers (r.transcript d (c :: later)) =
          r.nextId :: numbers ((r.call d c).2.transcript d later) := List.filterMap_cons_some given
      rw [next] at ih
      rw [front, List.length_cons, List.range'_succ, ← ih]
    · have same : numbers (r.transcript d (c :: later)) =
          numbers ((r.call d c).2.transcript d later) := List.filterMap_cons_none given
      rw [next] at ih
      rw [same]
      exact ih

/-- After a history a registry holds those of its formatters whose numbers were not taken out, and
behind them what stands of the transcript. -/
theorem entries_run (r : FormatterRegistry) (history : List Call) :
    (r.run d history).entries =
      (r.entries.filter fun e => !withdrawn (r.transcript d history) e.id) ++
        standing d (r.transcript d history) := by
  induction history generalizing r with
  | nil =>
    have all : r.entries.filter (fun e => !withdrawn [] e.id) = r.entries :=
      List.filter_eq_self.2 fun _ _ => rfl
    rw [transcript, all, standing, List.append_nil]
    rfl
  | cons c later ih =>
    have ih := ih (r.call d c).2
    rw [run, List.foldl_cons, ← run, ih, transcript, standing]
    obtain ⟨attempt, ⟨f, offered, -, eq⟩ | ⟨e, -, eq⟩⟩ | ⟨id, rfl, eq⟩ :=
      r.call_cases (d := d) c
    · -- the new formatter stands unless its number is taken out later
      have new : made d (c, (r.call d c).1) = some ⟨r.nextId, f⟩ := by
        rw [eq, made, offered]
        rfl
      rw [new, eq, List.filter_append, List.append_assoc, Option.toList_some]
      simp only [withdrawn, List.any_cons, Call.withdraws_eq_false attempt, Bool.false_or]
    · have new : made d (c, (r.call d c).1) = none := by
        rw [eq]
        rfl
      rw [new, eq, Option.toList_none, List.filter_nil, List.nil_append]
      simp only [withdrawn, List.any_cons, Call.withdraws_eq_false attempt, Bool.false_or]
    · have old (found : Bool) (further : List (Call × Reply)) :
          (r.entries.filter fun e => e.id != id).filter (fun e => !withdrawn further e.id) =
            r.entries.filter fun e =>
              !withdrawn ((.unregister id, .removal found) :: further) e.id := by
        rw [List.filter_filter]
        refine List.filter_congr fun e _ => ?_
        rw [withdrawn, withdrawn, List.any_cons, Call.withdraws, Bool.not_or, Bool.and_comm,
          bne, BEq.comm]
      rw [eq, old]
      rfl

/-- What stands was registered, in the order of its numbers. -/
theorem sublist_standing (log : List (Call × Reply)) :
    ((standing d log).map (·.id)).Sublist (numbers log) := by
  induction log with
  | nil => exact .slnil
  | cons x later ih =>
    have front : numbers (x :: later) = x.2.number.toList ++ numbers later := by
      rw [numbers, List.filterMap_cons]
      cases x.2.number <;> rfl
    have one : ((made d x).toList.map (·.id)).Sublist x.2.number.toList := by
      rw [made]
      cases x.2.number <;> cases x.1.offered d <;> simp
    rw [standing, List.map_append, front]
    exact ((List.filter_sublist.map _).trans one).append ih

/-- No number is given twice, so no two formatters that stand have one number. -/
theorem pairwise_standing_transcript (r : FormatterRegistry) (history : List Call) :
    (standing d (r.transcript d history)).Pairwise fun a b => a.id < b.id := by
  have given : (numbers (r.transcript d history)).Pairwise (· < ·) := by
    rw [numbers_transcript r history]
    exact List.pairwise_lt_range'
  exact List.pairwise_map.1 (given.sublist (sublist_standing _))

/-! ## The order of consultation -/

/-- Sorting goes by priority, and then by number. -/
theorem precedes_iff {a b : Registration} :
    precedes a b = true ↔ b.formatter.priority < a.formatter.priority ∨
      b.formatter.priority = a.formatter.priority ∧ a.id ≤ b.id := by
  simp [precedes]

/-- Sorting registrations with distinct numbers by priority and number orders them strictly. -/
theorem pairwise_mergeSort_precedes {es : List Registration}
    (distinct : es.Pairwise fun a b => a.id ≠ b.id) :
    (es.mergeSort precedes).Pairwise fun a b =>
      b.formatter.priority < a.formatter.priority ∨
        b.formatter.priority = a.formatter.priority ∧ a.id < b.id := by
  have sorted : (es.mergeSort precedes).Pairwise fun a b => precedes a b = true := by
    refine List.pairwise_mergeSort (fun a b c hab hbc => ?_) (fun a b => ?_) es
    · rw [precedes_iff] at hab hbc ⊢
      omega
    · rw [Bool.or_eq_true, precedes_iff, precedes_iff]
      omega
  have apart : (es.mergeSort precedes).Pairwise fun a b => a.id ≠ b.id :=
    ((List.mergeSort_perm es precedes).pairwise_iff fun h => Ne.symm h).2 distinct
  refine (sorted.and apart).imp fun {a b} h => ?_
  obtain ⟨ordered, ne⟩ := h
  rw [precedes_iff] at ordered
  omega

/-- Where numbers are distinct, the registrations for a type that are wanted are consulted each
once, in order. -/
theorem consults_matching {r : FormatterRegistry}
    (distinct : r.entries.Pairwise fun a b => a.id ≠ b.id) (t : TypeDescriptor)
    (wanted : Formatter → Bool) : Consults r.entries t wanted (r.matching t wanted) := by
  rw [matching, List.partition_eq_filter_filter]
  dsimp only
  generalize hfound : r.entries.filter
    (fun e => wanted e.formatter && e.formatter.pattern.holds t) = found
  have apart : found.Pairwise fun a b => a.id ≠ b.id := hfound ▸ distinct.filter _
  refine ⟨?_, List.pairwise_append.2 ⟨?_, ?_, ?_⟩⟩
  · rw [hfound]
    refine ((List.mergeSort_perm _ _).append (List.mergeSort_perm _ _)).trans ?_
    exact List.filter_append_perm _ found
  · -- both are for names
    refine (pairwise_mergeSort_precedes (apart.filter _)).imp_of_mem fun {a b} ha hb ordered => ?_
    have exactA := (List.mem_filter.1 (List.mem_mergeSort.1 ha)).2
    have exactB := (List.mem_filter.1 (List.mem_mergeSort.1 hb)).2
    rw [Registration.Before, exactA, exactB]
    exact ordered
  · -- both are for patterns or categories
    refine (pairwise_mergeSort_precedes (apart.filter _)).imp_of_mem fun {a b} ha hb ordered => ?_
    have otherA := (List.mem_filter.1 (List.mem_mergeSort.1 ha)).2
    have otherB := (List.mem_filter.1 (List.mem_mergeSort.1 hb)).2
    rw [Function.comp_apply, Bool.not_eq_true'] at otherA otherB
    rw [Registration.Before, otherA, otherB]
    exact ordered
  · intro a ha b hb
    have exactA := (List.mem_filter.1 (List.mem_mergeSort.1 ha)).2
    have otherB := (List.mem_filter.1 (List.mem_mergeSort.1 hb)).2
    rw [Function.comp_apply, Bool.not_eq_true'] at otherB
    rw [Registration.Before, exactA, otherB]
    trivial

/-- After every history of a new registry, the formatters that are consulted for the summary and for
the children of a type are those that stand, are for the type and have one, each once and in order.
Numbers are given one after the other, none of them twice. Taking a number out takes out the
formatter that got it, if it still stands, and says whether it did. Only what is no pattern or a
blank name is rejected, and that changes nothing. -/
theorem consults_run (d : Dialect) (config : FormatterConfig) (history : List Call) :
    let r := ({ config } : FormatterRegistry).run d history
    let log := ({ config } : FormatterRegistry).transcript d history
    r.entries = standing d log ∧
      (∀ t, Consults (standing d log) t (·.summary.isSome) (r.summaryEntries t)) ∧
      (∀ t, Consults (standing d log) t (·.children.isSome) (r.childrenEntries t)) ∧
      numbers log = List.range' 1 (numbers log).length ∧
      ((standing d log).map (·.id)).Sublist (numbers log) ∧
      (∀ id, r.unregister id = ((standing d log).any fun e => e.id == id,
        { r with entries := (standing d log).filter fun e => e.id != id })) ∧
      (∀ c, (∃ e, (r.call d c).1 = .registration (.error e)) ↔
        (∀ id, c ≠ .unregister id) ∧ ∀ f, c.offered d = some f → f.pattern.isBlank = true) ∧
      (∀ c e r', r.call d c = (.registration (.error e), r') → r' = r) := by
  intro r log
  have entries : r.entries = standing d log := entries_run { config } history
  have distinct : r.entries.Pairwise fun a b => a.id ≠ b.id := by
    rw [entries]
    exact (pairwise_standing_transcript _ history).imp fun h => Nat.ne_of_lt h
  refine ⟨entries, fun t => ?_, fun t => ?_, numbers_transcript _ history, sublist_standing log,
    fun id => ?_, rejected_iff r, fun c e r' => eq_of_rejected⟩
  · rw [← entries]
    exact consults_matching distinct t _
  · rw [← entries]
    exact consults_matching distinct t _
  · rw [unregister_eq, entries]

/-- A formatter for the very name of a type is consulted before an urgent one for its category,
which got the number after it. A blank name between them is rejected and takes no number. -/
theorem consults_run_urgent :
    let say (text : String) : SummaryFormatter := fun _ _ _ => pure text
    let first : Formatter := { pattern := .category .object, summary := some (say "first") }
    let named : Formatter :=
      { pattern := .exact "app.Point", summary := some (say "named"), priority := -10 }
    let urgent : Formatter :=
      { pattern := .category .object, summary := some (say "urgent"), priority := 5 }
    let blank : Formatter := { pattern := .exact " " }
    let history : List Call :=
      [.register first, .register named, .register blank, .register urgent, .unregister 1]
    let r := ({} : FormatterRegistry).run .standard history
    let t := TypeDescriptor.object "app.Point" true
    r.entries = [⟨2, named⟩, ⟨3, urgent⟩] ∧
      r.summaryEntries t = [⟨2, named⟩, ⟨3, urgent⟩] ∧
      (r.unregister 1).1 = false ∧
      r.register blank = (.error (.badPattern " " "empty type name"), r) := by
  intro say first named urgent blank history r t
  obtain ⟨entries, summaries, -, -, -, withdraw, -, unchanged⟩ :=
    consults_run .standard {} history
  have stands : standing .standard (({} : FormatterRegistry).transcript .standard history) =
      [⟨2, named⟩, ⟨3, urgent⟩] := rfl
  rw [stands] at entries summaries withdraw
  have rejected : (r.register blank).1 = .error (.badPattern " " "empty type name") := rfl
  have answered : r.call .standard (.register blank) =
      (.registration (.error (.badPattern " " "empty type name")), (r.register blank).2) := rfl
  have both : [⟨2, named⟩, ⟨3, urgent⟩].filter (fun e : Registration =>
      e.formatter.summary.isSome && e.formatter.pattern.holds t) =
        [⟨2, named⟩, ⟨3, urgent⟩] := rfl
  have order : Consults [⟨2, named⟩, ⟨3, urgent⟩] t (·.summary.isSome)
      [⟨2, named⟩, ⟨3, urgent⟩] := ⟨by rw [both], List.pairwise_pair.2 trivial⟩
  exact ⟨entries, (summaries t).unique order, congrArg Prod.fst (withdraw 1),
    Prod.ext rejected (unchanged _ _ _ answered)⟩

end FormatterRegistry

end HeapScope
