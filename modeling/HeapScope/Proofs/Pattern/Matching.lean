import HeapScope.Pattern.Expression
import Mathlib.Data.List.Basic
import Mathlib.Data.Set.Defs

/-!
# Matching

`Spans` says which parts of a text an expression spans, and `ends` computes where those parts end
that begin at a place. The two agree for every expression, `mem_ends_iff`, and so the search that
`occursIn` makes finds an expression exactly if it spans some part of the text.

Three shortcuts of the computation have to be justified. Places are compared by what is left behind
them only, which is enough because all of them lie in one text (`Reaches.eq_of_length_eq`). Rounds
of a repetition are not gone on with once they lead nowhere else, as the places that were found are
then closed under a further round. And a repetition without an upper bound makes no more rounds than
there are characters left: a round that spans nothing leads back to where it began and can be left
out (`Times.shorten`).
-/

namespace HeapScope.Pattern

/-! ## Places of one text -/

namespace Place

/-- A place is followed by another one, with some characters between them. -/
def Reaches (p q : Place) : Prop :=
  ∃ part, p.rest = part ++ q.rest ∧ q.before = part.getLast?.or p.before

variable {o p q : Place}

/-- A place is followed by itself. -/
theorem Reaches.refl (p : Place) : p.Reaches p :=
  ⟨[], rfl, rfl⟩

/-- What follows a following place follows the first one. -/
theorem Reaches.trans (first : o.Reaches p) (second : p.Reaches q) : o.Reaches q := by
  obtain ⟨front, text, before⟩ := first
  obtain ⟨part, rest, last⟩ := second
  refine ⟨front ++ part, ?_, ?_⟩
  · rw [text, rest, List.append_assoc]
  · rw [last, before, List.getLast?_append, Option.or_assoc]

/-- Behind a following place no more is left. -/
theorem Reaches.length_le (h : p.Reaches q) : q.rest.length ≤ p.rest.length := by
  obtain ⟨part, rest, -⟩ := h
  rw [rest, List.length_append]
  omega

/-- What is left behind a place of a text tells which place it is. -/
theorem Reaches.eq_of_length_eq (hp : o.Reaches p) (hq : o.Reaches q)
    (same : p.rest.length = q.rest.length) : p = q := by
  obtain ⟨front, text, before⟩ := hp
  obtain ⟨part, text', before'⟩ := hq
  obtain ⟨rfl, rest⟩ := List.append_inj' (text.symm.trans text') same
  cases p
  cases q
  simp_all

/-- A place is followed by the one behind its first character. -/
theorem Reaches.of_char {c : Char} (rest : p.rest = c :: q.rest) (before : q.before = some c) :
    p.Reaches q :=
  ⟨[c], rest, before⟩

/-- The places of a text from one on are those that it reaches. -/
theorem mem_fromHere_iff {before : Option Char} {s : List Char} :
    q ∈ fromHere before s ↔ Reaches ⟨before, s⟩ q := by
  induction s generalizing before with
  | nil =>
    rw [fromHere, List.mem_singleton]
    constructor
    · rintro rfl
      exact Reaches.refl _
    · intro h
      exact (h.eq_of_length_eq (Reaches.refl _) (Nat.le_zero.1 h.length_le))
  | cons c s ih =>
    rw [fromHere, List.mem_cons, ih]
    constructor
    · rintro (rfl | behind)
      · exact Reaches.refl _
      · exact (Reaches.of_char rfl rfl).trans behind
    · rintro ⟨part, rest, last⟩
      cases part with
      | nil =>
        left
        cases q
        simp_all
      | cons d part =>
        obtain ⟨rfl, behind⟩ := List.cons.inj rest
        refine .inr ⟨part, behind, ?_⟩
        rw [last, List.getLast?_cons]
        cases part.getLast? <;> rfl

end Place

/-! ## Rounds -/

section Rounds

variable {R : Place → Place → Prop} {p q : Place}

/-- Rounds in a row may be cut at any number of them. -/
theorem times_add {m n : Nat} :
    Times R (m + n) p q ↔ ∃ between, Times R m p between ∧ Times R n between q := by
  induction m generalizing p with
  | zero =>
    rw [Nat.zero_add]
    exact ⟨fun h => ⟨p, rfl, h⟩, fun ⟨_, same, h⟩ => (show p = _ from same) ▸ h⟩
  | succ m ih =>
    rw [Nat.add_right_comm]
    constructor
    · rintro ⟨next, first, others⟩
      obtain ⟨between, front, back⟩ := ih.1 others
      exact ⟨between, ⟨next, first, front⟩, back⟩
    · rintro ⟨between, ⟨next, first, front⟩, back⟩
      exact ⟨next, first, ih.2 ⟨between, front, back⟩⟩

/-- Rounds do not leave places that no single round leaves. -/
theorem Times.mem_of_closed {ps : List Place} (closed : ∀ p ∈ ps, ∀ q, R p q → q ∈ ps)
    {n : Nat} (h : Times R n p q) (hp : p ∈ ps) : q ∈ ps := by
  induction n generalizing p with
  | zero => exact (show p = q from h) ▸ hp
  | succ n ih =>
    obtain ⟨next, first, others⟩ := h
    exact ih others (closed p hp next first)

variable (onward : ∀ p q, R p q → p.Reaches q)

include onward in

/-- Rounds lead to a following place, if each one does. -/
theorem Times.reaches {n : Nat} (h : Times R n p q) : p.Reaches q := by
  induction n generalizing p with
  | zero => exact (show p = q from h) ▸ Place.Reaches.refl p
  | succ n ih =>
    obtain ⟨next, first, others⟩ := h
    exact (onward p next first).trans (ih others)

include onward in
/-- Rounds that span nothing can be left out, so no more rounds are needed than there are
characters. -/
theorem Times.shorten {n : Nat} (h : Times R n p q) :
    ∃ k ≤ min n p.rest.length, Times R k p q := by
  induction n generalizing p with
  | zero => exact ⟨0, Nat.zero_le _, h⟩
  | succ n ih =>
    obtain ⟨next, first, others⟩ := h
    obtain ⟨k, few, short⟩ := ih others
    have on := onward p next first
    rcases Nat.lt_or_eq_of_le on.length_le with fewer | same
    · exact ⟨k + 1, by omega, next, first, short⟩
    · obtain rfl := on.eq_of_length_eq (Place.Reaches.refl p) same
      exact ⟨k, by omega, short⟩

end Rounds

namespace Regex

/-! ## Lists of places -/

section Lists

variable {o p x : Place} {ps qs : List Place}

/-- Inserting compares places by what is left behind them, so they have to be places of one text. -/
theorem mem_insertPlace_iff (hp : o.Reaches p) (hqs : ∀ q ∈ qs, o.Reaches q) :
    x ∈ insertPlace p qs ↔ x = p ∨ x ∈ qs := by
  induction qs with
  | nil => rw [insertPlace, List.mem_singleton, or_iff_left List.not_mem_nil]
  | cons q qs ih =>
    obtain ⟨hq, hqs⟩ := List.forall_mem_cons.1 hqs
    rw [insertPlace]
    split
    · exact List.mem_cons
    · split
      case isTrue same =>
        obtain rfl := hp.eq_of_length_eq hq same
        rw [List.mem_cons, or_self_left]
      case isFalse =>
        rw [List.mem_cons, ih hqs, List.mem_cons, or_left_comm]

/-- Merging places of one text loses none and adds none. -/
theorem mem_mergePlaces_iff (hps : ∀ p ∈ ps, o.Reaches p) (hqs : ∀ q ∈ qs, o.Reaches q) :
    x ∈ mergePlaces ps qs ↔ x ∈ ps ∨ x ∈ qs := by
  induction ps generalizing x with
  | nil => exact (or_iff_right List.not_mem_nil).symm
  | cons p ps ih =>
    obtain ⟨hp, hps⟩ := List.forall_mem_cons.1 hps
    have merged : ∀ q ∈ mergePlaces ps qs, o.Reaches q := fun q hq =>
      ((ih hps).1 hq).elim (hps q) (hqs q)
    show x ∈ insertPlace p (mergePlaces ps qs) ↔ _
    rw [mem_insertPlace_iff hp merged, ih hps, List.mem_cons, or_assoc]

/-- Inserting a place adds one or changes nothing. -/
theorem length_le_insertPlace (p : Place) (qs : List Place) :
    qs.length ≤ (insertPlace p qs).length ∧
      ((insertPlace p qs).length = qs.length → insertPlace p qs = qs) := by
  induction qs with
  | nil => simp [insertPlace]
  | cons q qs ih =>
    rw [insertPlace]
    split
    · simp
    · split
      · simp
      · simpa using ih

/-- Places are only added, so as long as their number stays the same nothing is added. -/
theorem length_le_mergePlaces (ps qs : List Place) :
    qs.length ≤ (mergePlaces ps qs).length ∧
      ((mergePlaces ps qs).length = qs.length → mergePlaces ps qs = qs) := by
  induction ps with
  | nil => exact ⟨Nat.le_refl _, fun _ => rfl⟩
  | cons p ps ih =>
    have outer := length_le_insertPlace p (mergePlaces ps qs)
    show qs.length ≤ (insertPlace p (mergePlaces ps qs)).length ∧
      ((insertPlace p (mergePlaces ps qs)).length = qs.length →
        insertPlace p (mergePlaces ps qs) = qs)
    refine ⟨Nat.le_trans ih.1 outer.1, fun same => ?_⟩
    have inner : (mergePlaces ps qs).length = qs.length := by omega
    rw [outer.2 (by omega), ih.2 inner]

end Lists

/-! ## Steps computed -/

section Steps

variable {step : Place → List Place} {R : Place → Place → Prop}
  (computes : ∀ p q, q ∈ step p ↔ R p q) (onward : ∀ p q, R p q → p.Reaches q)
  {o q : Place} {ps : List Place}

include computes onward

/-- A step from several places leads where it leads from one of them. -/
theorem mem_stepAll_iff (hps : ∀ p ∈ ps, o.Reaches p) :
    q ∈ stepAll step ps ↔ ∃ p ∈ ps, R p q := by
  induction ps generalizing q with
  | nil => simp [stepAll]
  | cons p ps ih =>
    obtain ⟨hp, hps⟩ := List.forall_mem_cons.1 hps
    have here : ∀ x ∈ step p, o.Reaches x := fun x hx =>
      hp.trans (onward p x ((computes p x).1 hx))
    have others : ∀ x ∈ stepAll step ps, o.Reaches x := fun x hx => by
      obtain ⟨p, hp, steps⟩ := (ih hps).1 hx
      exact (hps p hp).trans (onward p x steps)
    show q ∈ mergePlaces (step p) (stepAll step ps) ↔ _
    rw [mem_mergePlaces_iff here others, computes, ih hps, List.exists_mem_cons_iff]

/-- A step leads to places of the same text. -/
theorem reaches_of_mem_stepAll (hps : ∀ p ∈ ps, o.Reaches p) :
    ∀ q ∈ stepAll step ps, o.Reaches q := by
  intro q hq
  obtain ⟨p, hp, steps⟩ := (mem_stepAll_iff computes onward hps).1 hq
  exact (hps p hp).trans (onward p q steps)

/-- Stopping early when nothing changes loses no place. -/
theorem mem_exactly_iff {n : Nat} (hps : ∀ p ∈ ps, o.Reaches p) :
    q ∈ exactly step n ps ↔ ∃ p ∈ ps, Times R n p q := by
  induction n generalizing ps with
  | zero => simp [exactly, Times]
  | succ n ih =>
    have reached := reaches_of_mem_stepAll computes onward hps
    have first_round : (∃ m ∈ stepAll step ps, Times R n m q) ↔
        ∃ p ∈ ps, Times R (n + 1) p q := by
      constructor
      · rintro ⟨m, hm, others⟩
        obtain ⟨p, hp, first⟩ := (mem_stepAll_iff computes onward hps).1 hm
        exact ⟨p, hp, m, first, others⟩
      · rintro ⟨p, hp, m, first, others⟩
        exact ⟨m, (mem_stepAll_iff computes onward hps).2 ⟨p, hp, first⟩, others⟩
    rw [exactly, ← first_round, ← ih reached]
    split
    case isTrue settled =>
      -- further rounds from the same places lead to the same places again
      rw [settled]
      cases n with
      | zero => rfl
      | succ n => rw [exactly, if_pos settled]
    case isFalse => exact Iff.rfl

/-- Stopping early when nothing is added loses no place. -/
theorem mem_atMost_iff {n : Nat} (hps : ∀ p ∈ ps, o.Reaches p) :
    q ∈ atMost step n ps ↔ ∃ k ≤ n, ∃ p ∈ ps, Times R k p q := by
  induction n generalizing ps with
  | zero => simp [atMost, Times]
  | succ n ih =>
    have reached := reaches_of_mem_stepAll computes onward hps
    have added : ∀ {x}, x ∈ mergePlaces (stepAll step ps) ps ↔ (∃ p ∈ ps, R p x) ∨ x ∈ ps := by
      intro x
      rw [mem_mergePlaces_iff reached hps, mem_stepAll_iff computes onward hps]
    rw [atMost]
    split
    case isTrue same =>
      -- nothing was added, so the places are closed under a round
      have settled := (length_le_mergePlaces _ _).2 same
      constructor
      · intro hq
        exact ⟨0, Nat.zero_le _, q, hq, rfl⟩
      · rintro ⟨k, -, p, hp, rounds⟩
        refine rounds.mem_of_closed (fun p hp x first => ?_) hp
        exact settled ▸ added.2 (.inl ⟨p, hp, first⟩)
    case isFalse =>
      rw [ih fun x hx => (mem_mergePlaces_iff reached hps |>.1 hx).elim (reached x) (hps x)]
      constructor
      · rintro ⟨k, few, m, hm, rounds⟩
        rcases added.1 hm with ⟨p, hp, first⟩ | hp
        · exact ⟨k + 1, by omega, p, hp, m, first, rounds⟩
        · exact ⟨k, by omega, m, hp, rounds⟩
      · rintro ⟨k, few, p, hp, rounds⟩
        cases k with
        | zero => exact ⟨0, Nat.zero_le _, p, added.2 (.inr hp), rounds⟩
        | succ k =>
          obtain ⟨m, first, others⟩ := rounds
          exact ⟨k, by omega, m, added.2 (.inl ⟨p, hp, first⟩), others⟩

end Steps

/-! ## All expressions -/

/-- An expression spans a part of the text from a place to a following one. -/
theorem Spans.reaches {r : Regex} {p q : Place} (h : r.Spans p q) : p.Reaches q := by
  induction r generalizing p q with
  | empty => exact (show p = q from h) ▸ Place.Reaches.refl p
  | char set =>
    obtain ⟨c, -, rest, before⟩ := h
    exact Place.Reaches.of_char rest before
  | look condition => exact h.2 ▸ Place.Reaches.refl p
  | cat a b iha ihb =>
    obtain ⟨m, front, back⟩ := h
    exact (iha front).trans (ihb back)
  | alt a b iha ihb => exact h.elim iha ihb
  | repeated a least most ih =>
    obtain ⟨n, -, -, rounds⟩ := h
    exact rounds.reaches fun p q => ih

/-- Where a repetition ends, given where one round of it ends. -/
theorem mem_ends_repeated_iff {a : Regex} {least : Nat} {most : Option Nat} {p q : Place}
    (one : ∀ p q, q ∈ a.ends p ↔ a.Spans p q) :
    q ∈ (repeated a least most).ends p ↔ (repeated a least most).Spans p q := by
  have onward : ∀ p q, a.Spans p q → p.Reaches q := fun _ _ => Spans.reaches
  have from_p : ∀ m ∈ [p], p.Reaches m := fun m hm =>
    List.mem_singleton.1 hm ▸ Place.Reaches.refl m
  have least_rounds : ∀ {m}, m ∈ exactly a.ends least [p] ↔ Times a.Spans least p m := by
    intro m
    rw [mem_exactly_iff one onward from_p]
    simp
  have reached : ∀ m ∈ exactly a.ends least [p], p.Reaches m := fun m hm =>
    (least_rounds.1 hm).reaches onward
  have all_rounds : ∀ {rounds}, q ∈ atMost a.ends rounds (exactly a.ends least [p]) ↔
      ∃ k ≤ rounds, Times a.Spans (least + k) p q := by
    intro rounds
    rw [mem_atMost_iff one onward reached]
    refine exists_congr fun k => and_congr_right fun _ => ?_
    rw [times_add]
    exact exists_congr fun m => and_congr_left' least_rounds
  -- beyond the least number, no more rounds are needed than there are characters
  have few : ∀ {n}, Times a.Spans (least + n) p q →
      ∃ k ≤ min n p.rest.length, Times a.Spans (least + k) p q := by
    intro n rounds
    obtain ⟨m, front, back⟩ := times_add.1 rounds
    obtain ⟨k, bound, short⟩ := back.shorten onward
    have left := (front.reaches onward).length_le
    exact ⟨k, by omega, times_add.2 ⟨m, front, short⟩⟩
  rw [ends, Spans]
  cases most with
  | none =>
    rw [Option.any_none, if_neg Bool.false_ne_true, all_rounds]
    constructor
    · rintro ⟨k, -, rounds⟩
      have unbounded : ∀ m, none = some m → least + k ≤ m := fun m h =>
        (Option.some_ne_none m h.symm).elim
      exact ⟨least + k, Nat.le_add_right _ _, unbounded, rounds⟩
    · rintro ⟨n, enough, -, rounds⟩
      obtain ⟨k, bound, short⟩ := few (n := n - least) (by rwa [Nat.add_sub_cancel' enough])
      exact ⟨k, Nat.le_trans bound (Nat.min_le_right _ _), short⟩
  | some most =>
    rw [Option.any_some]
    split
    case isTrue none_fits =>
      refine iff_of_false List.not_mem_nil ?_
      rintro ⟨n, enough, notMore, -⟩
      have := of_decide_eq_true none_fits
      have := notMore most rfl
      omega
    case isFalse fits =>
      have order : least ≤ most := by simpa using fits
      rw [all_rounds]
      constructor
      · rintro ⟨k, bound, rounds⟩
        refine ⟨least + k, Nat.le_add_right _ _, fun m h => ?_, rounds⟩
        obtain rfl := Option.some.inj h
        have := Nat.le_min.1 bound
        omega
      · rintro ⟨n, enough, notMore, rounds⟩
        have := notMore most rfl
        obtain ⟨k, bound, short⟩ := few (n := n - least) (by rwa [Nat.add_sub_cancel' enough])
        refine ⟨k, ?_, short⟩
        show k ≤ min (most - least) p.rest.length
        omega

/-- The places that are computed are those where the parts end that an expression spans. -/
theorem mem_ends_iff {r : Regex} {p q : Place} : q ∈ r.ends p ↔ r.Spans p q := by
  induction r generalizing p q with
  | empty => exact List.mem_singleton.trans eq_comm
  | char set =>
    rw [ends]
    split
    case h_1 c rest text =>
      by_cases has : set.has c = true
      · rw [if_pos has, List.mem_singleton]
        constructor
        · rintro rfl
          exact ⟨c, has, text, rfl⟩
        · rintro ⟨d, -, rest', before⟩
          obtain ⟨rfl, rfl⟩ := List.cons.inj (text.symm.trans rest')
          cases q
          simp_all
      · rw [if_neg has]
        refine iff_of_false List.not_mem_nil ?_
        rintro ⟨d, hasd, rest', -⟩
        obtain ⟨rfl, -⟩ := List.cons.inj (text.symm.trans rest')
        exact has hasd
    case h_2 text =>
      refine iff_of_false List.not_mem_nil ?_
      rintro ⟨d, -, rest', -⟩
      exact List.cons_ne_nil _ _ (rest'.symm.trans text)
  | look condition =>
    rw [ends]
    by_cases holds : condition.holds p = true
    · rw [if_pos holds, List.mem_singleton, eq_comm]
      exact (and_iff_right holds).symm
    · rw [if_neg holds]
      exact iff_of_false List.not_mem_nil fun h => holds h.1
  | cat a b iha ihb =>
    have from_p : ∀ m ∈ a.ends p, p.Reaches m := fun m hm => (iha.1 hm).reaches
    rw [ends, mem_stepAll_iff (fun _ _ => ihb) (fun _ _ => Spans.reaches) from_p]
    exact exists_congr fun m => and_congr_left' iha
  | alt a b iha ihb =>
    have left : ∀ m ∈ a.ends p, p.Reaches m := fun m hm => (iha.1 hm).reaches
    have right : ∀ m ∈ b.ends p, p.Reaches m := fun m hm => (ihb.1 hm).reaches
    rw [ends, mem_mergePlaces_iff left right, iha, ihb]
    rfl
  | repeated a least most ih => exact mem_ends_repeated_iff fun _ _ => ih

/-! ## Finding and covering -/

/-- The texts that an expression spans as a whole. -/
def language (r : Regex) : Set (List Char) :=
  { s | ∃ stop : Place, stop.rest = [] ∧ r.Spans (Place.start s) stop }

/-- A text belongs to the language if the expression spans it from its start to its end. -/
theorem mem_language_iff {r : Regex} {s : List Char} :
    s ∈ r.language ↔ ∃ stop : Place, stop.rest = [] ∧ r.Spans (Place.start s) stop :=
  Iff.rfl

/-- The search finds an expression exactly if it spans some part of the text. -/
theorem occursIn_iff {r : Regex} {s : List Char} :
    r.occursIn s = true ↔ ∃ p q, (Place.start s).Reaches p ∧ r.Spans p q := by
  rw [occursIn, List.any_eq_true]
  refine exists_congr fun p => ?_
  rw [Place.mem_fromHere_iff, Bool.not_eq_true', List.isEmpty_eq_false_iff_exists_mem,
    ← exists_and_left]
  exact exists_congr fun q => and_congr_right' mem_ends_iff

end Regex

end HeapScope.Pattern
