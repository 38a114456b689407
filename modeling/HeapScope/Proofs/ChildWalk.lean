import HeapScope.Proofs.ChildSequence
import HeapScope.Session

/-!
# Walks through children whose source may do anything

The source of children is a formatter of the host. It may answer with more items than it announced
or with fewer, with errors among them, without end, and it may crash at any item or before the first
one. A walk guards against all of that with two pieces of state: its source, which is given up when
it crashes, and how many items are left.

Here a walk is asked again and again, also after it had nothing to yield. `after_cases` is the
invariant: as long as the walk is not over, it has its source still, and each call so far took one
from what was left. Once it is over it stays where it is. `WellBehaved` lists what follows for the
items, and `children_wellBehaved` adds what follows for those who inspect them.
-/

namespace HeapScope

namespace ChildWalk

variable {w : ChildWalk} {item : ChildItem} {m n : Nat}

/-- The walk behind some calls. -/
def after : Nat → ChildWalk → ChildWalk
  | 0, w => w
  | n + 1, w => after n w.next.value.2

/-- What a walk yields to the call behind some others. -/
def answer (n : Nat) (w : ChildWalk) : Option ChildItem := (w.after n).next.value.1

/-- Whether nothing more will come. -/
def IsOver (w : ChildWalk) : Prop := w.remaining = 0 ∨ w.source = none

/-- Whether the source crashes when it is asked for the next item. -/
def Breaks (w : ChildWalk) : Prop :=
  w.remaining ≠ 0 ∧ ∃ source stop, w.source = some source ∧
    (source w.ordinal w.cursor).outcome = .error stop

/-- Whether a walk has gone on by some items, from the same source. -/
structure IsAhead (n : Nat) (w w' : ChildWalk) : Prop where
  source : w'.source = w.source
  ordinal : w'.ordinal = w.ordinal + n
  remaining : w'.remaining + n = w.remaining

/-- What one call does to a walk, by what it yields and the walk behind it: the walk was over
already, the source has an item, the source has no more, or the source crashes. -/
inductive Call (w : ChildWalk) : Option ChildItem → ChildWalk → Prop
  | finished (ended : w.IsOver) : Call w none w
  | yields {source : ChildSource} {item : ChildItem} {cursor : Nat} {w' : ChildWalk}
      (asked : w.source = some source)
      (made : (source w.ordinal w.cursor).outcome = .ok (some (item, cursor)))
      (ahead : IsAhead 1 w w') : Call w (some item) w'
  | ends {w' : ChildWalk} (ended : w'.IsOver) : Call w none w'
  | breaks {w' : ChildWalk} (broken : w.Breaks) (ended : w'.IsOver) :
      Call w (some (.error crashError)) w'

/-! ## One call -/

/-- A walk that is over yields nothing and stays where it is. -/
theorem next_of_isOver (ended : w.IsOver) : w.next.value = (none, w) := by
  obtain ⟨source, remaining, ordinal, cursor⟩ := w
  rcases ended with rfl | rfl
  · cases source <;> rfl
  · cases remaining <;> rfl

/-- What is answered to a call is what the call says. -/
theorem call_of_next {item? : Option ChildItem} {w' : ChildWalk}
    (h : w.next.value = (item?, w')) : w.Call item? w' := by
  obtain ⟨_ | source, _ | n, ordinal, cursor⟩ := w
  case some.succ =>
    rw [value_next] at h
    split at h <;> cases h
    case h_1 made => exact .yields rfl made ⟨rfl, rfl, rfl⟩
    case h_2 => exact .ends (.inl rfl)
    case h_3 stop crashed =>
      exact .breaks ⟨Nat.succ_ne_zero n, source, stop, rfl, crashed⟩ (.inl rfl)
  case some.zero =>
    cases h
    exact .finished (.inl rfl)
  case none.zero | none.succ =>
    cases h
    exact .finished (.inr rfl)

/-- Behind a call that yields nothing the walk is over. -/
theorem isOver_of_next_eq_none (nothing : w.next.value.1 = none) : w.next.value.2.IsOver := by
  rcases hnext : w.next.value with ⟨item?, w'⟩
  rw [hnext] at nothing
  cases nothing
  cases call_of_next hnext with
  | finished ended => exact ended
  | ends ended => exact ended

/-- Where the source crashes, the error for that is yielded and the walk is over. -/
theorem next_of_breaks (broken : w.Breaks) :
    w.next.value.1 = some (.error crashError) ∧ w.next.value.2.IsOver := by
  obtain ⟨left, source, stop, asked, crashed⟩ := broken
  obtain ⟨source', _ | n, ordinal, cursor⟩ := w
  case zero => exact absurd rfl left
  case succ =>
    cases asked
    rw [value_next, crashed]
    exact ⟨rfl, .inl rfl⟩

/-- Where the source does not crash, what is yielded is its own answer. -/
theorem made_of_next (yields : w.next.value.1 = some item) (sound : ¬ w.Breaks) :
    ∃ source cursor, w.source = some source ∧
      (source w.ordinal w.cursor).outcome = .ok (some (item, cursor)) := by
  rcases hnext : w.next.value with ⟨item?, w'⟩
  rw [hnext] at yields
  cases yields
  cases call_of_next hnext with
  | yields asked made ahead => exact ⟨_, _, asked, made⟩
  | breaks broken ended => exact absurd broken sound

/-! ## One call after the other -/

/-- The walk after two numbers of calls is that after one, and then after the other. -/
theorem after_add (m n : Nat) (w : ChildWalk) : w.after (m + n) = (w.after m).after n := by
  induction m generalizing w with
  | zero => rw [Nat.zero_add, after]
  | succ m ih => rw [Nat.succ_add, after, ih, after]

/-- An answer after some calls is that of the walk that they lead to. -/
theorem answer_add (m n : Nat) (w : ChildWalk) : w.answer (m + n) = (w.after m).answer n := by
  rw [answer, answer, after_add]

/-- A walk that is over stays as it is. -/
theorem after_of_isOver (ended : w.IsOver) (n : Nat) : w.after n = w := by
  induction n with
  | zero => rfl
  | succ n ih => rw [after, next_of_isOver ended, ih]

/-- A walk that is over answers nothing any more. -/
theorem answer_of_isOver (ended : w.IsOver) (n : Nat) : w.answer n = none := by
  rw [answer, after_of_isOver ended, next_of_isOver ended]

/-- Once a walk is over it yields nothing. -/
theorem answer_of_isOver_after (ended : (w.after m).IsOver) (le : m ≤ n) : w.answer n = none := by
  obtain ⟨k, rfl⟩ := Nat.exists_eq_add_of_le le
  rw [answer_add, answer_of_isOver ended]

/-- One more call leads one more child ahead. -/
theorem IsAhead.step {w' w'' : ChildWalk} (ahead : IsAhead n w w') (one : IsAhead 1 w' w'') :
    IsAhead (n + 1) w w'' where
  source := one.source.trans ahead.source
  ordinal := by rw [one.ordinal, ahead.ordinal, Nat.add_assoc]
  remaining := by rw [← ahead.remaining, ← one.remaining]; omega

/-- As long as it is not over, a walk has its source still, and each call took one from what was
left. -/
theorem after_cases (n : Nat) (w : ChildWalk) : (w.after n).IsOver ∨ IsAhead n w (w.after n) := by
  induction n with
  | zero => exact .inr ⟨rfl, rfl, rfl⟩
  | succ n ih =>
    have last : w.after (n + 1) = (w.after n).next.value.2 := after_add n 1 w
    rcases hnext : (w.after n).next.value with ⟨item?, w'⟩
    rw [last, hnext]
    cases call_of_next hnext with
    | finished ended => exact .inl ended
    | yields asked made one =>
      refine ih.imp (fun ended => ?_) fun ahead => ahead.step one
      -- a walk that is over yields nothing
      rw [next_of_isOver ended] at hnext
      cases hnext
    | ends ended => exact .inl ended
    | breaks broken ended => exact .inl ended

/-- After the first call that yields nothing, none yields anything. -/
theorem answer_of_le (nothing : w.answer m = none) (le : m ≤ n) : w.answer n = none := by
  obtain rfl | later := Nat.eq_or_lt_of_le le
  · exact nothing
  · refine answer_of_isOver_after (m := m + 1) ?_ later
    rw [after_add]
    exact isOver_of_next_eq_none nothing

/-- A crash of the source is the last thing that a walk yields. -/
theorem answer_of_breaks (broken : (w.after m).Breaks) :
    w.answer m = some (.error crashError) ∧
      ∀ n, m < n → w.answer n = none ∧ ¬ (w.after n).Breaks := by
  obtain ⟨yields, ended⟩ := next_of_breaks broken
  have stays : (w.after (m + 1)).IsOver := by
    rw [after_add]
    exact ended
  refine ⟨yields, fun n later => ⟨answer_of_isOver_after stays later, fun again => ?_⟩⟩
  have nothing := answer_of_isOver_after stays later
  rw [answer, (next_of_breaks again).1] at nothing
  cases nothing

/-- A walk yields to no more calls than there are items left. -/
theorem lt_remaining_of_answer (yields : w.answer n = some item) : n < w.remaining := by
  rcases after_cases n w with ended | ahead
  · rw [answer_of_isOver_after ended (Nat.le_refl n)] at yields
    cases yields
  · have left : (w.after n).remaining ≠ 0 := fun zero => by
      rw [answer, next_of_isOver (.inl zero)] at yields
      cases yields
    have total := ahead.remaining
    omega

/-- Where the source does not crash, the walk yields the answer of the source to the same call. -/
theorem made_of_answer (yields : w.answer n = some item) (sound : ¬ (w.after n).Breaks) :
    ∃ source cursor cursor', w.source = some source ∧
      (source (w.ordinal + n) cursor).outcome = .ok (some (item, cursor')) := by
  rcases after_cases n w with ended | ahead
  · rw [answer_of_isOver_after ended (Nat.le_refl n)] at yields
    cases yields
  · obtain ⟨source, cursor', asked, made⟩ := made_of_next yields sound
    rw [ahead.ordinal] at made
    exact ⟨source, _, cursor', ahead.source ▸ asked, made⟩

/-! ## Items -/

/-- The items of a walk are what it yields to one call after the other. -/
theorem getElem?_take (limit : Nat) (w : ChildWalk) (n : Nat) :
    (take limit w).value[n]? = if n < limit then w.answer n else none := by
  induction limit generalizing w n with
  | zero => rfl
  | succ limit ih =>
    rw [value_take_succ]
    rcases hnext : w.next.value with ⟨_ | item, w'⟩
    · have first : w.answer 0 = none := congrArg Prod.fst hnext
      rw [answer_of_le first (Nat.zero_le n), ite_self]
      rfl
    · cases n with
      | zero => exact (congrArg Prod.fst hnext).symm
      | succ n =>
        have rest : w.answer (n + 1) = w'.answer n := by
          rw [answer, after, hnext]
          rfl
        simp only [List.getElem?_cons_succ, ih, rest, Nat.add_lt_add_iff_right]

/-- The item behind some others is what the walk yields to the call behind as many. -/
theorem value_nth (n : Nat) (w : ChildWalk) : (nth n w).value = w.answer n := by
  induction n generalizing w with
  | zero => rfl
  | succ n ih =>
    rw [nth, Traced.value_bind]
    rcases hnext : w.next.value with ⟨_ | item, w'⟩
    · have first : w.answer 0 = none := congrArg Prod.fst hnext
      exact (answer_of_le first (Nat.zero_le _)).symm
    · rw [answer, after, hnext]
      exact ih w'

/-- No more children are taken than are wanted or left. -/
theorem length_take_le (limit : Nat) (w : ChildWalk) :
    (take limit w).value.length ≤ min limit w.remaining := by
  refine Nat.le_of_not_lt fun more => ?_
  have item := getElem?_take limit w (min limit w.remaining)
  rw [List.getElem?_eq_getElem more] at item
  split at item
  case isTrue below =>
    have left := lt_remaining_of_answer item.symm
    omega
  case isFalse => cases item

end ChildWalk

namespace ChildSequence

/-- What is to be relied on in the children of a value, whatever their source does. -/
structure WellBehaved (s : ChildSequence) : Prop where
  /-- Neither starting a walk nor asking it for an item crashes. -/
  completes : Probe.Completes (ExceptT.lift s.walk) ∧
    ∀ n, Probe.Completes (ExceptT.lift (s.walk.value.after n).next)
  /-- A walk yields no more items than were announced. -/
  bounded : ∀ limit, (s.items limit).value.length ≤ min limit s.count
  /-- Its items are what it yields to one call after the other. -/
  items : ∀ limit n, (s.items limit).value[n]? = if n < limit then s.walk.value.answer n else none
  /-- An item is the source's own answer to the same call, unless the source crashed. -/
  made : ∀ n item, s.walk.value.answer n = some item → ¬ (s.walk.value.after n).Breaks →
    ∃ source cursor cursor', s.begin.outcome = .ok source ∧
      (source n cursor).outcome = .ok (some (item, cursor'))
  /-- A crash of the source is yielded as an error, once, and nothing comes behind it. -/
  crash_last : ∀ m, (s.walk.value.after m).Breaks →
    s.walk.value.answer m = some (.error ChildWalk.crashError) ∧
      ∀ n, m < n → s.walk.value.answer n = none ∧ ¬ (s.walk.value.after n).Breaks
  /-- Once nothing was yielded, nothing will be. -/
  fused : ∀ m n, m ≤ n → s.walk.value.answer m = none → s.walk.value.answer n = none
  /-- Before each call it is known how many items can still come. -/
  sizeHint : ∀ n, ∃ bound, (s.walk.value.after n).sizeHint = (0, some bound) ∧
    ∀ limit, (ChildWalk.take limit (s.walk.value.after n)).value.length ≤ bound
  /-- The item at an index is the one that a walk through all comes to. -/
  get : ∀ n limit, s.count ≤ limit → (s.get n).value = (s.items limit).value[n]?

/-- The children of a sequence are those of its walk. -/
theorem value_items (s : ChildSequence) (limit : Nat) :
    (s.items limit).value = (ChildWalk.take limit s.walk.value).value := rfl

/-- Every sequence behaves well, whatever its source does. -/
theorem wellBehaved (s : ChildSequence) : s.WellBehaved where
  completes := ⟨.of_ok (Probe.outcome_lift _), fun _ => .of_ok (Probe.outcome_lift _)⟩
  bounded limit := by
    rw [value_items, ← s.remaining_walk]
    exact ChildWalk.length_take_le limit _
  items limit n := ChildWalk.getElem?_take limit _ n
  made n item yields sound := by
    obtain ⟨source, cursor, cursor', asked, made⟩ := ChildWalk.made_of_answer yields sound
    have first : s.walk.value.ordinal = 0 := by rw [value_walk]
    rw [first, Nat.zero_add] at made
    exact ⟨source, cursor, cursor', outcome_begin asked, made⟩
  crash_last m broken := ChildWalk.answer_of_breaks broken
  fused m n le nothing := ChildWalk.answer_of_le nothing le
  sizeHint n := by
    refine ⟨_, rfl, fun limit => ?_⟩
    exact Nat.le_trans (ChildWalk.length_take_le limit _) (Nat.min_le_right _ _)
  get n limit all := by
    have found : (s.get n).value = s.walk.value.answer n := ChildWalk.value_nth n _
    rw [found, value_items, ChildWalk.getElem?_take]
    split
    case isTrue => rfl
    case isFalse beyond =>
      cases answer : s.walk.value.answer n with
      | none => rfl
      | some item =>
        have within := ChildWalk.lt_remaining_of_answer answer
        rw [s.remaining_walk] at within
        omega

end ChildSequence

namespace Session

variable {s : Session}

/-- No more children are inspected than are asked for and than a walk has left. -/
theorem ensures_inspectNext (s : Session) (limit : Nat) (w : ChildWalk) :
    (s.inspectNext limit w).Ensures fun found => found.length ≤ min limit w.remaining := by
  induction limit generalizing w with
  | zero => simp [inspectNext]
  | succ limit ih =>
    rw [inspectNext, Probe.ensures_bind]
    rintro ⟨item?, w'⟩ answered
    have hnext : w.next.value = (item?, w') := Except.ok.inj answered
    cases ChildWalk.call_of_next hnext with
    | @yields _ item _ _ asked made ahead =>
      cases item with
      | error e => simp
      | ok child =>
        simp only [Probe.ensures_bind, Probe.ensures_pure, List.length_cons]
        intro i inspected rest later
        have le := ih w' rest later
        have left := ahead.remaining
        omega
    | finished | ends | breaks => simp

/-- No more children are inspected than are asked for and than there are. -/
theorem ensures_inspectChildren (s : Session) (v : Value) (limit : Nat) :
    (s.inspectChildren v limit).Ensures fun found => found.2.length ≤ min limit found.1 := by
  rw [inspectChildren]
  simp only [Probe.ensures_bind, Probe.ensures_pure]
  intro d resolved children found w walked inspected ok
  have start : children.walk.value = w := Except.ok.inj walked
  have le := s.ensures_inspectNext limit w inspected ok
  rwa [← start, children.remaining_walk] at le

/-- Whatever the source of some children does, they are well behaved, and so no more children of a
value are inspected than are asked for and than there are. -/
theorem children_wellBehaved :
    (∀ children : ChildSequence, children.WellBehaved) ∧
      ∀ (s : Session) (v : Value) (limit : Nat),
        (s.inspectChildren v limit).Ensures fun found => found.2.length ≤ min limit found.1 :=
  ⟨ChildSequence.wellBehaved, ensures_inspectChildren⟩

end Session

end HeapScope
