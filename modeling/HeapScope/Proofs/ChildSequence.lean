import HeapScope.ChildSequence
import HeapScope.Proofs.Probe

/-!
# What a walk through children yields

A walk yields what the source of the children answers, one item after the other, and at most one
error of its own, where the source crashed. So a child that is yielded was made by the source; for
known children it is one of them, and for children made from their index it was made from one below
their number; where each of these can be made, all of them are yielded in order.
-/

namespace HeapScope

namespace ChildWalk

/-- The next item of a walk that has not come to its end, from the answer of its source. -/
theorem value_next (source : ChildSource) (n ordinal cursor : Nat) :
    (next ⟨some source, n + 1, ordinal, cursor⟩).value =
      match (source ordinal cursor).outcome with
      | .ok (some (item, cursor')) => (some item, ⟨some source, n, ordinal + 1, cursor'⟩)
      | .ok none => (none, ⟨some source, 0, ordinal, cursor⟩)
      | .error _ => (some (.error crashError), ⟨none, 0, ordinal, cursor⟩) := by
  rw [next, Traced.value_bind]
  cases answer : (source ordinal cursor).outcome with
  | error stop =>
    have value : (source ordinal cursor).run.value = .error stop := answer
    rw [value]
    rfl
  | ok found =>
    have value : (source ordinal cursor).run.value = .ok found := answer
    rw [value]
    cases found <;> rfl

/-- The next item of a walk is an answer of its source, which the walk keeps, or the error for a
source that crashed. -/
theorem next_cases {w w' : ChildWalk} {item : ChildItem} (h : w.next.value = (some item, w')) :
    (item = .error crashError ∧ w'.source = none) ∨
      ∃ source cursor, w.source = some source ∧ w'.source = some source ∧
        (source w.ordinal w.cursor).outcome = .ok (some (item, cursor)) := by
  obtain ⟨_ | source, _ | n, ordinal, cursor⟩ := w
  case some.succ =>
    rw [value_next] at h
    split at h
    case h_1 found cursor' answer =>
      cases h
      exact .inr ⟨source, cursor', rfl, rfl, answer⟩
    case h_2 => cases h
    case h_3 =>
      cases h
      exact .inl ⟨rfl, rfl⟩
  all_goals cases h

/-- The items of a walk are its next one and those of the walk behind it. -/
theorem value_take_succ (limit : Nat) (w : ChildWalk) :
    (take (limit + 1) w).value =
      match w.next.value with
      | (none, _) => []
      | (some item, w') => item :: (take limit w').value := by
  rw [take, Traced.value_bind]
  rcases w.next.value with ⟨_ | item, w'⟩ <;> rfl

/-- A walk yields nothing where nothing is asked for or nothing is left. -/
theorem value_take_of_min_eq_zero {limit : Nat} {w : ChildWalk}
    (h : min limit w.remaining = 0) : (take limit w).value = [] := by
  obtain ⟨source, remaining, ordinal, cursor⟩ := w
  cases limit with
  | zero => rfl
  | succ limit =>
    cases remaining with
    | zero => rfl
    | succ remaining => simp at h

/-- What a walk yields is an error or an answer of its source. -/
theorem cases_of_mem_take {limit : Nat} {w : ChildWalk} {item : ChildItem}
    (h : item ∈ (take limit w).value) :
    item = .error crashError ∨ ∃ source ordinal cursor cursor', w.source = some source ∧
      (source ordinal cursor).outcome = .ok (some (item, cursor')) := by
  induction limit generalizing w with
  | zero => cases h
  | succ limit ih =>
    rw [value_take_succ] at h
    rcases hnext : w.next.value with ⟨first?, w'⟩
    rw [hnext] at h
    cases first? with
    | none => cases h
    | some first =>
      rcases List.mem_cons.1 h with rfl | later
      · obtain ⟨crashed, -⟩ | ⟨source, cursor, hsource, -, answer⟩ := next_cases hnext
        · exact .inl crashed
        · exact .inr ⟨source, _, _, cursor, hsource, answer⟩
      · -- the walk behind the first item has the same source, or none
        obtain crashed | ⟨source, ordinal, cursor, cursor', hsource, answer⟩ := ih later
        · exact .inl crashed
        · obtain ⟨-, lost⟩ | ⟨source', -, hsource', kept, -⟩ := next_cases hnext
          · rw [lost] at hsource
            cases hsource
          · rw [kept] at hsource
            cases hsource
            exact .inr ⟨source, ordinal, cursor, cursor', hsource', answer⟩

/-- The source of children made from their index answers with the item for the one that is next. -/
theorem outcome_indexSource {count ordinal : Nat} {child : Nat → Probe Child} {item : ChildItem}
    (below : ordinal < count) (made : (child ordinal).attempt.outcome = .ok item) (cursor : Nat) :
    (ChildSequence.indexSource count child ordinal cursor).outcome = .ok (some (item, cursor)) := by
  rw [ChildSequence.indexSource, if_pos below]
  exact Probe.outcome_bind_of_ok made _

/-- A walk through children made from their index yields them one after the other, as many as are
asked for and as are left. -/
theorem value_take_indexSource {count : Nat} {child : Nat → Probe Child} {make : Nat → Child}
    (made : ∀ i < count, (child i).outcome = .ok (make i)) {limit remaining n cursor : Nat}
    (within : n + remaining ≤ count) :
    (take limit ⟨some (ChildSequence.indexSource count child), remaining, n, cursor⟩).value =
      (List.range' n (min limit remaining)).map fun i => .ok (make i) := by
  induction limit generalizing remaining n with
  | zero => rw [Nat.zero_min]; rfl
  | succ limit ih =>
    rw [value_take_succ]
    cases remaining with
    | zero => rw [Nat.min_zero]; rfl
    | succ remaining =>
      have item := Probe.outcome_attempt_of_ok (made n (by omega))
      rw [value_next, outcome_indexSource (by omega) item, Nat.succ_min_succ, List.range'_succ,
        List.map_cons]
      exact congrArg _ (ih (by omega))

/-- A walk through children made from their index comes to the child behind some others, if none of
those lets its source crash. -/
theorem value_nth_indexSource {count : Nat} {child : Nat → Probe Child} {found : Child}
    {index remaining n cursor : Nat} (left : index < remaining) (within : n + remaining ≤ count)
    (before : ∀ i, n ≤ i → i < n + index → (child i).Completes)
    (here : (child (n + index)).outcome = .ok found) :
    (nth index ⟨some (ChildSequence.indexSource count child), remaining, n, cursor⟩).value =
      some (.ok found) := by
  induction index generalizing remaining n with
  | zero =>
    obtain ⟨rest, rfl⟩ := Nat.exists_eq_add_one_of_ne_zero (Nat.ne_zero_of_lt left)
    have item : (child n).attempt.outcome = .ok (.ok found) := Probe.outcome_attempt_of_ok here
    rw [nth, Traced.value_bind, value_next, outcome_indexSource (by omega) item]
    rfl
  | succ index ih =>
    obtain ⟨rest, rfl⟩ := Nat.exists_eq_add_one_of_ne_zero (Nat.ne_zero_of_lt left)
    obtain ⟨item, hitem⟩ : ∃ item, (child n).attempt.outcome = .ok item := by
      obtain ⟨a, ok⟩ | ⟨e, failed⟩ := (before n (Nat.le_refl n) (by omega)).cases
      · exact ⟨_, Probe.outcome_attempt_of_ok ok⟩
      · exact ⟨_, Probe.outcome_attempt_of_failed failed⟩
    rw [nth, Traced.value_bind, value_next, outcome_indexSource (by omega) hitem]
    refine ih (by omega) (by omega) (fun i hi hlt => before i (by omega) (by omega)) ?_
    rw [Nat.add_right_comm]
    exact here

end ChildWalk

namespace ChildSequence

variable {s : ChildSequence} {child : Child}

/-- A walk starts at the first place, with the source of the sequence unless setting up crashed. -/
theorem value_walk (s : ChildSequence) :
    s.walk.value = ⟨s.begin.outcome.toOption, s.count, 0, 0⟩ := by
  rw [walk, Traced.value_bind]
  cases started : s.begin.outcome with
  | ok source =>
    have value : s.begin.run.value = .ok source := started
    rw [value]
    rfl
  | error stop =>
    have value : s.begin.run.value = .error stop := started
    rw [value]
    rfl

/-- A walk is given as many items as the sequence counts. -/
theorem remaining_walk (s : ChildSequence) : s.walk.value.remaining = s.count := by
  rw [value_walk]

/-- Where a walk has a source, it is the one of the sequence. -/
theorem outcome_begin {source : ChildSource} (h : s.walk.value.source = some source) :
    s.begin.outcome = .ok source := by
  rw [value_walk] at h
  cases started : s.begin.outcome with
  | ok source' =>
    rw [started] at h
    cases h
    rfl
  | error stop =>
    rw [started] at h
    cases h

/-- A child is among the items of a walk. -/
def Yields (s : ChildSequence) (child : Child) : Prop :=
  ∃ limit, .ok child ∈ (s.items limit).value

/-- A child that is yielded was made by the source of the sequence. -/
theorem exists_of_yields (h : s.Yields child) :
    ∃ source ordinal cursor cursor', s.begin.outcome = .ok source ∧
      (source ordinal cursor).outcome = .ok (some (.ok child, cursor')) := by
  obtain ⟨limit, mem⟩ := h
  rw [items, Traced.value_bind] at mem
  obtain crashed | ⟨source, ordinal, cursor, cursor', started, answer⟩ :=
    ChildWalk.cases_of_mem_take mem
  · cases crashed
  · exact ⟨source, ordinal, cursor, cursor', outcome_begin started, answer⟩

/-- Known children are yielded as they are. -/
theorem mem_of_yields_ofList {children : List Child} (h : (ofList children).Yields child) :
    child ∈ children := by
  obtain ⟨source, ordinal, cursor, cursor', started, answer⟩ := exists_of_yields h
  cases started
  rw [listSource] at answer
  split at answer
  case h_1 found hfound =>
    cases answer
    exact List.mem_of_getElem? hfound
  case h_2 => cases answer

/-- A child made from its index is yielded as it was made. -/
theorem exists_of_yields_indexed {count : Nat} {make : Nat → Probe Child}
    (h : (indexed count make).Yields child) :
    ∃ index < count, (make index).outcome = .ok child := by
  obtain ⟨source, ordinal, cursor, cursor', started, answer⟩ := exists_of_yields h
  cases started
  rw [indexSource] at answer
  split at answer
  case isTrue below =>
    obtain ⟨item, made, same⟩ := Probe.exists_of_bind_ok answer
    cases same
    exact ⟨ordinal, below, Probe.outcome_of_attempt made⟩
  case isFalse => cases answer

/-- Children made from their index are yielded in order, if each of them can be made. -/
theorem value_items_indexed {count : Nat} {child : Nat → Probe Child} {make : Nat → Child}
    (made : ∀ i < count, (child i).outcome = .ok (make i)) (limit : Nat) :
    ((indexed count child).items limit).value =
      (List.range (min limit count)).map fun i => .ok (make i) := by
  rw [items, Traced.value_bind, value_walk, List.range_eq_range']
  exact ChildWalk.value_take_indexSource made (Nat.le_of_eq (Nat.zero_add _))

/-- The child at an index is found, if none of those before it lets the walk crash. -/
theorem value_get_indexed {count index : Nat} {child : Nat → Probe Child} {found : Child}
    (below : index < count) (before : ∀ i < index, (child i).Completes)
    (here : (child index).outcome = .ok found) :
    ((indexed count child).get index).value = some (.ok found) := by
  rw [get, Traced.value_bind, value_walk]
  refine ChildWalk.value_nth_indexSource below (Nat.le_of_eq (Nat.zero_add _))
    (fun i _ hlt => before i (by omega)) ?_
  rw [Nat.zero_add]
  exact here

end ChildSequence

end HeapScope
