import HeapScope.Formatter.Registry
import HeapScope.Proofs.Pattern.AheadGroup
import HeapScope.Proofs.Pattern.Matching

/-!
# Whole names

A pattern for names is put into a group between the start and the end of a text, and what is read is
the pasted text. Reading it goes through the same steps as reading the pattern alone, with the group
around all others (`Reading.readAll_inGroup`), until that group is closed. The parenthesis that
closes it should be the pasted one. It is, unless the pattern itself closes a group that it does not
open (`Reading.closesOutside`): such a pattern is no expression, but pasted into the group it may
make one, and then its parts stand beside the start and the end of the text.

So a pattern that is accepted is an expression and holds for exactly those types whose whole name it
spans if and only if it does not close such a group (`TypePattern.ofNames_whole_iff`).
-/

namespace HeapScope

namespace Pattern

variable {d : Dialect} {g : OpenGroup} {s u : List Char}

namespace Reading

/-! ## The group around all others -/

/-- A state inside of one more group, which is around all that are open. -/
def inGroup (st : Reading) (g : OpenGroup) : Reading := { st with outer := st.outer ++ [g] }

/-- One more group around all others has no say in the flags. -/
@[simp] theorem flags_inGroup (st : Reading) (g : OpenGroup) :
    (st.inGroup g).flags = st.flags :=
  rfl

/-- In the group around all others, some group is open. -/
theorem outer_inGroup_ne_nil (st : Reading) (g : OpenGroup) : (st.inGroup g).outer ≠ [] :=
  List.append_ne_nil_of_right_ne_nil st.outer (List.cons_ne_nil g [])

/-- The reader is in one more group, before and after. -/
def within (g : OpenGroup) (x : Reading × List Char) : Reading × List Char := (x.1.inGroup g, x.2)

/-- Names of groups do not depend on the groups that are open. -/
theorem enterNamed_inGroup (st : Reading) (s : List Char) :
    (st.inGroup g).enterNamed s = (st.enterNamed s).map (within g) := by
  unfold enterNamed
  cases readName s with
  | none => rfl
  | some x =>
    rw [Option.bind_some, Option.bind_some, apply_ite (Option.map (within g))]
    rfl

/-- Setting flags does not depend on the groups that are open. -/
theorem setFlags_inGroup (st : Reading) (f : Flags) (opens : Bool) :
    (st.inGroup g).setFlags f opens = (st.setFlags f opens).inGroup g := by
  cases opens <;> rfl

/-- What a question mark opens does not depend on the groups that are open. -/
theorem openMarked_inGroup (st : Reading) (s : List Char) :
    (st.inGroup g).openMarked s = (st.openMarked s).map (within g) := by
  cases s with
  | nil => rfl
  | cons c r =>
    rw [openMarked, openMarked]
    split
    · split
      · rfl
      · exact enterNamed_inGroup st r
    · split
      · exact enterNamed_inGroup st r.tail
      · rw [Option.map_map, flags_inGroup]
        simp only [setFlags_inGroup]
        rfl

/-- Opening a group does not depend on those that are open. -/
theorem openGroup_inGroup (st : Reading) (s : List Char) :
    (st.inGroup g).openGroup s = (st.openGroup s).map (within g) := by
  rw [openGroup, openGroup, flags_inGroup]
  cases skip st.flags.verbose s with
  | nil => rfl
  | cons c r =>
    dsimp only
    split
    · exact openMarked_inGroup st r
    · rfl

/-- Closing a group does not depend on one around it. -/
theorem closeGroup_inGroup {st : Reading} (inside : st.outer ≠ []) :
    (st.inGroup g).closeGroup = st.closeGroup.map (·.inGroup g) := by
  obtain ⟨current, flags, outer, names⟩ := st
  cases outer with
  | nil => exact absurd rfl inside
  | cons o os => rfl

/-- A step that does not close the group around all others does not depend on it. -/
theorem step_inGroup {st : Reading} {c : Char} (inside : c = ')' → st.outer ≠ []) (r : List Char) :
    (st.inGroup g).step d c r = (st.step d c r).map (within g) := by
  rw [step, step]
  split
  · exact openGroup_inGroup st r
  · split
    case isTrue close =>
      rw [closeGroup_inGroup (inside close), Option.map_map, Option.map_map]
      rfl
    case isFalse =>
      rw [Option.map_map]
      rfl

/-! ## Reading to the end -/

/-- Where only blanks are left, the reader is done. -/
theorem readAll_of_skip_nil (n : Nat) (st : Reading) (h : skip st.flags.verbose s = []) :
    readAll d (n + 1) st s = some st := by
  rw [readAll, h]

/-- At the end of the text the reader is done. -/
theorem readAll_nil (n : Nat) (st : Reading) : readAll d (n + 1) st [] = some st :=
  readAll_of_skip_nil n st (List.suffix_nil.1 (skip_suffix _ []))

/-- Where a character is left, the reader takes a step. -/
theorem readAll_of_skip_cons (n : Nat) (st : Reading) {c : Char} {r : List Char}
    (h : skip st.flags.verbose s = c :: r) :
    readAll d (n + 1) st s = (st.step d c r).bind fun x => readAll d n x.1 x.2 := by
  rw [readAll, h]

/-- A brace is no blank and opens no comment. -/
theorem skip_openBrace (verbose : Bool) (r : List Char) :
    skip verbose (Text.Quoted.openBrace :: r) = Text.Quoted.openBrace :: r := by
  cases verbose <;> rfl

/-- A reading in the group takes a step in it and goes on from there. -/
theorem exists_step_of_readAll_inGroup {n : Nat} {st last : Reading} {c : Char} {r : List Char}
    (text : skip st.flags.verbose s = c :: r) (inside : c = ')' → st.outer ≠ [])
    (h : readAll d (n + 1) (st.inGroup g) s = some last) :
    ∃ next rest, st.step d c r = some (next, rest) ∧
      readAll d n (next.inGroup g) rest = some last := by
  rw [readAll_of_skip_cons n (st.inGroup g) text, step_inGroup inside] at h
  obtain ⟨x, stepped, further⟩ := Option.bind_eq_some_iff.1 h
  obtain ⟨⟨next, rest⟩, taken, rfl⟩ := Option.map_eq_some_iff.1 stepped
  exact ⟨next, rest, taken, further⟩

/-- The end of a text is looked for, or of a line, and no group is opened or closed. -/
theorem eq_of_readAll_dollar {n : Nat} {st last : Reading} (h : skip st.flags.verbose s = ['$'])
    (read : readAll d n st s = some last) :
    last = { st with current := st.current.pushRegex (.look
      (if st.flags.multiLine then .lineEnd st.flags.lineRule else .textEnd)) } := by
  obtain _ | n := n
  · cases read
  rw [readAll_of_skip_cons n st h] at read
  obtain ⟨⟨next, left⟩, stepped, further⟩ := Option.bind_eq_some_iff.1 read
  cases stepped
  obtain _ | n := n
  · cases further
  · dsimp only at further
    rw [readAll_nil] at further
    exact (Option.some.inj further).symm

/-- If nothing but the end of the text is looked for, the group stays open. -/
theorem outer_ne_nil_of_skip_suffix {n : Nat} {st last : Reading}
    (behind : skip st.flags.verbose s <:+ ['$']) (h : readAll d n (st.inGroup g) s = some last) :
    last.outer ≠ [] := by
  rcases List.suffix_cons_iff.1 behind with only | nothing
  · have dollar : skip (st.inGroup g).flags.verbose s = ['$'] := only
    rw [eq_of_readAll_dollar dollar h]
    exact outer_inGroup_ne_nil st g
  · obtain _ | n := n
    · cases h
    rw [readAll_of_skip_nil n (st.inGroup g) (List.suffix_nil.1 nothing)] at h
    cases h
    exact outer_inGroup_ne_nil st g

/-- If the parenthesis was taken, the group stays open. -/
theorem outer_ne_nil_of_suffix {n : Nat} {st last : Reading} (past : s <:+ ['$'])
    (h : readAll d n (st.inGroup g) s = some last) : last.outer ≠ [] :=
  outer_ne_nil_of_skip_suffix ((skip_suffix _ s).trans past) h

/-- A brace ahead of the parenthesis that should close the group takes the parenthesis. -/
theorem outer_ne_nil_of_openBrace {n : Nat} {last : Reading} (st : Reading)
    (blank : skip st.flags.verbose s = [])
    (h : readAll d n (st.inGroup g) (Text.Quoted.openBrace :: (s ++ [')', '$'])) = some last) :
    last.outer ≠ [] := by
  obtain _ | n := n
  · cases h
  obtain ⟨next, rest, stepped, further⟩ := exists_step_of_readAll_inGroup
    (skip_openBrace _ _) (fun close => absurd close (by decide)) h
  exact outer_ne_nil_of_suffix (leavesEnd_step_openBrace d st blank next rest stepped) further

/-! ## The parenthesis that closes it -/

/-- Whether a text, read on from a state, closes a group that it has not opened. -/
def closesOutside (d : Dialect) : Nat → Reading → List Char → Bool
  | 0, _, _ => false
  | n + 1, st, s =>
    match skip st.flags.verbose s with
    | [] => false
    | c :: r =>
      if c = ')' ∧ st.outer.isEmpty then true
      else (st.step d c r).any fun (st, rest) => closesOutside d n st rest

/-- A closing parenthesis closes a group outside if none is open. -/
theorem closesOutside_of_close {st : Reading} {r : List Char}
    (h : skip st.flags.verbose s = ')' :: r) (outside : st.outer = []) (n : Nat) :
    closesOutside d (n + 1) st s = true := by
  rw [closesOutside, h]
  dsimp only
  rw [outside]
  rfl

/-- Any other character closes none, and what follows is looked at. -/
theorem closesOutside_of_step {st next : Reading} {c : Char} {r left : List Char}
    (h : skip st.flags.verbose s = c :: r) (inside : c = ')' → st.outer ≠ [])
    (stepped : st.step d c r = some (next, left)) (n : Nat) :
    closesOutside d (n + 1) st s = closesOutside d n next left := by
  have stays : ¬(c = ')' ∧ st.outer.isEmpty) := fun close =>
    inside close.1 (List.isEmpty_iff.1 close.2)
  rw [closesOutside, h]
  dsimp only
  rw [if_neg stays, stepped]
  rfl

/-- What closes a group that it has not opened is no expression. -/
theorem readAll_eq_none_of_closesOutside {n : Nat} {st : Reading}
    (h : closesOutside d n st s = true) : readAll d n st s = none := by
  induction n generalizing st s with
  | zero => rfl
  | succ n ih =>
    rw [closesOutside] at h
    rw [readAll]
    cases text : skip st.flags.verbose s with
    | nil =>
      rw [text] at h
      cases h
    | cons c r =>
      rw [text] at h
      dsimp only at h ⊢
      split at h
      case isTrue close =>
        rw [close.1, step, if_neg (by decide), if_pos rfl, closeGroup, List.isEmpty_iff.1 close.2]
        rfl
      case isFalse =>
        obtain ⟨⟨next, left⟩, stepped, further⟩ := (Option.any_eq_true _ _).1 h
        rw [stepped]
        exact ih further

/-- A text in a group is read as it is alone, up to the parenthesis behind it, unless it closes the
group itself. -/
theorem readAll_inGroup {m n : Nat} {st last : Reading} (hm : s.length < m)
    (h : readAll d n (st.inGroup g) (s ++ [')', '$']) = some last) (closed : last.outer = []) :
    closesOutside d m st s = true ∨
      ∃ alone k after, readAll d m st s = some alone ∧ alone.outer = [] ∧
        (alone.inGroup g).closeGroup = some after ∧ readAll d k after ['$'] = some last := by
  induction n generalizing m st s with
  | zero => cases h
  | succ n ih =>
    obtain ⟨m, rfl⟩ := Nat.exists_eq_succ_of_ne_zero (n := m) (by omega)
    rcases skip_append st.flags.verbose s ['$'] with same | ⟨-, past⟩
    case inr => exact absurd closed (outer_ne_nil_of_skip_suffix past h)
    cases text : skip st.flags.verbose s with
    | nil =>
      -- the parenthesis behind the text is met, and it must be the group around all others
      rw [text, List.nil_append] at same
      rw [readAll_of_skip_cons n (st.inGroup g) same] at h
      obtain ⟨⟨after, rest⟩, stepped, further⟩ := Option.bind_eq_some_iff.1 h
      rw [step, if_neg (by decide), if_pos rfl] at stepped
      obtain ⟨after, close, same_pair⟩ := Option.map_eq_some_iff.1 stepped
      cases same_pair
      by_cases outside : st.outer = []
      · exact .inr ⟨st, n, after, readAll_of_skip_nil m st text, outside, close, further⟩
      · rw [closeGroup_inGroup outside] at close
        obtain ⟨next, -, rfl⟩ := Option.map_eq_some_iff.1 close
        exact absurd closed (outer_ne_nil_of_suffix List.suffix_rfl further)
    | cons c r =>
      by_cases outside : c = ')' ∧ st.outer = []
      · rw [outside.1] at text
        exact .inl (closesOutside_of_close text outside.2 m)
      have inside : c = ')' → st.outer ≠ [] := fun close none_open => outside ⟨close, none_open⟩
      rw [text, List.cons_append] at same
      obtain ⟨next, rest, stepped, further⟩ := exists_step_of_readAll_inGroup same inside h
      rcases st.ahead_step (u := ['$']) d c r with ahead | ⟨b, left, stuck, blank⟩
      · rcases ahead next rest stepped with ⟨left, rfl, alone⟩ | past
        · have shorter := (leavesEnd_step d st c r next left alone).length_le
          have length_le := (skip_suffix st.flags.verbose s).length_le
          rw [text, List.length_cons] at length_le
          rw [closesOutside_of_step text inside alone, readAll_of_skip_cons m st text, alone]
          exact ih (by omega) further
        · exact absurd closed (outer_ne_nil_of_suffix past further)
      · obtain ⟨rfl, rfl⟩ := Prod.mk.inj (Option.some.inj (stepped.symm.trans stuck))
        exact absurd closed (outer_ne_nil_of_openBrace { st with current := b } blank further)

end Reading

/-! ## The pasted text -/

/-- Whether a text, read as an expression, closes a group that it has not opened. -/
def Regex.closesOutside (d : Dialect) (s : List Char) : Bool :=
  Reading.closesOutside d (s.length + 1) {} s

/-- An expression between the start and the end of a text. -/
def Regex.betweenEnds (r : Regex) : Regex := .cat (.look .textStart) (.cat r (.look .textEnd))

namespace Regex

/-- What closes a group that it has not opened is no expression. -/
theorem parse_eq_none_of_closesOutside (h : closesOutside d s = true) : parse d s = none := by
  rw [parse, Reading.readAll_eq_none_of_closesOutside h]
  rfl

/-- A text is an expression if it is read to its end and all groups are closed there. -/
theorem parse_eq_some_iff {p : Piece} :
    parse d s = some p ↔
      ∃ st, Reading.readAll d (s.length + 1) {} s = some st ∧ st.outer = [] ∧
        st.current.choice = p := by
  unfold parse
  cases Reading.readAll d (s.length + 1) {} s with
  | none => simp
  | some st => simp

/-- What is read and is not too large is an expression. -/
theorem exists_parse_of_ofText {r : Regex} (h : ofText d s = some r) :
    ∃ p, parse d s = some p ∧ p.regex = r := by
  obtain ⟨p, read, sized⟩ := Option.bind_eq_some_iff.1 h
  exact ⟨p, read, Option.some.inj (Option.ite_none_right_eq_some.1 sized).2⟩

/-- The group that a pasted text opens, with the start of a text in front of it. -/
def atStart : OpenGroup := ⟨({} : Branches).pushRegex (.look .textStart), {}⟩

/-- A group with the start of a text in front of it and the end of a text behind it is an expression
between these two. -/
theorem choice_pasted (p : Piece) :
    ((atStart.branches.push ⟨p.regex, p.levels + 1, true⟩).pushRegex (.look .textEnd)).choice =
      ⟨p.regex.betweenEnds, p.levels + 2, true⟩ := by
  have levels : max 0 (max (p.levels + 1) (max 0 0)) + 1 = p.levels + 2 := by omega
  exact congrArg (fun n => Piece.mk p.regex.betweenEnds n true) levels

/-- What is read of a pasted text is what is read of the text, between the start and the end. -/
theorem parse_pasted {p : Piece}
    (h : parse d (['^', '(', '?', ':'] ++ (s ++ [')', '$'])) = some p) :
    closesOutside d s = true ∨ ∃ inner, parse d s = some inner ∧
      p = ⟨inner.regex.betweenEnds, inner.levels + 2, true⟩ := by
  obtain ⟨last, read, closed, rfl⟩ := parse_eq_some_iff.1 h
  have opened : Reading.readAll d (s.length + 5) (({} : Reading).inGroup atStart)
      (s ++ [')', '$']) = some last := by
    have fuel : (['^', '(', '?', ':'] ++ (s ++ [')', '$'])).length + 1 = s.length + 5 + 1 + 1 := by
      simp only [List.length_append, List.length_cons, List.length_nil]
      omega
    rw [fuel] at read
    exact read
  rcases Reading.readAll_inGroup (Nat.lt_succ_self s.length) opened closed with
    outside | ⟨alone, k, after, inner, none_open, close, ends⟩
  · exact .inl outside
  · rw [Reading.closeGroup, Reading.inGroup, none_open] at close
    cases close
    refine .inr ⟨alone.current.choice, parse_eq_some_iff.2 ⟨alone, inner, none_open, rfl⟩, ?_⟩
    exact (congrArg (·.current.choice) (Reading.eq_of_readAll_dollar rfl ends)).trans
      (choice_pasted _)

/-- Only the start of a text has nothing in front of it. -/
theorem eq_start_of_reaches {p : Place} (reached : (Place.start s).Reaches p)
    (starts : Look.textStart.holds p = true) : p = Place.start s := by
  obtain ⟨part, rest, before⟩ := reached
  rw [Look.holds, before, Option.isNone_iff_eq_none, Option.or_eq_none_iff,
    List.getLast?_eq_none_iff] at starts
  obtain ⟨rfl, -⟩ := starts
  exact Place.mk.injEq _ _ _ _ ▸ ⟨before, rest.symm⟩

/-- An expression between the start and the end of a text is found in the texts that it spans as a
whole. -/
theorem occursIn_betweenEnds_iff {r : Regex} :
    r.betweenEnds.occursIn s = true ↔ s ∈ r.language := by
  rw [occursIn_iff, mem_language_iff]
  constructor
  · rintro ⟨p, q, reached, m, ⟨starts, rfl⟩, n, spans, stops, rfl⟩
    have start : p = Place.start s := eq_start_of_reaches reached starts
    have nothing : n.rest = [] := List.head?_eq_none_iff.1 (Option.isNone_iff_eq_none.1 stops)
    exact ⟨n, nothing, start ▸ spans⟩
  · rintro ⟨stop, nothing, spans⟩
    have stops : Look.textEnd.holds stop = true := by
      rw [Look.holds, Place.after, nothing]
      rfl
    exact ⟨Place.start s, stop, Place.Reaches.refl _, Place.start s, ⟨rfl, rfl⟩, stop, spans,
      stops, rfl⟩

end Regex

end Pattern

open Pattern (Dialect Regex NamePattern)

namespace TypePattern

/-- The pasted text is the pattern with its group and both ends around it. -/
theorem anchored_toList (pattern : String) :
    (NamePattern.anchored pattern).toList =
      ['^', '(', '?', ':'] ++ (pattern.toList ++ [')', '$']) := by
  rw [NamePattern.anchored, String.toList_append, String.toList_append, List.append_assoc]
  rfl

/-- In every dialect, a pattern that is accepted is an expression and holds for exactly the types
whose whole name it spans if and only if it does not close a group that it has not opened. -/
theorem ofNames_whole_iff {d : Dialect} {pattern : String} {t : TypePattern}
    (accepted : ofNames d pattern = .ok t) :
    (∃ p, Regex.parse d pattern.toList = some p ∧
        ∀ type : TypeDescriptor, t.holds type = true ↔ type.name.toList ∈ p.regex.language) ↔
      Regex.closesOutside d pattern.toList = false := by
  constructor
  · rintro ⟨p, read, -⟩
    refine Bool.eq_false_iff.2 fun outside => ?_
    rw [Regex.parse_eq_none_of_closesOutside outside] at read
    cases read
  · intro inside
    rw [ofNames] at accepted
    cases named : NamePattern.ofText d pattern with
    | none =>
      rw [named] at accepted
      cases accepted
    | some p =>
      rw [named] at accepted
      cases accepted
      obtain ⟨whole, read, rfl⟩ := Option.map_eq_some_iff.1 named
      obtain ⟨q, pasted, rfl⟩ := Regex.exists_parse_of_ofText read
      rw [anchored_toList] at pasted
      rcases Regex.parse_pasted pasted with outside | ⟨inner, alone, rfl⟩
      · rw [inside] at outside
        cases outside
      · exact ⟨inner, alone, fun type => Regex.occursIn_betweenEnds_iff⟩

/-- A choice between two names is accepted as it is. -/
theorem ofNames_whole_iff_branches :
    let t := TypePattern.names
      ⟨"a|b", .betweenEnds (.alt (.char (.single 'a')) (.char (.single 'b')))⟩
    ofNames .standard "a|b" = .ok t ∧
      ((∃ p, Regex.parse .standard "a|b".toList = some p ∧
          ∀ type : TypeDescriptor, t.holds type = true ↔ type.name.toList ∈ p.regex.language) ↔
        Regex.closesOutside .standard "a|b".toList = false) :=
  ⟨by decide +kernel, ofNames_whole_iff (by decide +kernel)⟩

/-- A pattern that closes the group around it and opens another one is accepted. It is no
expression, and it holds for names of which it spans a beginning or an end only. -/
theorem ofNames_closing_group :
    ∃ t, ofNames .standard "a)|(b" = .ok t ∧ Regex.parse .standard "a)|(b".toList = none ∧
      t.holds (.object "ax" true) = true ∧ t.holds (.object "xb" true) = true := by
  refine ⟨.names ⟨"a)|(b", .alt (.cat (.look .textStart) (.char (.single 'a')))
    (.cat (.char (.single 'b')) (.look .textEnd))⟩, ?_, ?_, ?_, ?_⟩
  all_goals decide +kernel

end TypePattern

end HeapScope
