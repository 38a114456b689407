import HeapScope.Pattern.Reader
import HeapScope.Proofs.Pattern.AheadSet

/-!
# Groups ahead of a parenthesis

Groups, repetitions and all other constructs in front of a closing parenthesis, and with them a step
of the reader (`Reading.ahead_step`). A step may be stuck, as the side of a word may be: then a
brace is left in front of the parenthesis. But no bounds of a repetition open with it that end there
(`Reading.leavesEnd_step_openBrace`).
-/

namespace HeapScope.Pattern

variable {s u : List Char}

/-! ## Flags and names of groups -/

/-- Flags take at least the colon or the parenthesis that ends them. -/
theorem leavesEnd_readFlags (f : Flags) (on : Bool) (seen s : List Char) :
    LeavesEnd s.tail (readFlags f on seen s) := by
  induction s generalizing f on seen with
  | nil => exact leavesEnd_none
  | cons c r ih =>
    rw [readFlags, List.tail_cons]
    have further := fun f on seen => (ih f on seen).mono (List.tail_suffix r)
    split
    · split
      · exact leavesEnd_none
      · exact leavesEnd_some List.suffix_rfl
    · split
      · split
        · exact leavesEnd_none
        · exact leavesEnd_some List.suffix_rfl
      · split
        · exact leavesEnd_none
        · split
          · exact further f false _
          · exact leavesEnd_bind_value fun f => further f on _

/-- Flags end at a parenthesis, so they are read alone or take the one behind them. -/
theorem ahead_readFlags (f : Flags) (on : Bool) (seen s : List Char) :
    Ahead u (readFlags f on seen (s ++ ')' :: u)) (readFlags f on seen s) := by
  induction s generalizing f on seen with
  | nil => exact (leavesEnd_readFlags f on seen (')' :: u)).ahead
  | cons c r ih =>
    rw [List.cons_append, readFlags, readFlags]
    split
    · split
      · exact ahead_none
      · exact ahead_some _ r
    · split
      · split
        · exact ahead_none
        · exact ahead_some _ r
      · split
        · exact ahead_none
        · split
          · exact ih f false _
          · exact ahead_bind_value fun f => ih f on _

/-- A name is what stands ahead of the closing angle, or there is none. -/
theorem readName_cases (s : List Char) :
    readName s = none ∨
      ∃ c rest, (s.span (· ≠ '>')).2 = c :: rest ∧
        readName s = some ((s.span (· ≠ '>')).1, rest) := by
  unfold readName
  generalize s.span (· ≠ '>') = parts
  split
  · split
    · exact .inr ⟨_, _, rfl, rfl⟩
    · exact .inl rfl
  · exact .inl rfl

/-- A name leaves an end of the text. -/
theorem leavesEnd_readName (s : List Char) : LeavesEnd s (readName s) := by
  rcases readName_cases s with none | ⟨c, rest, left, name⟩
  · rw [none]
    exact leavesEnd_none
  · rw [name]
    rw [List.span_eq_takeWhile_dropWhile] at left
    have ends : c :: rest <:+ s := left ▸ List.dropWhile_suffix _
    exact leavesEnd_some ((List.suffix_cons c rest).trans ends)

/-- No name holds a parenthesis, so a name is read as it is alone. -/
theorem ahead_readName (s : List Char) : Ahead u (readName (s ++ ')' :: u)) (readName s) := by
  rcases span_append (p := (· ≠ '>')) rfl s u with ⟨name, c, b, alone, joined⟩ | ⟨-, past⟩
  · unfold readName
    rw [alone, joined]
    cases name with
    | nil => exact ahead_none
    | cons d name =>
      dsimp only
      split
      · exact ahead_some _ b
      · exact ahead_none
  · rcases readName_cases (s ++ ')' :: u) with none | ⟨c, rest, left, name⟩
    · rw [none]
      exact ahead_none
    · rw [name]
      rw [left] at past
      exact (leavesEnd_some ((List.suffix_cons c rest).trans past)).ahead

namespace Reading

/-- A group with a name leaves what its name leaves. -/
theorem leavesEnd_enterNamed (st : Reading) (s : List Char) : LeavesEnd s (st.enterNamed s) := by
  refine (leavesEnd_readName s).bind fun name rest => ?_
  dsimp only
  split
  · exact leavesEnd_none
  · exact leavesEnd_some List.suffix_rfl

/-- A group with a name is opened as its name is read. -/
theorem ahead_enterNamed (st : Reading) (s : List Char) :
    Ahead u (st.enterNamed (s ++ ')' :: u)) (st.enterNamed s) := by
  refine (ahead_readName s).bind (fun name left => ?_) fun name rest => ?_
  · dsimp only
    split
    · exact ahead_none
    · exact ahead_some _ left
  · dsimp only
    split
    · exact leavesEnd_none
    · exact leavesEnd_some List.suffix_rfl

/-- A name or flags take at least a character. -/
theorem leavesEnd_openMarked (st : Reading) (s : List Char) :
    LeavesEnd s.tail (st.openMarked s) := by
  cases s with
  | nil => exact leavesEnd_none
  | cons c r =>
    rw [openMarked, List.tail_cons]
    split
    · split
      · exact leavesEnd_none
      · exact leavesEnd_enterNamed st r
    · split
      · exact (leavesEnd_enterNamed st r.tail).mono (List.tail_suffix r)
      · exact (leavesEnd_readFlags st.flags true [] (c :: r)).map fun set => st.setFlags set.1 set.2

/-- A character other than the parenthesis stands in front of it or not at all. -/
theorem head?_append_eq_some_iff {c : Char} (other : c ≠ ')') :
    (s ++ ')' :: u).head? = some c ↔ s.head? = some c := by
  cases s with
  | nil =>
    have no_head : some ')' ≠ some c := fun same => other (Option.some.inj same).symm
    exact iff_of_false no_head (Option.some_ne_none c).symm
  | cons d r => rfl

/-- What a question mark opens is read as it is alone, or takes the parenthesis. -/
theorem ahead_openMarked (st : Reading) (s : List Char) :
    Ahead u (st.openMarked (s ++ ')' :: u)) (st.openMarked s) := by
  cases s with
  | nil => exact (leavesEnd_openMarked st (')' :: u)).ahead
  | cons c r =>
    rw [List.cons_append, openMarked, openMarked]
    simp only [head?_append_eq_some_iff (s := r) (u := u) (by decide : '=' ≠ ')'),
      head?_append_eq_some_iff (s := r) (u := u) (by decide : '!' ≠ ')'),
      head?_append_eq_some_iff (s := r) (u := u) (by decide : '<' ≠ ')')]
    split
    · split
      · exact ahead_none
      · exact ahead_enterNamed st r
    · split
      case isTrue named =>
        cases r with
        | nil => exact absurd named.2 (Option.some_ne_none '<').symm
        | cons d r => exact ahead_enterNamed st r
      case isFalse =>
        exact (ahead_readFlags st.flags true [] (c :: r)).map fun set => st.setFlags set.1 set.2

/-- A group is opened behind the blanks that follow its parenthesis. -/
theorem leavesEnd_openGroup (st : Reading) (s : List Char) :
    LeavesEnd (skip st.flags.verbose s) (st.openGroup s) := by
  rw [openGroup]
  cases skip st.flags.verbose s with
  | nil => exact leavesEnd_some List.suffix_rfl
  | cons c r =>
    dsimp only
    split
    · exact (leavesEnd_openMarked st r).of_tail.mono (List.suffix_cons c r)
    · exact leavesEnd_some List.suffix_rfl

/-- A group is opened as it is alone; if nothing stands in it, the parenthesis behind it is left. -/
theorem ahead_openGroup (st : Reading) (s : List Char) :
    Ahead u (st.openGroup (s ++ ')' :: u)) (st.openGroup s) := by
  rcases skip_append st.flags.verbose s u with same | ⟨-, past⟩
  · rw [openGroup, openGroup, same]
    cases skip st.flags.verbose s with
    | nil =>
      rw [List.nil_append]
      dsimp only
      rw [if_neg (by decide)]
      exact ahead_some (st.enter st.flags) []
    | cons c r =>
      rw [List.cons_append]
      dsimp only
      split
      · exact ahead_openMarked st r
      · exact ahead_some _ (c :: r)
  · exact ((leavesEnd_openGroup st _).mono past).ahead

end Reading

/-! ## Repetitions -/

/-- The mark of a lazy repetition is the first character of the text or is not there. -/
theorem dropLazy_append (s u : List Char) : dropLazy (s ++ ')' :: u) = dropLazy s ++ ')' :: u := by
  cases s with
  | nil => rfl
  | cons c r =>
    rw [List.cons_append, dropLazy, dropLazy]
    split <;> rfl

/-- The mark of a lazy repetition leaves an end of the text. -/
theorem dropLazy_suffix (s : List Char) : dropLazy s <:+ s := by
  cases s with
  | nil => exact List.suffix_rfl
  | cons c r =>
    rw [dropLazy]
    split
    · exact List.suffix_cons c r
    · exact List.suffix_rfl

/-- The greatest number of rounds leaves what is behind the closing brace. -/
theorem leavesEnd_greatest (least most : Nat) (s : List Char) :
    LeavesEnd s ((dropBrace s).bind fun rest =>
      if least ≤ most then some (some most, rest) else none) := by
  cases braced : dropBrace s with
  | none => exact leavesEnd_none
  | some rest =>
    rw [Option.bind_some]
    split
    · exact leavesEnd_some (dropBrace_suffix braced)
    · exact leavesEnd_none

/-- What stands behind a comma leaves an end of the text. -/
theorem leavesEnd_readGreatest (verbose : Bool) (least : Nat) (s : List Char) :
    LeavesEnd s (readGreatest verbose least s) := by
  unfold readGreatest
  cases braced : dropBrace s with
  | some rest => exact leavesEnd_some (dropBrace_suffix braced)
  | none => exact (leavesEnd_readCount verbose s).bind fun most rest =>
      leavesEnd_greatest least most rest

/-- What stands behind a comma goes on to a closing brace. -/
theorem ahead_readGreatest (verbose : Bool) (least : Nat) (s : List Char) :
    Ahead u (readGreatest verbose least (s ++ ')' :: u)) (readGreatest verbose least s) := by
  unfold readGreatest
  rw [dropBrace_append]
  cases dropBrace s with
  | some rest => exact ahead_some none rest
  | none =>
    refine (ahead_readCount verbose s).bind (fun most left => ?_) fun most rest =>
      leavesEnd_greatest least most rest
    dsimp only
    rw [dropBrace_append]
    cases dropBrace left with
    | none => exact ahead_none
    | some rest =>
      rw [Option.map_some, Option.bind_some, Option.bind_some]
      split
      · exact ahead_some _ rest
      · exact ahead_none

/-- What stands behind the least number of rounds leaves an end of the text. -/
theorem leavesEnd_readMost (verbose : Bool) (least : Nat) (s : List Char) :
    LeavesEnd s (readMost verbose least s) := by
  cases s with
  | nil => exact leavesEnd_none
  | cons c r =>
    rw [readMost]
    split
    · exact (leavesEnd_readGreatest verbose least _).mono
        ((skip_suffix verbose r).trans (List.suffix_cons c r))
    · cases braced : dropBrace (c :: r) with
      | none => exact leavesEnd_none
      | some rest => exact leavesEnd_some (dropBrace_suffix braced)

/-- What stands behind the least number of rounds is a comma or a closing brace, but no parenthesis.
-/
theorem ahead_readMost (verbose : Bool) (least : Nat) (s : List Char) :
    Ahead u (readMost verbose least (s ++ ')' :: u)) (readMost verbose least s) := by
  cases s with
  | nil =>
    have refused : readMost verbose least (')' :: u) = none := rfl
    rw [List.nil_append, refused]
    exact ahead_none
  | cons c r =>
    rw [List.cons_append, readMost, readMost]
    split
    · rcases skip_append verbose r u with same | ⟨-, past⟩
      · rw [same]
        exact ahead_readGreatest verbose least _
      · exact ((leavesEnd_readGreatest verbose least _).mono past).ahead
    · rw [← List.cons_append, dropBrace_append, Option.map_map]
      exact ahead_map_value fun rest => ahead_some (some least) rest

/-- Bounds are read behind the blanks that follow their brace. -/
theorem leavesEnd_readBounds (verbose : Bool) (s : List Char) :
    LeavesEnd (skip verbose s) (readBounds verbose s) :=
  (leavesEnd_readCount verbose _).bind fun least rest =>
    (leavesEnd_readMost verbose least rest).map fun most => (least, most)

/-- Bounds go on to a closing brace, with no parenthesis on the way. -/
theorem ahead_readBounds (verbose : Bool) (s : List Char) :
    Ahead u (readBounds verbose (s ++ ')' :: u)) (readBounds verbose s) := by
  rcases skip_append verbose s u with same | ⟨-, past⟩
  · unfold readBounds
    rw [same]
    refine (ahead_readCount verbose _).bind (fun least left => ?_) fun least rest => ?_
    · exact (ahead_readMost verbose least left).map fun most => (least, most)
    · exact (leavesEnd_readMost verbose least rest).map fun most => (least, most)
  · exact ((leavesEnd_readBounds verbose _).mono past).ahead

/-- Bounds need a number, and none stands between a brace and the parenthesis. -/
theorem leavesEnd_readBounds_of_blank {verbose : Bool} (blank : skip verbose s = []) :
    LeavesEnd u (readBounds verbose (s ++ ')' :: u)) := by
  intro bounds rest h
  rcases ahead_readBounds verbose s bounds rest h with ⟨left, -, alone⟩ | past
  · rw [readBounds, blank] at alone
    cases alone
  · exact past

/-- Behind its bounds a repetition ends. -/
theorem leavesEnd_afterBounds (b : Branches) (verbose : Bool) (rounds : Nat × Option Nat)
    (s : List Char) :
    LeavesEnd s ((b.repeatLast rounds.1 rounds.2).map fun b => (b, dropLazy (skip verbose s))) :=
  leavesEnd_map_value fun _ => leavesEnd_some ((dropLazy_suffix _).trans (skip_suffix verbose s))

/-! ## Constructs -/

namespace Branches

/-- The character of a construct says how it is read on: as a set, as a repetition without or with
bounds, as an escape, or not at all. -/
theorem construct_cases (d : Dialect) (f : Flags) (b : Branches) (c : Char) :
    (∀ r, b.construct d f c r =
        (readSet d f r).map fun x => (b.push ⟨.char x.1.set, x.1.levels, true⟩, x.2)) ∨
      (∃ o : Option Branches, ∀ r, b.construct d f c r = o.map fun b => (b, dropLazy r)) ∨
      (∀ r, b.construct d f c r =
        (readBounds f.verbose r).bind fun x =>
          (b.repeatLast x.1.1 x.1.2).map fun b => (b, dropLazy (skip f.verbose x.2))) ∨
      (∀ r, b.construct d f c r =
        (readEscape d f r).map fun x => (b.pushRegex (ofAtom f x.1), x.2)) ∨
      ∃ o : Option Branches, ∀ r, b.construct d f c r = o.map fun b => (b, r) := by
  by_cases bar : c = '|'
  · exact .inr (.inr (.inr (.inr ⟨some b.next, fun r => by rw [construct, if_pos bar]; rfl⟩)))
  by_cases set : c = '['
  · exact .inl fun r => by rw [construct, if_neg bar, if_pos set]
  by_cases option : c = '?'
  · refine .inr (.inl ⟨b.repeatLast 0 (some 1), fun r => ?_⟩)
    rw [construct, if_neg bar, if_neg set, if_pos option]
  by_cases star : c = '*'
  · refine .inr (.inl ⟨b.repeatLast 0 none, fun r => ?_⟩)
    rw [construct, if_neg bar, if_neg set, if_neg option, if_pos star]
  by_cases plus : c = '+'
  · refine .inr (.inl ⟨b.repeatLast 1 none, fun r => ?_⟩)
    rw [construct, if_neg bar, if_neg set, if_neg option, if_neg star, if_pos plus]
  right; right
  simp only [construct, if_neg bar, if_neg set, if_neg option, if_neg star, if_neg plus]
  by_cases brace : c = Text.Quoted.openBrace
  · exact .inl fun r => if_pos brace
  by_cases escape : c = '\\'
  · exact .inr (.inl fun r => by rw [if_neg brace, if_pos escape])
  right; right
  simp only [if_neg brace, if_neg escape]
  by_cases any : c = '.'
  · refine ⟨(dot f).map fun s => b.pushRegex (.char s), fun r => ?_⟩
    rw [if_pos any, Option.map_map]
    rfl
  by_cases start : c = '^'
  · exact ⟨some _, fun r => by rw [if_neg any, if_pos start]; rfl⟩
  by_cases stop : c = '$'
  · exact ⟨some _, fun r => by rw [if_neg any, if_neg start, if_pos stop]; rfl⟩
  · exact ⟨some _, fun r => by rw [if_neg any, if_neg start, if_neg stop]; rfl⟩

/-- Every construct leaves an end of the text. -/
theorem leavesEnd_construct (d : Dialect) (f : Flags) (b : Branches) (c : Char) (r : List Char) :
    LeavesEnd r (b.construct d f c r) := by
  rcases construct_cases d f b c with set | ⟨o, again⟩ | bounds | escape | ⟨o, alone⟩
  · rw [set]
    exact (leavesEnd_readSet d f r).map fun set => b.push ⟨.char set.set, set.levels, true⟩
  · rw [again]
    exact leavesEnd_map_value fun b => leavesEnd_some (dropLazy_suffix r)
  · rw [bounds]
    exact ((leavesEnd_readBounds f.verbose r).mono (skip_suffix _ r)).bind fun rounds rest =>
      leavesEnd_afterBounds b f.verbose rounds rest
  · rw [escape]
    exact (leavesEnd_readEscape d f r).of_tail.map fun a => b.pushRegex (ofAtom f a)
  · rw [alone]
    exact leavesEnd_map_value fun b => leavesEnd_some List.suffix_rfl

/-- Every construct is read as it is alone, or takes the parenthesis, unless it is stuck. -/
theorem ahead_construct (d : Dialect) (f : Flags) (b : Branches) (c : Char) (r : List Char) :
    Ahead u (b.construct d f c (r ++ ')' :: u)) (b.construct d f c r) ∨
      Stuck f.verbose u (b.construct d f c (r ++ ')' :: u)) := by
  rcases construct_cases d f b c with set | ⟨o, again⟩ | bounds | escape | ⟨o, alone⟩
  · rw [set, set]
    exact .inl ((ahead_readSet d f r).map fun set => b.push ⟨.char set.set, set.levels, true⟩)
  · rw [again, again, dropLazy_append]
    exact .inl (ahead_map_value fun b => ahead_some b _)
  · rw [bounds, bounds]
    refine .inl ((ahead_readBounds f.verbose r).bind (fun rounds left => ?_) fun rounds rest =>
      leavesEnd_afterBounds b f.verbose rounds rest)
    refine ahead_map_value fun b => ?_
    rcases skip_append f.verbose left u with same | ⟨-, past⟩
    · dsimp only
      rw [same, dropLazy_append]
      exact ahead_some b _
    · exact (leavesEnd_some ((dropLazy_suffix _).trans past)).ahead
  · rw [escape, escape]
    rcases ahead_readEscape (u := u) d f r with ahead | ⟨⟨a, left, stuck, blank⟩, -⟩
    · exact .inl (ahead.map fun a => b.pushRegex (ofAtom f a))
    · exact .inr ⟨_, left, by rw [stuck]; rfl, blank⟩
  · rw [alone, alone]
    exact .inl (ahead_map_value fun b => ahead_some b r)

/-- A brace ahead of the parenthesis makes no repetition in front of it. -/
theorem leavesEnd_construct_openBrace {f : Flags} (d : Dialect) (b : Branches)
    (blank : skip f.verbose s = []) :
    LeavesEnd u (b.construct d f Text.Quoted.openBrace (s ++ ')' :: u)) := by
  rw [construct, if_neg (by decide), if_neg (by decide), if_neg (by decide), if_neg (by decide),
    if_neg (by decide), if_pos rfl]
  exact (leavesEnd_readBounds_of_blank blank).bind fun rounds rest =>
    leavesEnd_afterBounds b f.verbose rounds rest

end Branches

/-! ## Steps -/

namespace Reading

/-- Every step of the reader leaves an end of the text. -/
theorem leavesEnd_step (d : Dialect) (st : Reading) (c : Char) (r : List Char) :
    LeavesEnd r (st.step d c r) := by
  rw [step]
  split
  · exact (leavesEnd_openGroup st r).mono (skip_suffix st.flags.verbose r)
  · split
    · exact leavesEnd_map_value fun st => leavesEnd_some List.suffix_rfl
    · exact (st.current.leavesEnd_construct d st.flags c r).map fun b => { st with current := b }

/-- A step at a brace ahead of the parenthesis takes the parenthesis. -/
theorem leavesEnd_step_openBrace (d : Dialect) (st : Reading)
    (blank : skip st.flags.verbose s = []) :
    LeavesEnd u (st.step d Text.Quoted.openBrace (s ++ ')' :: u)) := by
  rw [step, if_neg (by decide), if_neg (by decide)]
  exact (Branches.leavesEnd_construct_openBrace d st.current blank).map
    fun b => { st with current := b }

/-- A step that is stuck leaves the flags as they are. -/
theorem ahead_step (d : Dialect) (st : Reading) (c : Char) (r : List Char) :
    Ahead u (st.step d c (r ++ ')' :: u)) (st.step d c r) ∨
      ∃ b left, st.step d c (r ++ ')' :: u) =
          some ({ st with current := b }, Text.Quoted.openBrace :: (left ++ ')' :: u)) ∧
        skip st.flags.verbose left = [] := by
  rw [step, step]
  split
  · exact .inl (ahead_openGroup st r)
  · split
    · exact .inl (ahead_map_value fun st => ahead_some st r)
    · rcases st.current.ahead_construct (u := u) d st.flags c r with ahead | ⟨b, left, stuck, blank⟩
      · exact .inl (ahead.map fun b => { st with current := b })
      · exact .inr ⟨b, left, by rw [stuck]; rfl, blank⟩

end Reading

end HeapScope.Pattern
