import HeapScope.Pattern.Bracket
import HeapScope.Proofs.Pattern.Ahead

/-!
# Sets ahead of a parenthesis

A set between brackets that stands in front of a closing parenthesis is read as it is by itself,
unless the parenthesis is taken into it. The parts of a set do look over their end: a hyphen is
followed by one more character, and behind a character there must be another one, if only a closing
bracket. So a range may be found in front of the parenthesis that is none at the end of a text
(`upTo_readRange`), and only the set as a whole is `Ahead` again, as it goes on until its bracket.
-/

namespace HeapScope.Pattern

variable {α : Type} {s u : List Char}

/-- As `Ahead`, but the reader may also go right up to the parenthesis. -/
def UpTo (u : List Char) (x y : Option (α × List Char)) : Prop :=
  ∀ a rest, x = some (a, rest) →
    (∃ left, rest = left ++ ')' :: u ∧ y = some (a, left)) ∨ rest <:+ ')' :: u

/-- A reader that is undisturbed is so up to the parenthesis. -/
theorem Ahead.upTo {x y : Option (α × List Char)} (h : Ahead u x y) : UpTo u x y :=
  fun a rest hx => (h a rest hx).imp_right fun past => past.trans (List.suffix_cons ')' u)

/-- From the parenthesis on, nothing is compared any more. -/
theorem LeavesEnd.upTo {x y : Option (α × List Char)} (h : LeavesEnd (')' :: u) x) : UpTo u x y :=
  fun a rest hx => .inr (h a rest hx)

/-! ## Behind an opening bracket -/

/-- A caret is the first character of the text or is not there. -/
theorem takeCaret_append (s u : List Char) :
    takeCaret (s ++ ')' :: u) = ((takeCaret s).1, (takeCaret s).2 ++ ')' :: u) := by
  cases s with
  | nil => rfl
  | cons c r =>
    rw [List.cons_append, takeCaret, takeCaret]
    split <;> rfl

/-- A caret leaves an end of the text. -/
theorem takeCaret_suffix (s : List Char) : (takeCaret s).2 <:+ s := by
  cases s with
  | nil => exact List.suffix_rfl
  | cons c r =>
    rw [takeCaret]
    split
    · exact List.suffix_cons c r
    · exact List.suffix_rfl

/-- A closing bracket that stands for itself leaves an end of the text. -/
theorem takeFirstClose_suffix (verbose : Bool) (b : OpenBracket) (s : List Char) :
    (takeFirstClose verbose b s).2 <:+ s := by
  unfold takeFirstClose
  cases b.items with
  | cons i is => exact List.suffix_rfl
  | nil =>
    cases s with
    | nil => exact List.suffix_rfl
    | cons c r =>
      dsimp only
      split
      · exact (skip_suffix verbose r).trans (List.suffix_cons c r)
      · exact List.suffix_rfl

/-- A closing bracket stands for itself in front of the parenthesis as anywhere. -/
theorem ahead_takeFirstClose (verbose : Bool) (b : OpenBracket) (s : List Char) :
    Ahead u (some (takeFirstClose verbose b (s ++ ')' :: u)))
      (some (takeFirstClose verbose b s)) := by
  unfold takeFirstClose
  cases b.items with
  | cons i is => exact ahead_some b s
  | nil =>
    cases s with
    | nil =>
      rw [List.nil_append]
      dsimp only
      rw [if_neg (by decide)]
      exact ahead_some b []
    | cons c r =>
      rw [List.cons_append]
      dsimp only
      split
      · exact ahead_skip _ verbose r
      · exact ahead_some b (c :: r)

/-- A caret with blanks around it. -/
theorem leavesEnd_caret (verbose : Bool) (s : List Char) :
    LeavesEnd s (some ((takeCaret (skip verbose s)).1,
      skip verbose (takeCaret (skip verbose s)).2)) :=
  leavesEnd_some
    (((skip_suffix verbose _).trans (takeCaret_suffix _)).trans (skip_suffix verbose s))

/-- The parenthesis is no caret and ends the blanks around one. -/
theorem ahead_caret (verbose : Bool) (s : List Char) :
    Ahead u
      (some ((takeCaret (skip verbose (s ++ ')' :: u))).1,
        skip verbose (takeCaret (skip verbose (s ++ ')' :: u))).2))
      (some ((takeCaret (skip verbose s)).1, skip verbose (takeCaret (skip verbose s)).2)) := by
  rcases skip_append verbose s u with same | ⟨-, past⟩
  · rw [same, takeCaret_append]
    exact ahead_skip _ verbose _
  · exact (leavesEnd_some (((skip_suffix verbose _).trans (takeCaret_suffix _)).trans past)).ahead

/-- Behind a bracket stand a caret, hyphens and a closing bracket, as far as they are there. -/
theorem openBracket_eq (verbose : Bool) (s : List Char) :
    some (openBracket verbose s) =
      (some ((takeCaret (skip verbose s)).1, skip verbose (takeCaret (skip verbose s)).2)).bind
        fun mark => (some (takeRun (· == '-') verbose mark.2.length mark.2)).bind fun run =>
          some (takeFirstClose verbose
            ⟨mark.1, none, run.1.map fun c => ⟨.single c, 0⟩⟩ run.2) :=
  rfl

/-- Hyphens and a closing bracket leave an end of the text. -/
theorem leavesEnd_hyphens (verbose negated : Bool) (s : List Char) :
    LeavesEnd s ((some (takeRun (· == '-') verbose s.length s)).bind fun run =>
      some (takeFirstClose verbose ⟨negated, none, run.1.map fun c => ⟨.single c, 0⟩⟩ run.2)) :=
  (leavesEnd_some (takeRun_suffix _ verbose _ s)).bind fun _ rest =>
    leavesEnd_some (takeFirstClose_suffix verbose _ rest)

/-- What stands behind an opening bracket leaves an end of the text. -/
theorem leavesEnd_openBracket (verbose : Bool) (s : List Char) :
    LeavesEnd s (some (openBracket verbose s)) := by
  rw [openBracket_eq]
  exact (leavesEnd_caret verbose s).bind (leavesEnd_hyphens verbose)

/-- Nothing of what stands behind an opening bracket is a parenthesis. -/
theorem ahead_openBracket (verbose : Bool) (s : List Char) :
    Ahead u (some (openBracket verbose (s ++ ')' :: u))) (some (openBracket verbose s)) := by
  rw [openBracket_eq, openBracket_eq]
  refine (ahead_caret verbose s).bind (fun negated left => ?_) (leavesEnd_hyphens verbose)
  have fuel : left.length < (left ++ ')' :: u).length := by simp
  have run : Ahead u _ (some (takeRun (· == '-') verbose left.length left)) :=
    ahead_takeRun (· == '-') (by decide) verbose (Nat.le_refl _) fuel
  refine run.bind (fun hyphens left => ahead_takeFirstClose verbose _ left) fun hyphens rest => ?_
  exact leavesEnd_some (takeFirstClose_suffix verbose _ rest)

/-! ## Items -/

/-- An item takes at least a character. -/
theorem leavesEnd_readItem (d : Dialect) (f : Flags) (s : List Char) :
    LeavesEnd s.tail (readItem d f s) := by
  cases s with
  | nil => exact leavesEnd_none
  | cons c r =>
    rw [readItem]
    split
    · exact (leavesEnd_readEscape d f r).of_tail
    · exact leavesEnd_some List.suffix_rfl

/-- An item is read as it is alone, unless it is the side of a word, which is none. -/
theorem ahead_readItem (d : Dialect) (f : Flags) (s : List Char) :
    Ahead u (readItem d f (s ++ ')' :: u)) (readItem d f s) ∨
      ∀ x ∈ readItem d f (s ++ ')' :: u), ∃ l, x.1 = .look l := by
  cases s with
  | nil => exact .inl (leavesEnd_readItem d f (')' :: u)).ahead
  | cons c r =>
    rw [List.cons_append, readItem, readItem]
    split
    · exact (ahead_readEscape d f r).imp_right And.right
    · exact .inl (ahead_some _ r)

/-! ## Ranges -/

/-- What ends a range is not blank. -/
theorem dropWhile_of_endsRange (h : endsRange s.head? = true) : s.dropWhile Text.isBlank = s := by
  cases s with
  | nil => rfl
  | cons c r =>
    refine List.dropWhile_cons_of_neg ?_
    rcases Bool.or_eq_true_iff.1 h with bracket | hyphen
    · cases Option.some.inj (eq_of_beq bracket)
      decide
    · cases Option.some.inj (eq_of_beq hyphen)
      decide

/-- What a hyphen is followed by is looked at to see if it ends a range, which the parenthesis does
not do. -/
theorem endsRange_behindHyphen_append (verbose : Bool) (s u : List Char) :
    endsRange (behindHyphen verbose (s ++ ')' :: u)) = endsRange (behindHyphen verbose s) := by
  unfold behindHyphen
  cases verbose with
  | false => cases s <;> rfl
  | true =>
    rw [if_pos rfl, if_pos rfl, dropWhile_isBlank_append]
    -- what ends a range is no blank, so it is not looked for among blanks
    have kept : endsRange s.head? = true → s.dropWhile Text.isBlank = s := dropWhile_of_endsRange
    cases text : s.dropWhile Text.isBlank with
    | nil =>
      rw [if_neg (by simp), if_neg (by simp)]
      refine (Bool.eq_false_iff.2 fun ends => ?_).symm
      rw [List.head?_nil, Option.none_or] at ends
      rw [← kept ends, text] at ends
      exact absurd ends (by decide)
    | cons c r =>
      have same_head : (c :: r ++ ')' :: u).head? = (c :: r).head? := rfl
      by_cases comment : (c :: r).head? = some '#'
      · rw [if_pos (same_head.trans comment), if_pos comment, List.cons_append, List.tail_cons,
          List.tail_cons, dropWhile_isBlank_append]
        cases r.dropWhile Text.isBlank with
        | cons d t => rfl
        | nil =>
          refine (Bool.eq_false_iff.2 fun ends => ?_).symm
          rw [List.head?_nil, Option.none_or] at ends
          rw [← kept ends, text, comment] at ends
          exact absurd ends (by decide)
      · rw [if_neg (same_head.symm ▸ comment), if_neg comment]
        rfl

/-- A range goes on behind the blanks that follow its first item. -/
theorem leavesEnd_readRangeFrom (d : Dialect) (f : Flags) (first : Atom) (s : List Char) :
    LeavesEnd (skip f.verbose s) (readRangeFrom d f first s) := by
  rw [readRangeFrom]
  cases skip f.verbose s with
  | nil => exact leavesEnd_none
  | cons c r =>
    dsimp only
    split
    · split
      · exact leavesEnd_map_value fun set => leavesEnd_some List.suffix_rfl
      · have item := (leavesEnd_readItem d f (skip f.verbose r)).of_tail_skip
        refine (item.mono (List.suffix_cons c r)).bind fun last left => ?_
        exact leavesEnd_map_value fun set => leavesEnd_some List.suffix_rfl
    · exact leavesEnd_map_value fun set => leavesEnd_some List.suffix_rfl

/-- A range takes at least a character. -/
theorem leavesEnd_readRange (d : Dialect) (f : Flags) (s : List Char) :
    LeavesEnd s.tail (readRange d f s) :=
  (leavesEnd_readItem d f s).bind fun first rest =>
    (leavesEnd_readRangeFrom d f first rest).mono (skip_suffix f.verbose rest)

/-- A condition is no end of a range. -/
theorem rangeSet_look (f : Flags) (first : Atom) (l : Look) :
    rangeSet f first (.look l) = none := by
  cases first <;> rfl

/-- A condition stands in no set. -/
theorem readRangeFrom_look (d : Dialect) (f : Flags) (l : Look) (s : List Char) :
    readRangeFrom d f (.look l) s = none := by
  rw [readRangeFrom]
  cases skip f.verbose s with
  | nil => rfl
  | cons c r =>
    dsimp only
    split
    · split
      · rfl
      · cases readItem d f (skip f.verbose r) <;> rfl
    · rfl

/-- A range may end in the parenthesis, and a single item in front of it. -/
theorem upTo_readRangeFrom (d : Dialect) (f : Flags) (first : Atom) (s : List Char) :
    UpTo u (readRangeFrom d f first (s ++ ')' :: u)) (readRangeFrom d f first s) := by
  have ends := leavesEnd_readRangeFrom d f first (s ++ ')' :: u)
  rcases skip_append f.verbose s u with same | ⟨-, past⟩
  · cases alone : skip f.verbose s with
    | nil =>
      rw [same, alone] at ends
      exact ends.upTo
    | cons c r =>
      rw [readRangeFrom, readRangeFrom, same, alone, List.cons_append]
      dsimp only
      have itself : Ahead u ((itemSet f first).map fun set => (set, c :: (r ++ ')' :: u)))
          ((itemSet f first).map fun set => (set, c :: r)) :=
        ahead_map_value fun set => ahead_some set (c :: r)
      rw [endsRange_behindHyphen_append]
      split
      · split
        · exact itself.upTo
        · have last_ends : ∀ last rest, LeavesEnd rest
              ((rangeSet f first last).map fun set => (set, rest)) := fun last rest =>
            leavesEnd_map_value fun set => leavesEnd_some List.suffix_rfl
          rcases skip_append f.verbose r u with same | ⟨-, past⟩
          · rw [same]
            rcases ahead_readItem d f (skip f.verbose r) (u := u) with item | looks
            · refine (item.bind (fun last left => ?_) last_ends).upTo
              exact ahead_map_value fun set => ahead_some set left
            · cases item : readItem d f (skip f.verbose r ++ ')' :: u) with
              | none => exact ahead_none.upTo
              | some x =>
                obtain ⟨l, look⟩ := looks x item
                rw [Option.bind_some, look, rangeSet_look]
                exact ahead_none.upTo
          · exact (((leavesEnd_readItem d f _).of_tail.mono past).bind last_ends).ahead.upTo
      · exact itself.upTo
  · exact (ends.mono (past.trans (List.suffix_cons ')' u))).upTo

/-- An item or a range is read as it is alone, or goes up to the parenthesis. -/
theorem upTo_readRange (d : Dialect) (f : Flags) (s : List Char) :
    UpTo u (readRange d f (s ++ ')' :: u)) (readRange d f s) := by
  intro set rest h
  obtain ⟨⟨first, behind⟩, item, range⟩ := Option.bind_eq_some_iff.1 h
  rcases ahead_readItem d f s (u := u) with ahead | looks
  · rcases ahead first behind item with ⟨left, rfl, alone⟩ | past
    · unfold readRange
      rw [alone]
      exact upTo_readRangeFrom d f first left set rest range
    · have ends := leavesEnd_readRangeFrom d f first behind set rest range
      have taken := (ends.trans (skip_suffix f.verbose behind)).trans past
      exact .inr (taken.trans (List.suffix_cons ')' u))
  · obtain ⟨l, look⟩ := looks _ item
    dsimp only at range look
    rw [look, readRangeFrom_look] at range
    cases range

/-! ## Classes and operations -/

/-- A part of a text up to the first character of a kind ends in the text or goes over the
parenthesis. -/
theorem span_append {p : Char → Bool} (close : p ')' = true) (s u : List Char) :
    (∃ a c b, s.span p = (a, c :: b) ∧ (s ++ ')' :: u).span p = (a, c :: (b ++ ')' :: u))) ∨
      (s.span p).2 = [] ∧ ((s ++ ')' :: u).span p).2 <:+ u := by
  simp only [List.span_eq_takeWhile_dropWhile]
  induction s with
  | nil =>
    refine .inr ⟨rfl, ?_⟩
    rw [List.nil_append, List.dropWhile_cons_of_pos close]
    exact List.dropWhile_suffix p
  | cons c s ih =>
    rw [List.cons_append, List.takeWhile_cons, List.dropWhile_cons, List.takeWhile_cons,
      List.dropWhile_cons]
    split
    · rcases ih with ⟨a, d, b, alone, joined⟩ | ends
      · obtain ⟨taken, left⟩ := Prod.mk.inj alone
        obtain ⟨taken', left'⟩ := Prod.mk.inj joined
        exact .inl ⟨c :: a, d, b, by rw [taken, left], by rw [taken', left']⟩
      · exact .inr ends
    · exact .inl ⟨[], c, s, rfl, rfl⟩

/-- An operation is written with two characters, neither of which is the parenthesis. -/
theorem opAtFront_append (s u : List Char) {c : Char} :
    opAtFront (c :: (s ++ ')' :: u)) =
      (opAtFront (c :: s)).map fun x => (x.1, x.2 ++ ')' :: u) := by
  cases s with
  | nil =>
    show (if c = ')' then (SetOp.marks.lookup c).map fun op => (op, u) else none) = none
    split
    case isTrue close =>
      subst close
      rfl
    case isFalse => rfl
  | cons d r =>
    rw [List.cons_append, opAtFront, opAtFront]
    split
    · rw [Option.map_map]
      rfl
    · rfl

/-- An operation leaves an end of the text. -/
theorem opAtFront_suffix {c : Char} {op : SetOp} {rest : List Char}
    (h : opAtFront (c :: s) = some (op, rest)) : rest <:+ s := by
  cases s with
  | nil => cases h
  | cons d r =>
    rw [opAtFront] at h
    split at h
    · obtain ⟨op, -, same⟩ := Option.map_eq_some_iff.1 h
      cases same
      exact List.suffix_cons d _
    · cases h

/-- The end of a class is written with two characters, neither of which is the parenthesis. -/
theorem dropClassEnd_append (c : Char) (s u : List Char) :
    dropClassEnd (c :: (s ++ ')' :: u)) = (dropClassEnd (c :: s)).map (· ++ ')' :: u) := by
  cases s with
  | nil =>
    rw [List.nil_append, dropClassEnd, if_neg fun ends => absurd ends.2 (by decide)]
    rfl
  | cons d r =>
    rw [List.cons_append, dropClassEnd, dropClassEnd]
    split <;> rfl

/-- The end of a class leaves an end of the text. -/
theorem dropClassEnd_suffix {rest : List Char} (h : dropClassEnd s = some rest) : rest <:+ s := by
  unfold dropClassEnd at h
  split at h
  · split at h
    · cases h
      exact (List.suffix_cons _ _).trans (List.suffix_cons _ _)
    · cases h
  · cases h

/-- The class that a name between colons stands for, with a caret in front of it or not. -/
theorem readAsciiClass_colon (f : Flags) (r : List Char) :
    readAsciiClass f (':' :: r) =
      (dropClassEnd ((takeCaret r).2.span (· ≠ ':')).2).bind fun rest =>
        (CharSet.asciiClass (String.ofList ((takeCaret r).2.span (· ≠ ':')).1)).map fun set =>
          (f.negateIf (takeCaret r).1 (f.fold set), rest) :=
  rfl

/-- A class by name leaves an end of the text. -/
theorem leavesEnd_readAsciiClass (f : Flags) (s : List Char) :
    LeavesEnd s (readAsciiClass f s) := by
  cases s with
  | nil => exact leavesEnd_none
  | cons c r =>
    by_cases colon : c = ':'
    case neg =>
      rw [readAsciiClass, if_neg colon]
      exact leavesEnd_none
    subst colon
    rw [readAsciiClass_colon]
    cases ended : dropClassEnd ((takeCaret r).2.span (· ≠ ':')).2 with
    | none => exact leavesEnd_none
    | some rest =>
      have name := dropClassEnd_suffix ended
      rw [List.span_eq_takeWhile_dropWhile] at name
      have left := (name.trans (List.dropWhile_suffix _)).trans (takeCaret_suffix r)
      exact leavesEnd_map_value fun set => leavesEnd_some (left.trans (List.suffix_cons ':' r))

/-- The name of a class goes on to a colon, so it may go over the parenthesis. -/
theorem readAsciiClass_append (f : Flags) (s u : List Char) :
    readAsciiClass f (s ++ ')' :: u) =
        (readAsciiClass f s).map (fun x => (x.1, x.2 ++ ')' :: u)) ∨
      readAsciiClass f s = none ∧ LeavesEnd u (readAsciiClass f (s ++ ')' :: u)) := by
  cases s with
  | nil => exact .inl (by rw [List.nil_append, readAsciiClass, if_neg (by decide)]; rfl)
  | cons c r =>
    by_cases colon : c = ':'
    case neg =>
      rw [List.cons_append, readAsciiClass, readAsciiClass, if_neg colon, if_neg colon]
      exact .inl rfl
    subst colon
    rw [List.cons_append, readAsciiClass_colon, readAsciiClass_colon, takeCaret_append]
    dsimp only
    rcases span_append (p := (· ≠ ':')) rfl (takeCaret r).2 u with
      ⟨name, d, b, alone, joined⟩ | ⟨alone, past⟩
    · rw [alone, joined, dropClassEnd_append]
      left
      cases dropClassEnd (d :: b) with
      | none => rfl
      | some rest => cases CharSet.asciiClass (String.ofList name) <;> rfl
    · rw [alone]
      refine .inr ⟨rfl, ?_⟩
      cases ended : dropClassEnd (((takeCaret r).2 ++ ')' :: u).span (· ≠ ':')).2 with
      | none => exact leavesEnd_none
      | some rest =>
        exact leavesEnd_map_value fun set => leavesEnd_some ((dropClassEnd_suffix ended).trans past)

/-! ## Whole sets -/

/-- An end of a text with a character in front leaves an end of the text when it loses its own first
character. -/
theorem tail_suffix_of_cons {c : Char} (h : s <:+ c :: u) : s.tail <:+ u := by
  rcases List.suffix_cons_iff.1 h with rfl | shorter
  · exact List.suffix_rfl
  · exact (List.tail_suffix s).trans shorter

/-- Reading on to the closing bracket takes at least a character behind blanks. -/
theorem leavesEnd_readBrackets (d : Dialect) (f : Flags) (n : Nat) (b : OpenBracket)
    (outer : List OpenBracket) (s : List Char) :
    LeavesEnd (skip f.verbose s).tail (readBrackets d f n b outer s) := by
  induction n generalizing b outer s with
  | zero => exact leavesEnd_none
  | succ n ih =>
    rw [readBrackets]
    cases skip f.verbose s with
    | nil => exact leavesEnd_none
    | cons c r =>
      have from_rest : ∀ {rest : List Char} (b : OpenBracket) (outer : List OpenBracket),
          rest <:+ r → LeavesEnd r (readBrackets d f n b outer rest) := fun {rest} b outer h =>
        (ih b outer rest).of_tail_skip.mono h
      dsimp only [List.tail_cons]
      split
      · cases cls : readAsciiClass f r with
        | none => exact from_rest _ _ (leavesEnd_openBracket f.verbose r _ _ rfl)
        | some x =>
          obtain ⟨set, rest⟩ := x
          cases set with
          | none => exact leavesEnd_none
          | some set => exact from_rest _ _ (leavesEnd_readAsciiClass f r _ _ cls)
      · split
        · cases b.close f with
          | none => exact leavesEnd_none
          | some set =>
            cases outer with
            | nil => exact leavesEnd_some List.suffix_rfl
            | cons o os => exact from_rest _ _ List.suffix_rfl
        · cases op : opAtFront (c :: r) with
          | some x => exact from_rest _ _ (opAtFront_suffix op)
          | none =>
            cases range : readRange d f (c :: r) with
            | none => exact leavesEnd_none
            | some x => exact from_rest _ _ (leavesEnd_readRange d f (c :: r) _ _ range)

/-- The parenthesis closes no bracket, so a set that is closed was closed ahead of it or goes over
it. -/
theorem ahead_readBrackets {d : Dialect} {f : Flags} {m n : Nat} {b : OpenBracket}
    {outer : List OpenBracket} (hm : s.length < m) :
    Ahead u (readBrackets d f n b outer (s ++ ')' :: u)) (readBrackets d f m b outer s) := by
  induction n generalizing m b outer s with
  | zero => exact ahead_none
  | succ n ih =>
    obtain ⟨m, rfl⟩ := Nat.exists_eq_succ_of_ne_zero (n := m) (by omega)
    refine ahead_of_skip (leavesEnd_readBrackets d f _ b outer _) fun c r alone joined => ?_
    have length_le := (skip_suffix f.verbose s).length_le
    rw [alone, List.length_cons] at length_le
    have inside : ∀ {left : List Char} (b : OpenBracket) (outer : List OpenBracket), left <:+ r →
        Ahead u (readBrackets d f n b outer (left ++ ')' :: u)) (readBrackets d f m b outer left) :=
      fun b outer h => ih (by have := h.length_le; omega)
    -- a bracket that is open behind the parenthesis or at it is closed behind it
    have past : ∀ {rest : List Char} {y} (b : OpenBracket) (outer : List OpenBracket),
        rest <:+ ')' :: u → Ahead u (readBrackets d f n b outer rest) y := fun {rest y} b outer h =>
      ((leavesEnd_readBrackets d f n b outer rest).mono
        (tail_suffix_of_cons ((skip_suffix f.verbose rest).trans h))).ahead
    have opens : Ahead u
        (readBrackets d f n (openBracket f.verbose (r ++ ')' :: u)).1 (b :: outer)
          (openBracket f.verbose (r ++ ')' :: u)).2)
        (readBrackets d f m (openBracket f.verbose r).1 (b :: outer)
          (openBracket f.verbose r).2) := by
      have bracket := ahead_openBracket f.verbose r (u := u)
      generalize openBracket f.verbose (r ++ ')' :: u) = found at bracket ⊢
      rcases bracket found.1 found.2 rfl with ⟨left, same, opened⟩ | behind
      · rw [same, Option.some.inj opened]
        exact inside _ _ (leavesEnd_openBracket f.verbose r _ _ opened)
      · exact past _ _ (behind.trans (List.suffix_cons ')' u))
    rw [readBrackets, readBrackets, alone, joined]
    dsimp only
    split
    · rcases readAsciiClass_append f r u with same | ⟨none_alone, behind⟩
      · rw [same]
        cases cls : readAsciiClass f r with
        | none => exact opens
        | some x =>
          obtain ⟨set, left⟩ := x
          cases set with
          | none => exact ahead_none
          | some set => exact inside _ _ (leavesEnd_readAsciiClass f r _ _ cls)
      · rw [none_alone]
        cases cls : readAsciiClass f (r ++ ')' :: u) with
        | none => exact opens
        | some x =>
          obtain ⟨set, rest⟩ := x
          cases set with
          | none => exact ahead_none
          | some set => exact past _ _ ((behind _ _ cls).trans (List.suffix_cons ')' u))
    · split
      · cases b.close f with
        | none => exact ahead_none
        | some set =>
          cases outer with
          | nil => exact ahead_some set r
          | cons o os => exact inside _ _ List.suffix_rfl
      · rw [opAtFront_append]
        cases op : opAtFront (c :: r) with
        | some x => exact inside _ _ (opAtFront_suffix op)
        | none =>
          dsimp only [Option.map_none]
          cases range : readRange d f (c :: (r ++ ')' :: u)) with
          | none => exact ahead_none
          | some x =>
            obtain ⟨set, rest⟩ := x
            rcases upTo_readRange d f (c :: r) set rest range with ⟨left, rfl, alone⟩ | behind
            · rw [alone]
              exact inside _ _ (leavesEnd_readRange d f (c :: r) _ _ alone)
            · exact past _ _ behind

/-- A set is what stands behind its bracket, and then the rest up to the bracket that closes it. -/
theorem readSet_eq (d : Dialect) (f : Flags) (s : List Char) :
    readSet d f s = (some (openBracket f.verbose s)).bind fun x =>
      readBrackets d f (x.2.length + 1) x.1 [] x.2 :=
  rfl

/-- A set leaves an end of the text. -/
theorem leavesEnd_readSet (d : Dialect) (f : Flags) (s : List Char) :
    LeavesEnd s (readSet d f s) := by
  rw [readSet_eq]
  exact (leavesEnd_openBracket f.verbose s).bind fun b rest =>
    (leavesEnd_readBrackets d f (rest.length + 1) b [] rest).of_tail_skip

/-- A set is read as it is alone, or it goes over the parenthesis. -/
theorem ahead_readSet (d : Dialect) (f : Flags) (s : List Char) :
    Ahead u (readSet d f (s ++ ')' :: u)) (readSet d f s) := by
  rw [readSet_eq, readSet_eq]
  exact (ahead_openBracket f.verbose s).bind
    (fun b left => ahead_readBrackets (Nat.lt_succ_self left.length))
    fun b rest => (leavesEnd_readBrackets d f (rest.length + 1) b [] rest).of_tail_skip

end HeapScope.Pattern
