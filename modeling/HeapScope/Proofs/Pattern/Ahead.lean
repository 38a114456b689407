import HeapScope.Pattern.Escape
import Mathlib.Data.List.Infix

/-!
# Reading ahead of a parenthesis

What a reader finds may depend on what stands behind the part that it takes, so a text that is read
as a part of a longer one need not be read as it is by itself. Here a text is followed by a closing
parenthesis. No reader of the small parts of patterns looks over that parenthesis and stays in front
of it: what it finds is what it finds in the text alone, or it takes the parenthesis too
(`Ahead`).

For each reader there are two lemmas, one that it leaves an end of what it is given and one that it
is undisturbed. The one exception is the side of a word, whose brace may as well open the bounds of
a repetition (`Stuck`).
-/

namespace HeapScope.Pattern

variable {α β γ : Type} {s u : List Char}

/-- What is left of a text after reading is an end of it. -/
def LeavesEnd (s : List Char) (x : Option (α × List Char)) : Prop :=
  ∀ a rest, x = some (a, rest) → rest <:+ s

/-- The outcome `x` of reading a text in front of a closing parenthesis and `u` is the outcome `y`
of reading it alone, unless the parenthesis is taken too. -/
def Ahead (u : List Char) (x y : Option (α × List Char)) : Prop :=
  ∀ a rest, x = some (a, rest) →
    (∃ left, rest = left ++ ')' :: u ∧ y = some (a, left)) ∨ rest <:+ u

/-! ## Sequences of readers -/

section Sequences

variable {x y : Option (α × List Char)}

/-- A malformed text leaves nothing to speak of. -/
theorem leavesEnd_none : LeavesEnd s (none : Option (α × List Char)) := by
  intro a rest h
  cases h

/-- A reader that stops at an end of the text leaves that end. -/
theorem leavesEnd_some {a : α} {rest : List Char} (h : rest <:+ s) :
    LeavesEnd s (some (a, rest)) := by
  intro b other same
  cases same
  exact h

/-- An end of an end of a text is an end of the text. -/
theorem LeavesEnd.mono {s' : List Char} (h : LeavesEnd s x) (le : s <:+ s') : LeavesEnd s' x :=
  fun a rest hx => (h a rest hx).trans le

/-- What leaves an end of a text without its first character leaves an end of the text. -/
theorem LeavesEnd.of_tail (h : LeavesEnd s.tail x) : LeavesEnd s x :=
  h.mono (List.tail_suffix s)

/-- A second reader goes on in what the first one leaves. -/
theorem LeavesEnd.bind {k : α × List Char → Option (β × List Char)} (h : LeavesEnd s x)
    (next : ∀ a rest, LeavesEnd rest (k (a, rest))) : LeavesEnd s (x.bind k) := by
  intro b rest hb
  obtain ⟨⟨a, between⟩, hx, hk⟩ := Option.bind_eq_some_iff.1 hb
  exact (next a between b rest hk).trans (h a between hx)

/-- What is made of the value changes nothing in what is left. -/
theorem LeavesEnd.map (h : LeavesEnd s x) (f : α → β) :
    LeavesEnd s (x.map fun y => (f y.1, y.2)) := by
  intro b rest hb
  obtain ⟨⟨a, left⟩, hx, same⟩ := Option.map_eq_some_iff.1 hb
  cases same
  exact h a left hx

/-- A value that is found without reading changes nothing in what is left. -/
theorem leavesEnd_bind_value {o : Option γ} {k : γ → Option (α × List Char)}
    (next : ∀ c, LeavesEnd s (k c)) : LeavesEnd s (o.bind k) := by
  cases o with
  | none => exact leavesEnd_none
  | some c => exact next c

/-- A value that is found without reading leaves what it is put in front of. -/
theorem leavesEnd_map_value {o : Option γ} {g : γ → α × List Char}
    (next : ∀ c, LeavesEnd s (some (g c))) : LeavesEnd s (o.map g) := by
  cases o with
  | none => exact leavesEnd_none
  | some c => exact next c

/-- A reader that finds the longer text malformed is undisturbed. -/
theorem ahead_none : Ahead u (none : Option (α × List Char)) y := by
  intro a rest h
  cases h

/-- A reader that stops at one place, with one value, is undisturbed. -/
theorem ahead_some (a : α) (left : List Char) :
    Ahead u (some (a, left ++ ')' :: u)) (some (a, left)) := by
  intro b rest h
  cases h
  exact .inl ⟨left, rfl, rfl⟩

/-- Behind the parenthesis nothing is compared any more. -/
theorem LeavesEnd.ahead (h : LeavesEnd u x) : Ahead u x y :=
  fun a rest hx => .inr (h a rest hx)

/-- Two readers in a row are undisturbed if the second one is wherever the first one stops, also
behind the parenthesis. -/
theorem Ahead.bind {k k' : α × List Char → Option (β × List Char)} (h : Ahead u x y)
    (next : ∀ a left, Ahead u (k (a, left ++ ')' :: u)) (k' (a, left)))
    (ends : ∀ a rest, LeavesEnd rest (k (a, rest))) : Ahead u (x.bind k) (y.bind k') := by
  intro b rest hb
  obtain ⟨⟨a, between⟩, hx, hk⟩ := Option.bind_eq_some_iff.1 hb
  rcases h a between hx with ⟨left, rfl, hy⟩ | past
  · rw [hy]
    exact next a left b rest hk
  · exact .inr ((ends a between b rest hk).trans past)

/-- What is made of the value does not disturb a reader. -/
theorem Ahead.map (h : Ahead u x y) (f : α → β) :
    Ahead u (x.map fun y => (f y.1, y.2)) (y.map fun y => (f y.1, y.2)) := by
  intro b rest hb
  obtain ⟨⟨a, left⟩, hx, same⟩ := Option.map_eq_some_iff.1 hb
  cases same
  rcases h a left hx with ⟨left, rfl, hy⟩ | past
  · exact .inl ⟨left, rfl, by rw [hy]; rfl⟩
  · exact .inr past

/-- A value that is found without reading disturbs nothing. -/
theorem ahead_bind_value {o : Option γ} {k k' : γ → Option (α × List Char)}
    (next : ∀ c, Ahead u (k c) (k' c)) : Ahead u (o.bind k) (o.bind k') := by
  cases o with
  | none => exact ahead_none
  | some c => exact next c

/-- Nor does it at the end of a reader. -/
theorem ahead_map_value {o : Option γ} {g g' : γ → α × List Char}
    (next : ∀ c, Ahead u (some (g c)) (some (g' c))) : Ahead u (o.map g) (o.map g') := by
  cases o with
  | none => exact ahead_none
  | some c => exact next c

end Sequences

/-! ## Blanks -/

/-- Dropping blanks and comments leaves an end of the text. -/
theorem dropBlanks_suffix (inComment : Bool) (s : List Char) : dropBlanks inComment s <:+ s := by
  induction s generalizing inComment with
  | nil => exact List.suffix_rfl
  | cons c s ih =>
    have shorter := fun inComment => (ih inComment).trans (List.suffix_cons c s)
    rw [dropBlanks]
    split
    · exact shorter _
    · split
      · exact shorter _
      · split
        · exact shorter _
        · exact List.suffix_rfl

/-- Whether a pattern is verbose or not, an end of the text is left. -/
theorem skip_suffix (verbose : Bool) (s : List Char) : skip verbose s <:+ s := by
  unfold skip
  split
  · exact dropBlanks_suffix false s
  · exact List.suffix_rfl

/-- A reader that takes a character behind blanks leaves less than it is given. -/
theorem LeavesEnd.of_tail_skip {verbose : Bool} {x : Option (α × List Char)}
    (h : LeavesEnd (skip verbose s).tail x) : LeavesEnd s x :=
  h.of_tail.mono (skip_suffix verbose s)

/-- A parenthesis ends blanks, unless it belongs to a comment. -/
theorem dropBlanks_append (inComment : Bool) (s u : List Char) :
    dropBlanks inComment (s ++ ')' :: u) = dropBlanks inComment s ++ ')' :: u ∨
      dropBlanks inComment s = [] ∧ dropBlanks inComment (s ++ ')' :: u) <:+ u := by
  induction s generalizing inComment with
  | nil =>
    cases inComment with
    | true => exact .inr ⟨rfl, dropBlanks_suffix _ u⟩
    | false => exact .inl rfl
  | cons c s ih =>
    rw [List.cons_append, dropBlanks, dropBlanks]
    split
    · exact ih _
    · split
      · exact ih _
      · split
        · exact ih _
        · exact .inl rfl

/-- A parenthesis ends blanks also where they matter, unless it belongs to a comment. -/
theorem skip_append (verbose : Bool) (s u : List Char) :
    skip verbose (s ++ ')' :: u) = skip verbose s ++ ')' :: u ∨
      skip verbose s = [] ∧ skip verbose (s ++ ')' :: u) <:+ u := by
  unfold skip
  split
  · exact dropBlanks_append false s u
  · exact .inl rfl

/-- A reader that starts behind blanks and takes a character there is compared on that character
alone: there is none only if the parenthesis comes first. -/
theorem ahead_of_skip {verbose : Bool} {x y : Option (α × List Char)}
    (ends : LeavesEnd (skip verbose (s ++ ')' :: u)).tail x)
    (inside : ∀ c r, skip verbose s = c :: r → skip verbose (s ++ ')' :: u) = c :: (r ++ ')' :: u) →
      Ahead u x y) : Ahead u x y := by
  rcases skip_append verbose s u with same | ⟨-, past⟩
  · cases alone : skip verbose s with
    | nil =>
      rw [same, alone] at ends
      exact ends.ahead
    | cons c r => exact inside c r alone (by rw [same, alone]; rfl)
  · exact (ends.mono ((List.tail_suffix _).trans past)).ahead

/-- A reader that skips blanks behind its part is undisturbed. -/
theorem ahead_skip (a : α) (verbose : Bool) (s : List Char) :
    Ahead u (some (a, skip verbose (s ++ ')' :: u))) (some (a, skip verbose s)) := by
  rcases skip_append verbose s u with same | ⟨-, past⟩
  · rw [same]
    exact ahead_some a _
  · exact (leavesEnd_some past).ahead

/-- A parenthesis ends blanks, for comments are not looked for here. -/
theorem dropWhile_isBlank_append (s u : List Char) :
    (s ++ ')' :: u).dropWhile Text.isBlank = s.dropWhile Text.isBlank ++ ')' :: u := by
  induction s with
  | nil => rfl
  | cons c s ih =>
    rw [List.cons_append, List.dropWhile_cons, List.dropWhile_cons]
    split
    · exact ih
    · rfl

/-! ## Runs and numerals -/

/-- A run leaves an end of the text. -/
theorem takeRun_suffix (kind : Char → Bool) (verbose : Bool) (n : Nat) (s : List Char) :
    (takeRun kind verbose n s).2 <:+ s := by
  induction n generalizing s with
  | zero => exact List.suffix_rfl
  | succ n ih =>
    cases s with
    | nil => exact List.suffix_rfl
    | cons c s =>
      rw [takeRun]
      split
      · exact ((ih _).trans (skip_suffix verbose s)).trans (List.suffix_cons c s)
      · exact List.suffix_rfl

/-- A run ends at the parenthesis at the latest, if that is not of its kind. -/
theorem ahead_takeRun (kind : Char → Bool) (close : kind ')' = false) (verbose : Bool) {m n : Nat}
    (hm : s.length ≤ m) (hn : s.length < n) :
    Ahead u (some (takeRun kind verbose n (s ++ ')' :: u)))
      (some (takeRun kind verbose m s)) := by
  induction n generalizing m s with
  | zero => omega
  | succ n ih =>
    cases s with
    | nil =>
      have stops : takeRun kind verbose m [] = ([], []) := by cases m <;> rfl
      rw [stops, List.nil_append, takeRun, close, if_neg Bool.false_ne_true]
      exact ahead_some [] []
    | cons c s =>
      rw [List.length_cons] at hm hn
      obtain ⟨m, rfl⟩ := Nat.exists_eq_add_of_le' (Nat.le_of_add_left_le hm)
      rw [List.cons_append, takeRun, takeRun]
      split
      · rcases skip_append verbose s u with same | ⟨-, past⟩
        · have length_le := (skip_suffix verbose s).length_le
          rw [same]
          exact (ih (m := m) (s := skip verbose s) (by omega) (by omega)).map (c :: ·)
        · exact (leavesEnd_some ((takeRun_suffix kind verbose n _).trans past)).ahead
      · exact ahead_some [] (c :: s)

/-- A numeral is a run of digits with blanks around it. -/
theorem readCount_eq (verbose : Bool) (s : List Char) :
    readCount verbose s =
      (some (takeRun Char.isDigit verbose s.length (s.dropWhile Text.isBlank))).bind fun run =>
        (countOf run.1).map fun n => (n, run.2.dropWhile Text.isBlank) :=
  rfl

/-- A numeral leaves an end of the text. -/
theorem leavesEnd_readCount (verbose : Bool) (s : List Char) :
    LeavesEnd s (readCount verbose s) := by
  have digits := takeRun_suffix Char.isDigit verbose s.length (s.dropWhile Text.isBlank)
  have behind := (List.dropWhile_suffix Text.isBlank).trans
    (digits.trans (List.dropWhile_suffix Text.isBlank))
  exact leavesEnd_map_value fun n => leavesEnd_some behind

/-- A numeral ends at the parenthesis at the latest. -/
theorem ahead_readCount (verbose : Bool) (s : List Char) :
    Ahead u (readCount verbose (s ++ ')' :: u)) (readCount verbose s) := by
  have length_le := (List.dropWhile_suffix (l := s) Text.isBlank).length_le
  have digits : Ahead u
      (some (takeRun Char.isDigit verbose (s ++ ')' :: u).length
        ((s ++ ')' :: u).dropWhile Text.isBlank)))
      (some (takeRun Char.isDigit verbose s.length (s.dropWhile Text.isBlank))) := by
    rw [dropWhile_isBlank_append]
    refine ahead_takeRun Char.isDigit (by decide) verbose length_le ?_
    rw [List.length_append, List.length_cons]
    omega
  rw [readCount_eq, readCount_eq]
  refine digits.bind (fun ds left => ?_) fun ds rest => ?_
  · refine ahead_map_value fun n => ?_
    rw [dropWhile_isBlank_append]
    exact ahead_some n _
  · exact leavesEnd_map_value fun n => leavesEnd_some (List.dropWhile_suffix _)

/-- A closing brace is the first character of the text or is not there. -/
theorem dropBrace_append (s u : List Char) :
    dropBrace (s ++ ')' :: u) = (dropBrace s).map (· ++ ')' :: u) := by
  cases s with
  | nil =>
    rw [List.nil_append, dropBrace, if_neg (by decide)]
    rfl
  | cons c s =>
    rw [List.cons_append, dropBrace, dropBrace]
    split <;> rfl

/-- Dropping a closing brace leaves an end of the text. -/
theorem dropBrace_suffix {rest : List Char} (h : dropBrace s = some rest) : rest <:+ s := by
  cases s with
  | nil => cases h
  | cons c s =>
    rw [dropBrace] at h
    split at h
    · cases h
      exact List.suffix_cons c _
    · cases h

/-! ## Escapes -/

/-- A number of digits leaves an end of the text. -/
theorem leavesEnd_readFixedHex (verbose : Bool) (n value : Nat) (s : List Char) :
    LeavesEnd s (readFixedHex verbose n value s) := by
  induction n generalizing value s with
  | zero => exact leavesEnd_some List.suffix_rfl
  | succ n ih =>
    cases s with
    | nil => exact leavesEnd_none
    | cons c s =>
      refine leavesEnd_bind_value fun d => (ih _ _).mono ?_
      exact (skip_suffix verbose s).trans (List.suffix_cons c s)

/-- If there is a digit to read, it is taken. -/
theorem leavesEnd_readFixedHex_succ (verbose : Bool) (n value : Nat) (s : List Char) :
    LeavesEnd s.tail (readFixedHex verbose (n + 1) value s) := by
  cases s with
  | nil => exact leavesEnd_none
  | cons c s =>
    rw [readFixedHex]
    refine leavesEnd_bind_value fun d => ?_
    exact (leavesEnd_readFixedHex verbose n _ _).mono (skip_suffix verbose s)

/-- Digits end at the parenthesis, which is none of them. -/
theorem ahead_readFixedHex (verbose : Bool) (n value : Nat) (s : List Char) :
    Ahead u (readFixedHex verbose n value (s ++ ')' :: u)) (readFixedHex verbose n value s) := by
  induction n generalizing value s with
  | zero => exact ahead_some value s
  | succ n ih =>
    cases s with
    | nil => exact (leavesEnd_readFixedHex_succ verbose n value (')' :: u)).ahead
    | cons c s =>
      rw [List.cons_append, readFixedHex, readFixedHex]
      refine ahead_bind_value fun d => ?_
      rcases skip_append verbose s u with same | ⟨-, past⟩
      · rw [same]
        exact ih _ _
      · exact ((leavesEnd_readFixedHex verbose n _ _).mono past).ahead

/-- Digits up to a brace take at least the brace. -/
theorem leavesEnd_readBracedHex (verbose : Bool) (n : Nat) (value : Option Nat) (s : List Char) :
    LeavesEnd (skip verbose s).tail (readBracedHex verbose n value s) := by
  induction n generalizing value s with
  | zero => exact leavesEnd_none
  | succ n ih =>
    rw [readBracedHex]
    cases skip verbose s with
    | nil => exact leavesEnd_none
    | cons c r =>
      dsimp only
      split
      · cases value with
        | none => exact leavesEnd_none
        | some v => exact leavesEnd_some (skip_suffix verbose r)
      · exact leavesEnd_bind_value fun d => (ih _ r).of_tail_skip

/-- Digits up to a brace are malformed where the parenthesis comes first. -/
theorem ahead_readBracedHex {verbose : Bool} {m n : Nat} {value : Option Nat}
    (hm : s.length < m) :
    Ahead u (readBracedHex verbose n value (s ++ ')' :: u)) (readBracedHex verbose m value s) := by
  induction n generalizing m value s with
  | zero => exact ahead_none
  | succ n ih =>
    obtain ⟨m, rfl⟩ := Nat.exists_eq_succ_of_ne_zero (n := m) (by omega)
    refine ahead_of_skip (leavesEnd_readBracedHex verbose _ _ _) fun c r alone joined => ?_
    have length_le := (skip_suffix verbose s).length_le
    rw [alone, List.length_cons] at length_le
    rw [readBracedHex, readBracedHex, alone, joined]
    dsimp only
    split
    · cases value with
      | none => exact ahead_none
      | some v => exact ahead_skip v verbose r
    · exact ahead_bind_value fun d => ih (by omega)

/-- A code point takes at least a character behind blanks. -/
theorem leavesEnd_readHex (f : Flags) (digits : Nat) (s : List Char) :
    LeavesEnd (skip f.verbose s).tail (readHex f (digits + 1) s) := by
  rw [readHex]
  cases skip f.verbose s with
  | nil => exact leavesEnd_none
  | cons c r =>
    dsimp only
    split
    · have braced := leavesEnd_readBracedHex f.verbose (r.length + 1) none r
      refine braced.of_tail_skip.bind fun n rest => ?_
      exact leavesEnd_bind_value fun c => leavesEnd_some List.suffix_rfl
    · refine (leavesEnd_readFixedHex_succ f.verbose digits 0 (c :: r)).bind fun n rest => ?_
      dsimp only
      split
      · exact leavesEnd_none
      · exact leavesEnd_bind_value fun c => leavesEnd_some List.suffix_rfl

/-- A code point is read as it is alone, with or without braces. -/
theorem ahead_readHex (f : Flags) (digits : Nat) (s : List Char) :
    Ahead u (readHex f (digits + 1) (s ++ ')' :: u)) (readHex f (digits + 1) s) := by
  refine ahead_of_skip (leavesEnd_readHex f digits _) fun c r alone joined => ?_
  rw [readHex, readHex, alone, joined]
  dsimp only
  split
  · refine Ahead.bind (ahead_readBracedHex (Nat.lt_succ_self _)) (fun n left => ?_)
      fun n rest => ?_
    · exact ahead_bind_value fun c => ahead_some _ left
    · exact leavesEnd_bind_value fun c => leavesEnd_some List.suffix_rfl
  · refine Ahead.bind (ahead_readFixedHex f.verbose _ _ (c :: r)) (fun n left => ?_)
      fun n rest => ?_
    · dsimp only
      split
      · exact ahead_none
      · exact ahead_bind_value fun c => ahead_some _ left
    · dsimp only
      split
      · exact leavesEnd_none
      · exact leavesEnd_bind_value fun c => leavesEnd_some List.suffix_rfl

/-- A text up to a brace takes at least the brace. -/
theorem leavesEnd_takeBraced (verbose : Bool) (n : Nat) (s : List Char) :
    LeavesEnd (skip verbose s).tail (takeBraced verbose n s) := by
  induction n generalizing s with
  | zero => exact leavesEnd_none
  | succ n ih =>
    rw [takeBraced]
    cases skip verbose s with
    | nil => exact leavesEnd_none
    | cons c r =>
      dsimp only
      split
      · exact leavesEnd_some List.suffix_rfl
      · exact (ih r).of_tail_skip.map (c :: ·)

/-- A text up to a brace may hold the parenthesis, and then it is taken too. -/
theorem ahead_takeBraced {verbose : Bool} {m n : Nat} (hm : s.length < m) :
    Ahead u (takeBraced verbose n (s ++ ')' :: u)) (takeBraced verbose m s) := by
  induction n generalizing m s with
  | zero => exact ahead_none
  | succ n ih =>
    obtain ⟨m, rfl⟩ := Nat.exists_eq_succ_of_ne_zero (n := m) (by omega)
    refine ahead_of_skip (leavesEnd_takeBraced verbose _ _) fun c r alone joined => ?_
    have length_le := (skip_suffix verbose s).length_le
    rw [alone, List.length_cons] at length_le
    rw [takeBraced, takeBraced, alone, joined]
    dsimp only
    split
    · exact ahead_some [] r
    · exact (ih (m := m) (by omega)).map (c :: ·)

/-- The name of a class takes at least a character behind blanks. -/
theorem leavesEnd_readClassName (d : Dialect) (verbose : Bool) (s : List Char) :
    LeavesEnd (skip verbose s).tail (readClassName d verbose s) := by
  rw [readClassName]
  cases skip verbose s with
  | nil => exact leavesEnd_none
  | cons c r =>
    dsimp only
    split
    · have braced := leavesEnd_takeBraced verbose (r.length + 1) r
      refine braced.of_tail_skip.bind fun name rest => ?_
      exact leavesEnd_map_value fun cls => leavesEnd_some List.suffix_rfl
    · split
      · exact leavesEnd_none
      · exact leavesEnd_map_value fun set => leavesEnd_some (skip_suffix verbose r)

/-- The name of a class is one character, which is not the parenthesis, or goes on to a brace. -/
theorem ahead_readClassName (d : Dialect) (verbose : Bool) (s : List Char) :
    Ahead u (readClassName d verbose (s ++ ')' :: u)) (readClassName d verbose s) := by
  refine ahead_of_skip (leavesEnd_readClassName d verbose _) fun c r alone joined => ?_
  rw [readClassName, readClassName, alone, joined]
  dsimp only
  split
  · refine Ahead.bind (ahead_takeBraced (Nat.lt_succ_self _)) (fun name left => ?_)
      fun name rest => ?_
    · exact ahead_map_value fun cls => ahead_some _ left
    · exact leavesEnd_map_value fun cls => leavesEnd_some List.suffix_rfl
  · split
    · exact ahead_none
    · exact ahead_map_value fun set => ahead_skip _ verbose r

/-- A class leaves what its name leaves. -/
theorem leavesEnd_readClass (d : Dialect) (f : Flags) (negated : Bool) (s : List Char) :
    LeavesEnd s (readClass d f negated s) := by
  refine (leavesEnd_readClassName d f.verbose s).of_tail_skip.bind fun cls rest => ?_
  dsimp only
  split
  · exact leavesEnd_bind_value fun set => leavesEnd_some List.suffix_rfl
  · exact leavesEnd_none

/-- A class is read as its name is. -/
theorem ahead_readClass (d : Dialect) (f : Flags) (negated : Bool) (s : List Char) :
    Ahead u (readClass d f negated (s ++ ')' :: u)) (readClass d f negated s) := by
  refine Ahead.bind (ahead_readClassName d f.verbose s) (fun cls left => ?_) fun cls rest => ?_
  · dsimp only
    split
    · exact ahead_bind_value fun set => ahead_some _ left
    · exact ahead_none
  · dsimp only
    split
    · exact leavesEnd_bind_value fun set => leavesEnd_some List.suffix_rfl
    · exact leavesEnd_none

/-! ## Sides of words -/

/-- A brace that names the side of a word or opens the bounds of a repetition is not told apart
before the character behind it, which is the parenthesis here. -/
def Stuck (verbose : Bool) (u : List Char) (x : Option (α × List Char)) : Prop :=
  ∃ a r, x = some (a, Text.Quoted.openBrace :: (r ++ ')' :: u)) ∧ skip verbose r = []

/-- A name for the side of a word leaves what is behind its brace. -/
theorem leavesEnd_namedEdge (name rest : List Char) :
    LeavesEnd rest (namedEdge (name, rest)) := by
  unfold namedEdge
  cases braced : dropBrace rest with
  | none => exact leavesEnd_none
  | some left =>
    exact leavesEnd_map_value fun edge => leavesEnd_some (dropBrace_suffix braced)

/-- A name for the side of a word ends with a brace or not at all. -/
theorem ahead_namedEdge (name left : List Char) :
    Ahead u (namedEdge (name, left ++ ')' :: u)) (namedEdge (name, left)) := by
  rw [namedEdge, namedEdge, dropBrace_append]
  cases dropBrace left with
  | none => exact ahead_none
  | some rest => exact ahead_map_value fun edge => ahead_some edge rest

/-- The side of a word leaves an end of the text, or all of it if it has no name. -/
theorem leavesEnd_readEdge (verbose : Bool) (s : List Char) :
    LeavesEnd s (readEdge verbose s) := by
  cases s with
  | nil => exact leavesEnd_some List.suffix_rfl
  | cons c r =>
    have skipped := (skip_suffix verbose r).trans (List.suffix_cons c r)
    rw [readEdge]
    split
    · cases text : skip verbose r with
      | nil => exact leavesEnd_none
      | cons d t =>
        dsimp only
        split
        · have named := takeRun_suffix isEdgeLetter verbose (t.length + 1) (d :: t)
          rw [text] at skipped
          exact (leavesEnd_namedEdge _ _).mono (named.trans skipped)
        · exact leavesEnd_some List.suffix_rfl
    · exact leavesEnd_some List.suffix_rfl

/-- The side of a word is read as it is alone, unless it is stuck. -/
theorem ahead_readEdge (verbose : Bool) (s : List Char) :
    Ahead u (readEdge verbose (s ++ ')' :: u)) (readEdge verbose s) ∨
      Stuck verbose u (readEdge verbose (s ++ ')' :: u)) := by
  cases s with
  | nil =>
    have not_taken : readEdge verbose (')' :: u) = some (.boundary, ')' :: u) := by
      rw [readEdge, if_neg (by decide)]
    rw [List.nil_append, not_taken]
    exact .inl (ahead_some WordEdge.boundary [])
  | cons c r =>
    rw [List.cons_append, readEdge, readEdge]
    split
    case isFalse => exact .inl (ahead_some _ (c :: r))
    case isTrue brace =>
      cases alone : skip verbose r with
      | nil =>
        -- if no name begins behind the brace, the brace is not taken
        have behind : skip verbose (r ++ ')' :: u) <:+ ')' :: u := by
          rcases skip_append verbose r u with same | ⟨-, past⟩
          · rw [same, alone]
            exact List.suffix_rfl
          · exact past.trans (List.suffix_cons _ u)
        cases text : skip verbose (r ++ ')' :: u) with
        | nil => exact .inl ahead_none
        | cons d t =>
          dsimp only
          split
          case isTrue letter =>
            rw [text] at behind
            rcases List.suffix_cons_iff.1 behind with same | past
            · obtain ⟨rfl, -⟩ := List.cons.inj same
              exact absurd letter (by decide)
            · have named := takeRun_suffix isEdgeLetter verbose (t.length + 1) (d :: t)
              exact .inl ((leavesEnd_namedEdge _ _).mono (named.trans past)).ahead
          case isFalse => exact .inr ⟨_, r, by rw [brace], alone⟩
      | cons d t =>
        have joined : skip verbose (r ++ ')' :: u) = d :: (t ++ ')' :: u) := by
          rcases skip_append verbose r u with same | ⟨none_left, -⟩
          · rw [same, alone, List.cons_append]
          · exact absurd (alone.symm.trans none_left) (List.cons_ne_nil d t)
        left
        rw [joined]
        dsimp only
        split
        · have fuel : (d :: t).length < (t ++ ')' :: u).length + 1 := by simp
          have name : Ahead u _ (some (takeRun isEdgeLetter verbose (t.length + 1) (d :: t))) :=
            ahead_takeRun isEdgeLetter (by decide) verbose (Nat.le_refl _) fuel
          exact name.bind ahead_namedEdge leavesEnd_namedEdge
        · exact ahead_some _ (c :: r)

/-! ## All escapes -/

/-- The letter of an escape says how it is read on: as a code point, as a class, as the side of a
word, or not at all, and then the letter alone decides what it stands for. -/
theorem readEscape_cases (d : Dialect) (f : Flags) (c : Char) :
    (∃ digits, ∀ r, readEscape d f (c :: r) = readHex f (digits + 1) r) ∨
      (∃ negated, ∀ r, readEscape d f (c :: r) = readClass d f negated r) ∨
      (∀ r, readEscape d f (c :: r) =
        (readEdge f.verbose r).map fun x => (.look (.word x.1 f.word), x.2)) ∨
      ∃ o : Option Atom, ∀ r, readEscape d f (c :: r) = o.map fun a => (a, r) := by
  by_cases x : c = 'x'
  · exact .inl ⟨1, fun r => by rw [readEscape, if_pos x]⟩
  by_cases small : c = 'u'
  · exact .inl ⟨3, fun r => by rw [readEscape, if_neg x, if_pos small]⟩
  by_cases capital : c = 'U'
  · exact .inl ⟨7, fun r => by rw [readEscape, if_neg x, if_neg small, if_pos capital]⟩
  by_cases cls : c = 'p'
  · refine .inr (.inl ⟨false, fun r => ?_⟩)
    rw [readEscape, if_neg x, if_neg small, if_neg capital, if_pos cls]
  by_cases others : c = 'P'
  · refine .inr (.inl ⟨true, fun r => ?_⟩)
    rw [readEscape, if_neg x, if_neg small, if_neg capital, if_neg cls, if_pos others]
  right; right
  simp only [readEscape, if_neg x, if_neg small, if_neg capital, if_neg cls, if_neg others]
  cases letterClass f c with
  | some set => exact .inr ⟨some (.set set), fun r => rfl⟩
  | none =>
    cases letterClass f c.toLower with
    | some set =>
      refine .inr ⟨(f.negateIf true set).map .set, fun r => ?_⟩
      rw [Option.map_map]
      rfl
    | none =>
      dsimp only
      by_cases itself : isEscapable c = true
      · exact .inr ⟨some (.literal c), fun r => by rw [if_pos itself]; rfl⟩
      simp only [if_neg itself]
      cases controlLetters.lookup c with
      | some d => exact .inr ⟨some (.literal d), fun r => rfl⟩
      | none =>
        dsimp only
        by_cases start : c = 'A'
        · exact .inr ⟨some (.look .textStart), fun r => by rw [if_pos start]; rfl⟩
        by_cases stop : c = 'z'
        · exact .inr ⟨some (.look .textEnd), fun r => by rw [if_neg start, if_pos stop]; rfl⟩
        by_cases edge : c = 'b'
        · exact .inl fun r => by rw [if_neg start, if_neg stop, if_pos edge]
        simp only [if_neg start, if_neg stop, if_neg edge]
        right
        by_cases inside : c = 'B'
        · exact ⟨some (.look (.word .noBoundary f.word)), fun r => by rw [if_pos inside]; rfl⟩
        by_cases opening : c = '<'
        · refine ⟨some (.look (.word .start f.word)), fun r => ?_⟩
          rw [if_neg inside, if_pos opening]
          rfl
        by_cases closing : c = '>'
        · refine ⟨some (.look (.word .stop f.word)), fun r => ?_⟩
          rw [if_neg inside, if_neg opening, if_pos closing]
          rfl
        · refine ⟨none, fun r => ?_⟩
          rw [if_neg inside, if_neg opening, if_neg closing]
          rfl

/-- An escape takes at least the character behind the backslash. -/
theorem leavesEnd_readEscape (d : Dialect) (f : Flags) (s : List Char) :
    LeavesEnd s.tail (readEscape d f s) := by
  cases s with
  | nil => exact leavesEnd_none
  | cons c r =>
    rw [List.tail_cons]
    rcases readEscape_cases d f c with ⟨digits, hex⟩ | ⟨negated, cls⟩ | edge | ⟨o, alone⟩
    · rw [hex]
      exact (leavesEnd_readHex f digits r).of_tail_skip
    · rw [cls]
      exact leavesEnd_readClass d f negated r
    · rw [edge]
      exact (leavesEnd_readEdge f.verbose r).map fun edge => Atom.look (.word edge f.word)
    · rw [alone]
      exact leavesEnd_map_value fun a => leavesEnd_some List.suffix_rfl

/-- An escape that is stuck stands for the side of a word. -/
theorem ahead_readEscape (d : Dialect) (f : Flags) (s : List Char) :
    Ahead u (readEscape d f (s ++ ')' :: u)) (readEscape d f s) ∨
      Stuck f.verbose u (readEscape d f (s ++ ')' :: u)) ∧
        ∀ x ∈ readEscape d f (s ++ ')' :: u), ∃ l, x.1 = .look l := by
  cases s with
  | nil => exact .inl (leavesEnd_readEscape d f (')' :: u)).ahead
  | cons c r =>
    rw [List.cons_append]
    rcases readEscape_cases d f c with ⟨digits, hex⟩ | ⟨negated, cls⟩ | edge | ⟨o, alone⟩
    · rw [hex, hex]
      exact .inl (ahead_readHex f digits r)
    · rw [cls, cls]
      exact .inl (ahead_readClass d f negated r)
    · rw [edge, edge]
      rcases ahead_readEdge (u := u) f.verbose r with ahead | ⟨side, left, stuck, blank⟩
      · exact .inl (ahead.map fun edge => Atom.look (.word edge f.word))
      · rw [stuck]
        refine .inr ⟨⟨.look (.word side f.word), left, rfl, blank⟩, fun x hx => ?_⟩
        cases hx
        exact ⟨_, rfl⟩
    · rw [alone, alone]
      exact .inl (ahead_map_value fun a => ahead_some a r)

end HeapScope.Pattern
