import HeapScope.Text.Blank

/-!
# Words of a text

Wherever a text is cut at a blank, its words are those ahead of the blank and those behind it.
Everything about words follows from this one equation: a line is made of words with blanks between
them, and its words are those that it is made of.
-/

namespace HeapScope.Text

variable {c : Char} {s t w : List Char}

/-- A text is a word if it has characters and none of them is blank. -/
structure IsWord (w : List Char) : Prop where
  nonempty : w ≠ []
  unbroken : ∀ c ∈ w, isBlank c = false

/-- A word is known by a look at each of its characters. -/
theorem isWord_iff : IsWord w ↔ w.isEmpty = false ∧ w.all (!isBlank ·) = true := by
  rw [List.isEmpty_eq_false_iff, List.all_eq_true]
  simp only [Bool.not_eq_true']
  exact ⟨fun h => ⟨h.nonempty, h.unbroken⟩, fun h => ⟨h.1, h.2⟩⟩

instance (w : List Char) : Decidable (IsWord w) := decidable_of_iff' _ isWord_iff

/-- A word in front of some words is in front of more. -/
theorem consWord_append (w : List Char) (ws us : List (List Char)) :
    consWord w (ws ++ us) = consWord w ws ++ us := by
  rw [consWord, consWord]
  split <;> rfl

/-- The words ahead of a blank and those behind it are the words of a text. -/
theorem words_append_blank (blank : isBlank c = true) (s t : List Char) :
    words (s ++ c :: t) = words s ++ words t := by
  -- the run that the text opens with ends ahead of the blank
  have split : splitFirst (s ++ c :: t) = ((splitFirst s).1, (splitFirst s).2 ++ words t) := by
    induction s with
    | nil =>
      show splitFirst (c :: t) = ([], words t)
      rw [splitFirst]
      exact if_pos blank
    | cons d s ih =>
      rw [List.cons_append, splitFirst, splitFirst, ih]
      dsimp only
      split
      · rw [consWord_append]
      · rfl
  rw [words, split]
  exact consWord_append _ _ _

/-- A blank in front belongs to no word. -/
theorem words_cons_blank (blank : isBlank c = true) (s : List Char) : words (c :: s) = words s :=
  words_append_blank blank [] s

/-- Blank characters, maybe none. -/
def IsGap (s : List Char) : Prop := ∀ c ∈ s, isBlank c = true

instance (s : List Char) : Decidable (IsGap s) :=
  decidable_of_iff (s.all isBlank = true) List.all_eq_true

/-- Blanks in front of a text do not change its words. -/
theorem words_gap_append (blanks : IsGap t) (s : List Char) : words (t ++ s) = words s := by
  induction t with
  | nil => rfl
  | cons c t ih =>
    rw [List.cons_append, words_cons_blank (blanks c List.mem_cons_self)]
    exact ih fun d mem => blanks d (List.mem_cons_of_mem c mem)

/-- Nor does one blank, repeated. -/
theorem words_replicate_append (blank : isBlank c = true) (count : Nat) (s : List Char) :
    words (List.replicate count c ++ s) = words s :=
  words_gap_append (fun _ mem => List.eq_of_mem_replicate mem ▸ blank) s

/-- A word is its only word. -/
theorem words_of_isWord (h : IsWord w) : words w = [w] := by
  have whole : ∀ w : List Char, (∀ c ∈ w, isBlank c = false) → splitFirst w = (w, []) := by
    intro w
    induction w with
    | nil => exact fun _ => rfl
    | cons c r ih =>
      intro unbroken
      rw [splitFirst, ih fun d hd => unbroken d (List.mem_cons_of_mem c hd),
        unbroken c List.mem_cons_self]
      rfl
  have some_char : w.isEmpty = false := by simpa using h.nonempty
  rw [words, whole w h.unbroken, consWord, some_char]
  rfl

/-- A word that ends at a blank is the first one. -/
theorem words_word_append (h : IsWord w) (blank : isBlank c = true) (s : List Char) :
    words (w ++ c :: s) = w :: words s := by
  rw [words_append_blank blank, words_of_isWord h, List.singleton_append]

/-- The run of characters that a text opens with, if it opens with no blank, is its first word. -/
theorem exists_words_eq_cons (opens : isBlank c = false) (s : List Char) :
    ∃ rest, words (c :: s) = (c :: s).takeWhile (!isBlank ·) :: rest := by
  have word : IsWord ((c :: s).takeWhile (!isBlank ·)) := by
    refine ⟨by simp [opens], fun d hd => ?_⟩
    simpa using List.all_eq_true.1 List.all_takeWhile d hd
  have split := List.takeWhile_append_dropWhile (p := (!isBlank ·)) (l := c :: s)
  cases behind : (c :: s).dropWhile (!isBlank ·) with
  | nil =>
    rw [behind, List.append_nil] at split
    rw [split] at word ⊢
    exact ⟨[], words_of_isWord word⟩
  | cons d r =>
    have blank : isBlank d = true := by
      simpa [behind] using List.head?_dropWhile_not (!isBlank ·) (c :: s)
    rw [behind] at split
    have first := words_word_append word blank r
    rw [split] at first
    exact ⟨words r, first⟩

/-! ## Lines of words -/

/-- A line of words opens with the first one. Behind the last one blanks may follow, and behind
another at least one has to. -/
inductive IsLine : List (List Char) → List Char → Prop
  | last {w g : List Char} (word : IsWord w) (blanks : IsGap g) : IsLine [w] (w ++ g)
  | more {w g s : List Char} {ws : List (List Char)} (word : IsWord w) (blanks : IsGap g)
    (some_blank : g ≠ []) (rest : IsLine ws s) : IsLine (w :: ws) (w ++ (g ++ s))

/-- Blanks alone have no words. -/
theorem words_of_isGap (blanks : IsGap s) : words s = [] := by
  simpa [words, splitFirst, consWord] using words_gap_append blanks []

/-- The words of a line are those that it is made of. -/
theorem words_of_isLine {ws : List (List Char)} (h : IsLine ws s) : words s = ws := by
  induction h with
  | @last w gap word blanks =>
    cases gap with
    | nil => rw [List.append_nil, words_of_isWord word]
    | cons c gap =>
      have blank := blanks c List.mem_cons_self
      have behind : IsGap gap := fun d mem => blanks d (List.mem_cons_of_mem c mem)
      rw [words_word_append word blank, words_of_isGap behind]
  | @more w gap s ws word blanks some_blank rest ih =>
    cases gap with
    | nil => exact absurd rfl some_blank
    | cons c gap =>
      have blank := blanks c List.mem_cons_self
      have between : IsGap gap := fun d mem => blanks d (List.mem_cons_of_mem c mem)
      rw [List.cons_append, words_word_append word blank, words_gap_append between, ih]

/-- A run of characters in front of words is a word, unless it is empty and left out. -/
theorem isWord_of_mem_consWord {v : List Char} {ws : List (List Char)}
    (run : ∀ c ∈ v, isBlank c = false) (others : ∀ w ∈ ws, IsWord w) (mem : w ∈ consWord v ws) :
    IsWord w := by
  rw [consWord] at mem
  split at mem
  case isTrue => exact others w mem
  case isFalse some_char =>
    rcases List.mem_cons.1 mem with rfl | mem
    · exact ⟨by simpa using some_char, run⟩
    · exact others w mem

/-- What a text is split into first holds no blanks, and the rest are words. -/
theorem splitFirst_spec (s : List Char) :
    (∀ c ∈ (splitFirst s).1, isBlank c = false) ∧ ∀ w ∈ (splitFirst s).2, IsWord w := by
  induction s with
  | nil => exact ⟨nofun, nofun⟩
  | cons c s ih =>
    obtain ⟨run, others⟩ := ih
    rw [splitFirst]
    dsimp only
    split
    case isTrue => exact ⟨nofun, fun _ => isWord_of_mem_consWord run others⟩
    case isFalse visible =>
      refine ⟨fun d mem => ?_, others⟩
      rcases List.mem_cons.1 mem with rfl | mem
      · exact Bool.eq_false_iff.2 visible
      · exact run d mem

/-- The words of a text are words. -/
theorem isWord_of_mem_words (h : w ∈ words s) : IsWord w :=
  isWord_of_mem_consWord (splitFirst_spec s).1 (splitFirst_spec s).2 h

/-- Words with single spaces between them are a line. -/
theorem isLine_unwords {ws : List (List Char)} (some_word : ws ≠ []) (all : ∀ w ∈ ws, IsWord w) :
    IsLine ws (unwords ws) := by
  induction ws with
  | nil => exact absurd rfl some_word
  | cons w ws ih =>
    have word := all w List.mem_cons_self
    cases ws with
    | nil =>
      have line : IsLine [w] (w ++ []) := .last word nofun
      rwa [List.append_nil] at line
    | cons v ws =>
      have rest := ih (List.cons_ne_nil v ws) fun u mem => all u (List.mem_cons_of_mem w mem)
      have space : IsGap [' '] := List.forall_mem_singleton.2 (by decide)
      exact .more word space (List.cons_ne_nil _ _) rest

end HeapScope.Text
