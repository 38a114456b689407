import HeapScope.Proofs.Text.Words

/-!
# Trimmed texts

A text is trimmed if neither of its ends is blank. Trimming makes a text trimmed and leaves a
trimmed one as it is; each end is looked after by itself, as dropping characters at one end leaves
the other where it was.
-/

namespace HeapScope.Text

variable {c : Char} {s w : List Char} {p : Char → Bool}

/-- The first character that is not dropped fails the test. -/
theorem not_of_head?_dropWhile (h : (s.dropWhile p).head? = some c) : p c = false := by
  simpa [h] using List.head?_dropWhile_not p s

/-- Dropping characters in front leaves the last one, if any is left. -/
theorem getLast?_of_getLast?_dropWhile (h : (s.dropWhile p).getLast? = some c) :
    s.getLast? = some c := by
  obtain ⟨dropped, whole⟩ := List.dropWhile_suffix p (l := s)
  rw [← whole, List.getLast?_append, h]
  rfl

/-- A text is trimmed if it opens with no blank and ends with none. -/
structure IsTrimmed (s : List Char) : Prop where
  opens : ∀ c, s.head? = some c → isBlank c = false
  ends : ∀ c, s.getLast? = some c → isBlank c = false

/-- A word has no blanks at its ends. -/
theorem IsWord.isTrimmed (h : IsWord w) : IsTrimmed w :=
  ⟨fun c first => h.unbroken c (List.mem_of_mem_head? first),
    fun c last => h.unbroken c (List.mem_of_mem_getLast? last)⟩

/-- Nothing is dropped from a text that opens with no such character. -/
theorem dropWhile_eq_self (h : ∀ c, s.head? = some c → p c = false) : s.dropWhile p = s := by
  cases s with
  | nil => rfl
  | cons c r => rw [List.dropWhile_cons, h c rfl]; rfl

/-- Trimming leaves no blanks at the ends. -/
theorem isTrimmed_trim (s : List Char) : IsTrimmed (trim s) := by
  constructor
  · intro c first
    rw [trim, trimEnd, List.head?_reverse] at first
    have kept := getLast?_of_getLast?_dropWhile first
    rw [List.getLast?_reverse] at kept
    exact not_of_head?_dropWhile kept
  · intro c last
    rw [trim, trimEnd, List.getLast?_reverse] at last
    exact not_of_head?_dropWhile last

/-- Where there are none, trimming changes nothing. -/
theorem trim_eq_self (h : IsTrimmed s) : trim s = s := by
  have front := dropWhile_eq_self h.opens
  have back : s.reverse.dropWhile isBlank = s.reverse :=
    dropWhile_eq_self fun c last => h.ends c (by rwa [List.head?_reverse] at last)
  rw [trim, front, trimEnd, back, List.reverse_reverse]

/-- The blanks in front of a text are a gap. -/
theorem isGap_takeWhile (s : List Char) : IsGap (s.takeWhile isBlank) := fun _ mem =>
  List.all_eq_true.1 List.all_takeWhile _ mem

/-- Trimming drops blanks at both ends. -/
theorem exists_gaps_trim (s : List Char) :
    ∃ lead trail, IsGap lead ∧ IsGap trail ∧ s = lead ++ (trim s ++ trail) := by
  have front := List.takeWhile_append_dropWhile (p := isBlank) (l := s)
  have back := congrArg List.reverse
    (List.takeWhile_append_dropWhile (p := isBlank) (l := (s.dropWhile isBlank).reverse))
  rw [List.reverse_append, List.reverse_reverse] at back
  refine ⟨s.takeWhile isBlank, ((s.dropWhile isBlank).reverse.takeWhile isBlank).reverse,
    isGap_takeWhile s, fun c mem => isGap_takeWhile _ c (List.mem_reverse.1 mem), ?_⟩
  rw [trim, trimEnd, back, front]

/-- Trimming makes no text longer. -/
theorem length_trim_le (s : List Char) : (trim s).length ≤ s.length := by
  obtain ⟨lead, trail, -, -, whole⟩ := exists_gaps_trim s
  have lengths := congrArg List.length whole
  rw [List.length_append, List.length_append] at lengths
  omega

end HeapScope.Text
