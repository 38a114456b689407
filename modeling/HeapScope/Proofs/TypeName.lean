import HeapScope.TypeDescriptor
import HeapScope.Proofs.Text.Trim
import Mathlib.Data.List.Induction

/-!
# Names of declared types

A declaration is read one mark at a time by `readDeclared`: trimmed, it either ends with a question
mark, which makes the type that is named ahead of it nullable, or it is the name of a plain type.
The type of a declaration is found at once, from the text without all marks and blanks behind it and
from whether there is a mark among them. The two agree, as blanks around a text change nothing and
neither does a second mark.

Declared types are in normal form, so the name of one names it again.
-/

namespace HeapScope.TypeDescriptor

variable {c : Char} {s t : List Char}

/-! ## One character more -/

/-- The plain type that is named, marks behind the name apart. -/
def bareType (s : List Char) : TypeDescriptor :=
  ofKind (String.ofList (bareName s)) (.ofDeclaredName (String.ofList (bareName s)))

/-- A name is read by the type of what is left without its marks, and by whether it has one. -/
theorem ofName_ofList (s : List Char) :
    ofName (String.ofList s) =
      if isMarked s = true then toNullable (bareType s) else bareType s := by
  rw [ofName, String.toList_ofList]
  rfl

/-- A nullable type stays what it is. -/
theorem toNullable_toNullable (t : TypeDescriptor) : toNullable (toNullable t) = toNullable t := by
  cases t <;> rfl

/-- A name that is made nullable is that of its bare type, made nullable. -/
theorem toNullable_ofName (s : List Char) :
    toNullable (ofName (String.ofList s)) = toNullable (bareType s) := by
  rw [ofName_ofList]
  split
  · exact toNullable_toNullable _
  · rfl

/-- A blank or a mark at the end is not part of the bare name. -/
theorem bareName_append_singleton (trailing : Text.isBlank c = true ∨ c = '?') :
    bareName (s ++ [c]) = bareName s := by
  rw [bareName, List.reverse_append, List.reverse_singleton, List.singleton_append,
    List.dropWhile_cons_of_pos (by simpa using trailing), bareName]

/-- Nor is a blank in front. -/
theorem bareName_cons_blank (blank : Text.isBlank c = true) : bareName (c :: s) = bareName s := by
  rw [bareName, bareName, List.reverse_cons, List.dropWhile_append]
  split
  case isTrue none_left =>
    rw [List.isEmpty_iff.1 none_left, List.dropWhile_cons_of_pos (by simp [blank])]
    rfl
  case isFalse =>
    rw [List.reverse_append, List.reverse_singleton, List.singleton_append,
      List.dropWhile_cons_of_pos blank]

/-- A blank at the end is no mark and hides none. -/
theorem isMarked_append_blank (blank : Text.isBlank c = true) :
    isMarked (s ++ [c]) = isMarked s := by
  rw [isMarked, List.reverse_append, List.reverse_singleton, List.singleton_append,
    List.dropWhile_cons_of_pos blank, isMarked]

/-- A mark at the end is one. -/
theorem isMarked_append_mark : isMarked (s ++ ['?']) = true := by
  have visible : ¬ Text.isBlank '?' = true := by decide
  rw [isMarked, List.reverse_append, List.reverse_singleton, List.singleton_append,
    List.dropWhile_cons_of_neg visible, List.head?_cons]
  rfl

/-- A blank in front is no mark. -/
theorem isMarked_cons_blank (blank : Text.isBlank c = true) : isMarked (c :: s) = isMarked s := by
  rw [isMarked, isMarked, List.reverse_cons, List.dropWhile_append]
  cases s.reverse.dropWhile Text.isBlank with
  | nil =>
    rw [if_pos List.isEmpty_nil, List.dropWhile_cons_of_pos blank]
    rfl
  | cons => rfl

/-- A blank at the end changes no type. -/
theorem ofName_append_blank (blank : Text.isBlank c = true) :
    ofName (String.ofList (s ++ [c])) = ofName (String.ofList s) := by
  rw [ofName_ofList, ofName_ofList, isMarked_append_blank blank, bareType, bareType,
    bareName_append_singleton (.inl blank)]

/-- A mark at the end makes a type nullable. -/
theorem ofName_append_mark (s : List Char) :
    ofName (String.ofList (s ++ ['?'])) = toNullable (ofName (String.ofList s)) := by
  rw [toNullable_ofName, ofName_ofList, if_pos isMarked_append_mark, bareType, bareType,
    bareName_append_singleton (.inr rfl)]

/-- A blank in front changes no type. -/
theorem ofName_cons_blank (blank : Text.isBlank c = true) :
    ofName (String.ofList (c :: s)) = ofName (String.ofList s) := by
  rw [ofName_ofList, ofName_ofList, isMarked_cons_blank blank, bareType, bareType,
    bareName_cons_blank blank]

/-! ## Any number of them -/

/-- Behind a name, marks and blanks make one wrapper if there is a mark among them. -/
theorem ofName_append (trailing : ∀ c ∈ t, Text.isBlank c = true ∨ c = '?') :
    ofName (String.ofList (s ++ t)) =
      if '?' ∈ t then toNullable (ofName (String.ofList s)) else ofName (String.ofList s) := by
  induction t using List.reverseRecOn with
  | nil => rw [List.append_nil, if_neg List.not_mem_nil]
  | append_singleton t c ih =>
    have ahead := ih fun d mem => trailing d (List.mem_append_left _ mem)
    rw [← List.append_assoc]
    rcases trailing c (List.mem_append_right _ List.mem_cons_self) with blank | rfl
    · have no_mark : '?' ≠ c := by
        rintro rfl
        exact absurd blank (by decide)
      rw [ofName_append_blank blank, ahead]
      simp [no_mark]
    · rw [ofName_append_mark, ahead, if_pos (List.mem_append_right _ List.mem_cons_self)]
      split
      · exact toNullable_toNullable _
      · rfl

/-- Blanks in front change no type, however many. -/
theorem ofName_gap_append (blanks : Text.IsGap t) (s : List Char) :
    ofName (String.ofList (t ++ s)) = ofName (String.ofList s) := by
  induction t with
  | nil => rfl
  | cons c t ih =>
    rw [List.cons_append, ofName_cons_blank (blanks c List.mem_cons_self)]
    exact ih fun d mem => blanks d (List.mem_cons_of_mem c mem)

/-- Blanks around a name are no part of it. -/
theorem ofName_trim (s : List Char) :
    ofName (String.ofList (Text.trim s)) = ofName (String.ofList s) := by
  obtain ⟨lead, trail, front, back, whole⟩ := Text.exists_gaps_trim s
  have no_mark : '?' ∉ trail := fun mem => absurd (back _ mem) (by decide)
  conv_rhs => rw [whole]
  rw [ofName_gap_append front, ofName_append fun c mem => .inl (back c mem), if_neg no_mark]

/-! ## One mark at a time -/

/-- A trimmed text that ends with a mark is shorter without it than the text was. -/
theorem length_dropLast_trim_lt (marked : (Text.trim s).getLast? = some '?') :
    (Text.trim s).dropLast.length < s.length := by
  obtain ⟨ahead, whole⟩ := List.getLast?_eq_some_iff.1 marked
  have shorter := Text.length_trim_le s
  rw [whole, List.length_append, List.length_singleton] at shorter
  rw [whole, List.dropLast_concat]
  exact shorter

/-- The type that a declaration names, read one mark at a time. -/
def readDeclared (s : List Char) : TypeDescriptor :=
  let t := Text.trim s
  if _h : t.getLast? = some '?' then toNullable (readDeclared t.dropLast)
  else ofKind (String.ofList t) (.ofDeclaredName (String.ofList t))
termination_by s.length
decreasing_by exact length_dropLast_trim_lt _h

/-- A name of a plain type: trimmed, and without a mark behind it. -/
structure IsBareName (s : List Char) : Prop where
  trimmed : Text.IsTrimmed s
  unmarked : s.getLast? ≠ some '?'

/-- The name of a plain type names it. -/
theorem ofName_of_isBareName (h : IsBareName s) :
    ofName (String.ofList s) = ofKind (String.ofList s) (.ofDeclaredName (String.ofList s)) := by
  have visible : ∀ c, s.reverse.head? = some c → Text.isBlank c = false := fun c last =>
    h.trimmed.ends c (by rwa [List.head?_reverse] at last)
  have kept : ∀ c, s.reverse.head? = some c → (Text.isBlank c || c = '?') = false := by
    intro c last
    have no_mark : c ≠ '?' := by
      rintro rfl
      exact h.unmarked (by rwa [List.head?_reverse] at last)
    simp [visible c last, no_mark]
  have name : bareName s = s := by
    rw [bareName, Text.dropWhile_eq_self kept, List.reverse_reverse,
      Text.dropWhile_eq_self h.trimmed.opens]
  have unmarked : ¬ isMarked s = true := by
    rw [isMarked, Text.dropWhile_eq_self visible, List.head?_reverse, beq_iff_eq]
    exact h.unmarked
  rw [ofName_ofList, if_neg unmarked, bareType, name]

/-- A declaration names the type that is found by reading it one mark at a time. -/
theorem ofName_eq_readDeclared (s : List Char) : ofName (String.ofList s) = readDeclared s := by
  fun_induction readDeclared s with
  | case1 s t marked ih =>
    obtain ⟨ahead, whole⟩ := List.getLast?_eq_some_iff.1 marked
    rw [whole, List.dropLast_concat] at ih ⊢
    rw [← ofName_trim, ← ih, ← ofName_append_mark]
    exact congrArg (fun t => ofName (String.ofList t)) whole
  | case2 s t unmarked =>
    rw [← ofName_trim]
    exact ofName_of_isBareName ⟨Text.isTrimmed_trim s, unmarked⟩

/-! ## Normal form -/

/-- The bare name of a text has no blanks and no marks at its ends. -/
theorem isBareName_bareName (s : List Char) : IsBareName (bareName s) := by
  have ends {c : Char} (last : (bareName s).getLast? = some c) :
      (Text.isBlank c || c = '?') = false := by
    have kept := Text.getLast?_of_getLast?_dropWhile last
    rw [List.getLast?_reverse] at kept
    exact Text.not_of_head?_dropWhile kept
  refine ⟨⟨fun c first => Text.not_of_head?_dropWhile first, fun c last => ?_⟩, fun marked => ?_⟩
  · exact (Bool.or_eq_false_iff.1 (ends last)).1
  · exact absurd (ends marked) (by decide)

/-- A type in normal form: a plain one with the name of a plain type, or a wrapper around such a
type that adds a mark to its name. -/
inductive IsNormal : TypeDescriptor → Prop
  | plain {head : TypeHead} {kind : TypeKind} (bare : IsBareName head.name.toList) :
    IsNormal (plain head kind)
  | nullable {head inner : TypeHead} {kind : TypeKind} (bare : IsBareName inner.name.toList)
    (marked : head.name = inner.name ++ "?") : IsNormal (nullable head (.plain inner kind))

/-- The type of every name is in normal form. -/
theorem isNormal_ofName (s : String) : (ofName s).IsNormal := by
  have bare : IsBareName (String.ofList (bareName s.toList)).toList :=
    String.toList_ofList ▸ isBareName_bareName s.toList
  rw [← String.ofList_toList (s := s), ofName_ofList]
  split
  · exact .nullable bare rfl
  · exact .plain bare

/-- A question mark behind a name makes its type nullable. -/
theorem ofName_append_questionMark (s : String) : ofName (s ++ "?") = toNullable (ofName s) := by
  have whole : s ++ "?" = String.ofList (s.toList ++ ['?']) := by
    rw [String.ofList_append, String.ofList_toList]
  rw [whole, ofName_append_mark, String.ofList_toList]

/-- The name of a declared type names it again. -/
theorem ofName_name (s : String) : ofName (ofName s).name = ofName s := by
  have again : ofName (bareType s.toList).name = bareType s.toList :=
    ofName_of_isBareName (isBareName_bareName s.toList)
  rw [← String.ofList_toList (s := s), ofName_ofList]
  split
  · show ofName ((bareType s.toList).name ++ "?") = _
    rw [ofName_append_questionMark, again]
  · exact again

/-- A declaration names the type that is found by reading it one mark at a time. The type is in
normal form, and its name names it again. A mark more makes the type nullable if it is not so
already, and whatever marks and blanks stand behind a name, there is one wrapper at most. -/
theorem declared_in_normal_form :
    (∀ s : String, ofName s = readDeclared s.toList) ∧
      (∀ s : String, (ofName s).IsNormal) ∧
      (∀ s : String, ofName (ofName s).name = ofName s) ∧
      (∀ s : String, ofName (s ++ "?") = toNullable (ofName s)) ∧
      ∀ s t : String, (∀ c ∈ t.toList, Text.isBlank c = true ∨ c = '?') →
        ofName (s ++ t) = if '?' ∈ t.toList then toNullable (ofName s) else ofName s := by
  refine ⟨fun s => ?_, isNormal_ofName, ofName_name, ofName_append_questionMark,
    fun s t trailing => ?_⟩
  · rw [← ofName_eq_readDeclared, String.ofList_toList]
  · have joined := ofName_append (s := s.toList) trailing
    rwa [String.ofList_append, String.ofList_toList, String.ofList_toList] at joined

/-- Two marks with blanks between and around them make one wrapper. -/
theorem declared_in_normal_form_two_marks :
    (∀ c ∈ " ? ?\t".toList, Text.isBlank c = true ∨ c = '?') ∧
      ofName ("kotlin.Int" ++ " ? ?\t") = toNullable (primitive .int) := by
  have trailing : ∀ c ∈ " ? ?\t".toList, Text.isBlank c = true ∨ c = '?' := by
    have all : (" ? ?\t".toList.all fun c => Text.isBlank c || c == '?') = true := by decide
    intro c mem
    simpa using List.all_eq_true.1 all c mem
  refine ⟨trailing, ?_⟩
  rw [declared_in_normal_form.2.2.2.2 _ _ trailing, if_pos (by decide)]
  decide

end HeapScope.TypeDescriptor
