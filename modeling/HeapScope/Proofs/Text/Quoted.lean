import HeapScope.Proofs.Text.Numeral
import HeapScope.Text.Quoted
import Mathlib.Tactic.SplitIfs

/-!
# Reading quoted text

A quoted text is read from its front, one character after the other, up to the quote that ends it.
What it was written for is read back, and so is what stands behind it, whichever characters are
spelt out.
-/

namespace HeapScope.Text.Quoted

/-- The character that a letter behind a backslash stands for. -/
def unescape (l : Char) : Option Char :=
  if l = '"' then some '"'
  else if l = '\\' then some '\\'
  else if l = 't' then some '\t'
  else if l = 'r' then some '\r'
  else if l = 'n' then some '\n'
  else if l = '0' then some (Char.ofNat 0)
  else none

/-- Where a reader of quoted text stands: between two characters, behind a backslash, in front of
the brace of a code point, or among its digits. -/
inductive Place where
  | between
  | escaped
  | spelling
  | digits (value : Nat)
deriving DecidableEq, Repr

/-- Reads quoted text from some place up to the quote that ends it, and hands on what is behind. -/
def unquoteFrom : Place → List Char → Option (List Char × List Char)
  | _, [] => none
  | .between, c :: r =>
    if c = '"' then some ([], r)
    else if c = '\\' then unquoteFrom .escaped r
    else (unquoteFrom .between r).map fun found => (c :: found.1, found.2)
  | .escaped, l :: r =>
    if l = 'u' then unquoteFrom .spelling r
    else (unescape l).bind fun c =>
      (unquoteFrom .between r).map fun found => (c :: found.1, found.2)
  | .spelling, c :: r => if c = openBrace then unquoteFrom (.digits 0) r else none
  | .digits n, c :: r =>
    if c = closeBrace then
      (unquoteFrom .between r).map fun found => (Char.ofNat n :: found.1, found.2)
    else (digitValue c).bind fun d => unquoteFrom (.digits (n * 16 + d)) r

/-- Reads a text with its quotes, and hands on what is behind. -/
def unquote : List Char → Option (List Char × List Char)
  | '"' :: r => unquoteFrom .between r
  | _ => none

/-! ## What was written is read -/

/-- A letter behind a backslash is read as the character that it was written for. -/
theorem unescape_escapeLetter {c l : Char} (h : escapeLetter c = some l) :
    unescape l = some c ∧ l ≠ 'u' := by
  unfold escapeLetter at h
  split_ifs at h with quote backslash tab cr lf null <;> cases h <;> subst c <;> decide

/-- Any other character is neither a quote nor a backslash. -/
theorem ne_of_escapeLetter_eq_none {c : Char} (h : escapeLetter c = none) : c ≠ '"' ∧ c ≠ '\\' := by
  refine ⟨fun quote => ?_, fun backslash => ?_⟩
  · subst quote
    exact absurd h (by decide)
  · subst backslash
    exact absurd h (by decide)

/-- A digit of a code point counts behind those before it. -/
theorem unquoteFrom_digitChar {d : Nat} (small : d < 16) (value : Nat) (r : List Char) :
    unquoteFrom (.digits value) (digitChar d :: r) = unquoteFrom (.digits (value * 16 + d)) r := by
  have inner : ∀ d : Fin 16, digitChar d ≠ closeBrace := by decide +kernel
  rw [unquoteFrom, if_neg (inner ⟨d, small⟩), digitValue_digitChar (by omega), Option.bind_some]

/-- The digits of a code point are read as its number. -/
theorem unquoteFrom_writeDigits (n : Nat) (r : List Char) :
    unquoteFrom (.digits 0) (writeDigits 16 n ++ r) = unquoteFrom (.digits n) r := by
  induction n using Nat.strongRecOn generalizing r with
  | _ n ih =>
    by_cases single : n < 16
    · rw [writeDigits_of_lt single, List.singleton_append, unquoteFrom_digitChar single,
        Nat.zero_mul, Nat.zero_add]
    · rw [writeDigits_of_le (by omega) (by omega), List.append_assoc, ih (n / 16) (by omega),
        List.singleton_append, unquoteFrom_digitChar (by omega), Nat.div_add_mod']

/-- One character is read as it was written. -/
theorem unquoteFrom_encodeChar (spelt : Char → Bool) (c : Char) (r : List Char) :
    unquoteFrom .between (encodeChar spelt c ++ r) =
      (unquoteFrom .between r).map fun found => (c :: found.1, found.2) := by
  rw [encodeChar]
  split
  case h_1 l hl =>
    obtain ⟨back, plain⟩ := unescape_escapeLetter hl
    rw [List.cons_append, List.singleton_append, unquoteFrom, if_neg (by decide), if_pos rfl,
      unquoteFrom, if_neg plain, back, Option.bind_some]
  case h_2 none =>
    obtain ⟨quote, backslash⟩ := ne_of_escapeLetter_eq_none none
    split
    · simp only [List.cons_append, List.append_assoc]
      rw [unquoteFrom, if_neg (by decide), if_pos rfl, unquoteFrom, if_pos rfl, unquoteFrom,
        if_pos rfl, unquoteFrom_writeDigits, List.nil_append, unquoteFrom, if_pos rfl,
        Char.ofNat_toNat]
    · rw [List.singleton_append, unquoteFrom, if_neg quote, if_neg backslash]

/-- A quoted text is read as what it was written for, whatever stands behind it and whichever
characters are spelt out. -/
theorem unquote_quote_append (spelt : Char → Bool) (s r : List Char) :
    unquote (quote spelt s ++ r) = some (s, r) := by
  have inside : unquoteFrom .between (encode spelt s ++ '"' :: r) = some (s, r) := by
    induction s with
    | nil => rfl
    | cons c s ih =>
      rw [encode, List.flatMap_cons, List.append_assoc, unquoteFrom_encodeChar, ← encode, ih]
      rfl
  rw [quote, List.cons_append, List.append_assoc, List.singleton_append]
  exact inside

end HeapScope.Text.Quoted
