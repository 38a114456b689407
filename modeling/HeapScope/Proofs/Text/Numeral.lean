import HeapScope.Text.Numeral
import Mathlib.Data.List.Induction

/-!
# Digits and numerals

`Digits` says which characters are digits of a base and which number they are worth, the last digit
once and those ahead of it as often as the base says. The digits that are written for a number are
worth that number, and reading goes through digits in the same way, so what is read is known: the
digits whose number fits 64 bits, and that number. A numeral has digits, and maybe a plus sign ahead
of them.

Digits below ten are worth at least as much in a greater base. So a decimal numeral that does not
fit 64 bits does not fit in hexadecimal either.
-/

namespace HeapScope.Text

variable {base d m n : Nat} {c : Char} {s : List Char}

/-! ## Written digits -/

/-- A digit is read back as what was written. -/
theorem digitValue_digitChar (small : d < 36) : digitValue (digitChar d) = some d := by
  have all : ∀ d : Fin 36, digitValue (digitChar d) = some d.val := by decide +kernel
  exact all ⟨d, small⟩

/-- A number below the base is written with one digit. -/
theorem writeDigits_of_lt (h : n < base) : writeDigits base n = [digitChar n] := by
  rw [writeDigits, dif_pos (.inl h)]

/-- A number of several digits ends with the one for its remainder. -/
theorem writeDigits_of_le (wide : 2 ≤ base) (h : base ≤ n) :
    writeDigits base n = writeDigits base (n / base) ++ [digitChar (n % base)] := by
  rw [writeDigits, dif_neg (by omega)]

/-- Every number has a digit. -/
theorem writeDigits_ne_nil (base n : Nat) : writeDigits base n ≠ [] := by
  rw [writeDigits]
  split <;> simp

/-- Each character of a number is a digit below the base. -/
theorem exists_of_mem_writeDigits (wide : 2 ≤ base) (h : c ∈ writeDigits base n) :
    ∃ d < base, c = digitChar d := by
  induction n using Nat.strongRecOn with
  | _ n ih =>
    by_cases single : n < base
    · rw [writeDigits_of_lt single, List.mem_singleton] at h
      exact ⟨n, single, h⟩
    · rw [writeDigits_of_le wide (Nat.le_of_not_lt single), List.mem_append,
        List.mem_singleton] at h
      rcases h with front | last
      · exact ih (n / base) (Nat.div_lt_self (by omega) wide) front
      · exact ⟨n % base, Nat.mod_lt n (by omega), last⟩

/-- No number is written with a certain character if no digit is. -/
theorem not_mem_writeDigits (wide : 2 ≤ base) (strange : ∀ d < base, c ≠ digitChar d) (n : Nat) :
    c ∉ writeDigits base n := fun h =>
  let ⟨d, small, same⟩ := exists_of_mem_writeDigits wide h
  strange d small same

/-- A padded number has a digit. -/
theorem padHex_ne_nil (width n : Nat) : padHex width n ≠ [] :=
  List.append_ne_nil_of_right_ne_nil _ (writeDigits_ne_nil 16 n)

/-- A padded number is written with digits alone. -/
theorem exists_of_mem_padHex {width : Nat} (h : c ∈ padHex width n) :
    ∃ d < 16, c = digitChar d := by
  rcases List.mem_append.1 h with zero | digit
  · exact ⟨0, by decide, List.eq_of_mem_replicate zero⟩
  · exact exists_of_mem_writeDigits (by decide) digit

/-- A character that is no digit does not occur in a padded number. -/
theorem not_mem_padHex (strange : ∀ d < 16, c ≠ digitChar d) (width n : Nat) :
    c ∉ padHex width n := fun h =>
  let ⟨d, small, same⟩ := exists_of_mem_padHex h
  strange d small same

/-! ## Digits and their number -/

/-- A digit of a base is the character that it is written with; a letter may be of either case. -/
structure IsDigit (base : Nat) (c : Char) (d : Nat) : Prop where
  small : d < base
  written : c = digitChar d ∨ c = (digitChar d).toUpper

/-- Digits of a base, most significant first, and the number that they are worth. -/
inductive Digits (base : Nat) : List Char → Nat → Prop
  | empty : Digits base [] 0
  | further {s : List Char} {n : Nat} {c : Char} {d : Nat} (front : Digits base s n)
    (last : IsDigit base c d) : Digits base (s ++ [c]) (n * base + d)

/-- Characters are ordered by their code points. -/
theorem le_iff_toNat_le {a b : Char} : a ≤ b ↔ a.toNat ≤ b.toNat :=
  Char.le_def.trans UInt32.le_iff_toNat_le

/-- A character that is read as a digit is the one that the digit is written with. -/
theorem written_of_digitValue (h : digitValue c = some d) :
    c = digitChar d ∨ c = (digitChar d).toUpper := by
  have upper : ∀ d : Fin 36, 10 ≤ d.val → (digitChar d).toUpper = Char.ofNat (55 + d) := by
    decide +kernel
  rw [digitValue] at h
  simp only [le_iff_toNat_le] at h
  split at h
  case isTrue number =>
    cases h
    have range : 48 ≤ c.toNat ∧ c.toNat ≤ 57 := number
    refine .inl ?_
    rw [digitChar, if_pos (by omega), Nat.add_sub_cancel' range.1, Char.ofNat_toNat]
  case isFalse =>
    split at h
    case isTrue letter =>
      cases h
      have range : 97 ≤ c.toNat ∧ c.toNat ≤ 122 := letter
      refine .inl ?_
      rw [digitChar, if_neg (by omega), Nat.add_sub_cancel' (by omega), Char.ofNat_toNat]
    case isFalse =>
      split at h
      case isTrue letter =>
        cases h
        have range : 65 ≤ c.toNat ∧ c.toNat ≤ 90 := letter
        refine .inr ?_
        rw [upper ⟨c.toNat - 55, by omega⟩ (by dsimp only; omega), Nat.add_sub_cancel' (by omega),
          Char.ofNat_toNat]
      case isFalse => cases h

/-- The characters that are read as digits are those that digits are written with. -/
theorem isDigit_iff (narrow : base ≤ 36) :
    IsDigit base c d ↔ d < base ∧ digitValue c = some d := by
  constructor
  · rintro ⟨small, rfl | rfl⟩
    · exact ⟨small, digitValue_digitChar (by omega)⟩
    · have upper : ∀ d : Fin 36, digitValue (digitChar d).toUpper = some d.val := by decide +kernel
      exact ⟨small, upper ⟨d, by omega⟩⟩
  · rintro ⟨small, value⟩
    exact ⟨small, written_of_digitValue value⟩

/-- A character stands for one digit only, whatever the base. -/
theorem IsDigit.unique {b e : Nat} (narrow : base ≤ 36) (narrow' : b ≤ 36) (h : IsDigit base c d)
    (h' : IsDigit b c e) : d = e :=
  Option.some.inj (((isDigit_iff narrow).1 h).2.symm.trans ((isDigit_iff narrow').1 h').2)

/-- One more digit at the end multiplies by the base and adds its value. -/
theorem digits_append_singleton_iff :
    Digits base (s ++ [c]) n ↔ ∃ m d, Digits base s m ∧ IsDigit base c d ∧ n = m * base + d := by
  constructor
  · intro h
    generalize whole : s ++ [c] = t at h
    cases h with
    | empty => simp at whole
    | further front last =>
      obtain ⟨rfl, same⟩ := List.append_inj' whole rfl
      cases same
      exact ⟨_, _, front, last, rfl⟩
  · rintro ⟨m, d, front, last, rfl⟩
    exact .further front last

/-- No digits are worth nothing. -/
theorem digits_nil_iff : Digits base [] n ↔ n = 0 := by
  constructor
  · intro h
    generalize whole : ([] : List Char) = t at h
    cases h with
    | empty => rfl
    | further => simp at whole
  · rintro rfl
    exact .empty

namespace Digits

/-- Every character of digits is one. -/
theorem exists_of_mem (h : Digits base s n) (mem : c ∈ s) : ∃ d, IsDigit base c d := by
  induction h with
  | empty => cases mem
  | further front last ih =>
    rcases List.mem_append.1 mem with ahead | here
    · exact ih ahead
    · cases List.mem_singleton.1 here
      exact ⟨_, last⟩

/-- A character that is read as no digit does not occur among digits. -/
theorem not_mem (narrow : base ≤ 36) (strange : digitValue c = none) (h : Digits base s n) :
    c ∉ s := fun mem => by
  obtain ⟨d, digit⟩ := h.exists_of_mem mem
  rw [((isDigit_iff narrow).1 digit).2] at strange
  cases strange

/-- Digits are worth at least as much in a greater base. -/
theorem le_of_le {b : Nat} (smaller : base ≤ b) (narrow : b ≤ 36) (h : Digits base s n)
    (h' : Digits b s m) : n ≤ m := by
  induction h generalizing m with
  | empty => exact Nat.zero_le m
  | further front last ih =>
    obtain ⟨k, e, front', last', rfl⟩ := digits_append_singleton_iff.1 h'
    have same := last.unique (by omega) narrow last'
    have scaled := Nat.mul_le_mul (ih front') smaller
    omega

/-- Digits are worth one number. -/
theorem unique (narrow : base ≤ 36) (h : Digits base s n) (h' : Digits base s m) : n = m :=
  Nat.le_antisymm (h.le_of_le (Nat.le_refl base) narrow h')
    (h'.le_of_le (Nat.le_refl base) narrow h)

/-- Zeros in front are worth nothing. -/
theorem zeros_append (some_digit : 0 < base) (count : Nat) (h : Digits base s n) :
    Digits base (List.replicate count '0' ++ s) n := by
  induction h with
  | empty =>
    rw [List.append_nil]
    induction count with
    | zero => exact .empty
    | succ count ih =>
      have zero : IsDigit base '0' 0 := ⟨some_digit, .inl (by decide)⟩
      rw [List.replicate_succ']
      simpa using ih.further zero
  | further front last ih =>
    rw [← List.append_assoc]
    exact ih.further last

end Digits

/-- The digits that are written for a number are worth the number. -/
theorem digits_writeDigits (wide : 2 ≤ base) (n : Nat) : Digits base (writeDigits base n) n := by
  induction n using Nat.strongRecOn with
  | _ n ih =>
    have written : ∀ d < base, IsDigit base (digitChar d) d := fun d small => ⟨small, .inl rfl⟩
    by_cases single : n < base
    · rw [writeDigits_of_lt single]
      simpa using Digits.empty.further (written n single)
    · rw [writeDigits_of_le wide (Nat.le_of_not_lt single)]
      have front := ih (n / base) (Nat.div_lt_self (by omega) wide)
      have last := written (n % base) (Nat.mod_lt n (by omega))
      simpa only [Nat.div_add_mod'] using front.further last

/-- Zeros in front of a number do not change its value. -/
theorem digits_padHex (width n : Nat) : Digits 16 (padHex width n) n :=
  (digits_writeDigits (by decide) n).zeros_append (by decide) _

/-! ## Reading digits -/

/-- Digits are read from what the digits ahead of them are worth. -/
theorem readDigits_append (base value : Nat) (s t : List Char) :
    readDigits base value (s ++ t) =
      readDigits base value s >>= fun value => readDigits base value t := by
  induction s generalizing value with
  | nil => rfl
  | cons c s ih =>
    rw [List.cons_append, readDigits, readDigits]
    cases digitValue c with
    | none => rfl
    | some d =>
      dsimp only
      split
      · rfl
      · split
        · rfl
        · exact ih _

/-- One digit more is read if it is one and the number still fits. -/
theorem readDigits_singleton_ok_iff (narrow : base ≤ 36) {value : Nat} :
    readDigits base value [c] = .ok n ↔
      ∃ d, IsDigit base c d ∧ n = value * base + d ∧ n < UInt64.size := by
  simp only [isDigit_iff narrow]
  rw [readDigits]
  cases digitValue c with
  | none => simp
  | some d =>
    dsimp only
    split
    case isTrue large =>
      refine ⟨nofun, ?_⟩
      rintro ⟨_, ⟨small, same⟩, -⟩
      cases same
      omega
    case isFalse small =>
      split
      case isTrue large =>
        refine ⟨nofun, ?_⟩
        rintro ⟨_, ⟨-, same⟩, rfl, fits⟩
        cases same
        omega
      case isFalse fits =>
        rw [readDigits, Except.ok.injEq]
        constructor
        · rintro rfl
          exact ⟨d, ⟨by omega, rfl⟩, rfl, by omega⟩
        · rintro ⟨_, ⟨-, same⟩, rfl, -⟩
          cases same
          rfl

/-- Digits are read if their number fits 64 bits, and as that number. -/
theorem readDigits_ok_iff (some_digit : 0 < base) (narrow : base ≤ 36) :
    readDigits base 0 s = .ok n ↔ Digits base s n ∧ n < UInt64.size := by
  -- on the digits from the front, so that what is read last is the last of them
  induction s using List.reverseRecOn generalizing n with
  | nil =>
    rw [readDigits, digits_nil_iff, Except.ok.injEq]
    constructor
    · rintro rfl
      exact ⟨rfl, by decide⟩
    · exact fun h => h.1.symm
  | append_singleton s c ih =>
    rw [readDigits_append, digits_append_singleton_iff]
    constructor
    · intro h
      cases front : readDigits base 0 s with
      | error e =>
        rw [front] at h
        cases h
      | ok m =>
        rw [front] at h
        obtain ⟨d, last, value, fits⟩ := (readDigits_singleton_ok_iff narrow).1 h
        exact ⟨⟨m, d, (ih.1 front).1, last, value⟩, fits⟩
    · rintro ⟨⟨m, d, front, last, rfl⟩, fits⟩
      have shorter : m ≤ m * base := Nat.le_mul_of_pos_right m some_digit
      rw [ih.2 ⟨front, by omega⟩]
      exact (readDigits_singleton_ok_iff narrow).2 ⟨d, last, rfl, fits⟩

/-! ## Numerals -/

/-- A numeral is made of digits, at least one, and a plus sign may stand ahead of them. -/
inductive IsNumeral (base : Nat) : List Char → Nat → Prop
  | plain {s : List Char} {n : Nat} (some_digit : s ≠ []) (digits : Digits base s n) :
    IsNumeral base s n
  | signed {s : List Char} {n : Nat} (some_digit : s ≠ []) (digits : Digits base s n) :
    IsNumeral base ('+' :: s) n

/-- A sign is no digit. -/
theorem Digits.plus_not_mem (narrow : base ≤ 36) (h : Digits base s n) : '+' ∉ s :=
  h.not_mem narrow (by decide)

/-- Numerals whose number fits 64 bits are read, and nothing else. -/
theorem readNumeral_ok_iff (some_digit : 0 < base) (narrow : base ≤ 36) :
    readNumeral base s = .ok n ↔ IsNumeral base s n ∧ n < UInt64.size := by
  constructor
  · intro h
    rw [readNumeral.eq_def] at h
    split at h
    case h_1 => cases h
    case h_2 => cases h
    case h_3 r some_char =>
      obtain ⟨digits, fits⟩ := (readDigits_ok_iff some_digit narrow).1 h
      exact ⟨.signed (by rintro rfl; exact some_char rfl) digits, fits⟩
    case h_4 some_char _ _ =>
      obtain ⟨digits, fits⟩ := (readDigits_ok_iff some_digit narrow).1 h
      exact ⟨.plain some_char digits, fits⟩
  · rintro ⟨numeral, fits⟩
    cases numeral with
    | plain some_char digits =>
      have unsigned := digits.plus_not_mem narrow
      rw [readNumeral]
      · exact (readDigits_ok_iff some_digit narrow).2 ⟨digits, fits⟩
      · exact some_char
      · rintro rfl
        exact unsigned List.mem_cons_self
      · rintro r rfl
        exact unsigned List.mem_cons_self
    | signed some_char digits =>
      rw [readNumeral]
      · exact (readDigits_ok_iff some_digit narrow).2 ⟨digits, fits⟩
      · exact some_char

/-- A numeral is read as the 64-bit number that it is worth. -/
theorem readWord_ok_iff (some_digit : 0 < base) (narrow : base ≤ 36) {w : UInt64} :
    readWord base s = .ok w ↔ IsNumeral base s w.toNat := by
  constructor
  · intro h
    cases read : readNumeral base s with
    | error e =>
      rw [readWord, read] at h
      cases h
    | ok n =>
      rw [readWord, read] at h
      cases h
      obtain ⟨numeral, fits⟩ := (readNumeral_ok_iff some_digit narrow).1 read
      rwa [UInt64.toNat_ofNat_of_lt' fits]
  · intro numeral
    rw [readWord, (readNumeral_ok_iff some_digit narrow).2 ⟨numeral, w.toNat_lt⟩]
    exact congrArg Except.ok UInt64.ofNat_toNat

/-- What is written for a number is a numeral for it. -/
theorem isNumeral_writeDigits (wide : 2 ≤ base) (n : Nat) :
    IsNumeral base (writeDigits base n) n :=
  .plain (writeDigits_ne_nil base n) (digits_writeDigits wide n)

/-- A padded number is read back. -/
theorem readWord_padHex (width : Nat) (n : UInt64) :
    readWord 16 (padHex width n.toNat) = .ok n :=
  (readWord_ok_iff (by decide) (by decide)).2 (.plain (padHex_ne_nil width _) (digits_padHex _ _))

/-! ## Decimal and hexadecimal numerals -/

/-- No letter is a decimal digit. -/
theorem Digits.not_isAlpha_of_mem (h : Digits 10 s n) (mem : c ∈ s) : c.isAlpha = false := by
  have all : ∀ d < 10, (digitChar d).isAlpha = false ∧ (digitChar d).toUpper.isAlpha = false := by
    decide
  obtain ⟨d, small, rfl | rfl⟩ := h.exists_of_mem mem
  · exact (all d small).1
  · exact (all d small).2

/-- Hexadecimal digits without letters are decimal digits. -/
theorem Digits.decimal_of_no_letter (h : Digits 16 s n) (plain : ∀ c ∈ s, c.isAlpha = false) :
    ∃ m, Digits 10 s m := by
  induction h with
  | empty => exact ⟨0, .empty⟩
  | @further s n c d front last ih =>
    have letters : ∀ d < 16, 10 ≤ d →
        (digitChar d).isAlpha = true ∧ (digitChar d).toUpper.isAlpha = true := by decide
    obtain ⟨m, digits⟩ := ih fun c mem => plain c (List.mem_append_left _ mem)
    have number : c.isAlpha = false := plain c (List.mem_append_right _ List.mem_cons_self)
    obtain ⟨small, written⟩ := last
    have decimal : d < 10 := by
      by_contra large
      obtain ⟨lower, upper⟩ := letters d small (Nat.le_of_not_lt large)
      rcases written with rfl | rfl
      · rw [lower] at number
        cases number
      · rw [upper] at number
        cases number
    exact ⟨_, .further digits ⟨decimal, written⟩⟩

namespace IsNumeral

/-- A numeral is worth one number. -/
theorem unique (narrow : base ≤ 36) (h : IsNumeral base s n) (h' : IsNumeral base s m) :
    n = m := by
  cases h with
  | plain _ digits =>
    cases h' with
    | plain _ digits' => exact digits.unique narrow digits'
    | signed _ _ => exact absurd List.mem_cons_self (digits.plus_not_mem narrow)
  | signed _ digits =>
    cases h' with
    | plain _ digits' => exact absurd List.mem_cons_self (digits'.plus_not_mem narrow)
    | signed _ digits' => exact digits.unique narrow digits'

/-- No letter stands in a decimal numeral. -/
theorem not_isAlpha_of_mem (h : IsNumeral 10 s n) (mem : c ∈ s) : c.isAlpha = false := by
  cases h with
  | plain _ digits => exact digits.not_isAlpha_of_mem mem
  | signed _ digits =>
    rcases List.mem_cons.1 mem with rfl | mem
    · decide
    · exact digits.not_isAlpha_of_mem mem

/-- A hexadecimal numeral without letters is a decimal one, and worth no less. -/
theorem decimal_of_no_letter (h : IsNumeral 16 s n) (plain : ∀ c ∈ s, c.isAlpha = false) :
    ∃ m, IsNumeral 10 s m ∧ m ≤ n := by
  cases h with
  | plain some_digit digits =>
    obtain ⟨m, decimal⟩ := digits.decimal_of_no_letter plain
    exact ⟨m, .plain some_digit decimal, decimal.le_of_le (by decide) (by decide) digits⟩
  | signed some_digit digits =>
    obtain ⟨m, decimal⟩ := digits.decimal_of_no_letter fun c mem =>
      plain c (List.mem_cons_of_mem _ mem)
    exact ⟨m, .signed some_digit decimal, decimal.le_of_le (by decide) (by decide) digits⟩

end IsNumeral

end HeapScope.Text
