import HeapScope.Location
import HeapScope.Proofs.Text.Numeral
import HeapScope.Proofs.Text.Trim

/-!
# Written addresses and locations

`IsAddress` says how addresses are written: behind a mark in hexadecimal, and without it in the base
that the digits ask for. What is read as an address is that and nothing else. Hexadecimal is tried
wherever decimal fails, also where the number is too large; there it is too large as well, as the
same digits are worth no less in hexadecimal. So letters alone decide on the base.

A location is read back as it is written, in memory as a marked address and in a register by its
name.
-/

namespace HeapScope

/-- How addresses are written, blanks around them apart: in hexadecimal behind `0x`; without it in
decimal, or in hexadecimal if a digit is a letter. -/
inductive IsAddress : List Char → Nat → Prop
  | marked {x : Char} {s : List Char} {n : Nat} (mark : x = 'x' ∨ x = 'X')
    (numeral : Text.IsNumeral 16 s n) : IsAddress ('0' :: x :: s) n
  | decimal {s : List Char} {n : Nat} (numeral : Text.IsNumeral 10 s n) : IsAddress s n
  | hexadecimal {s : List Char} {n : Nat} (numeral : Text.IsNumeral 16 s n)
    (letter : ∃ c ∈ s, c.isAlpha = true) : IsAddress s n

variable {s t : List Char} {n : Nat}

/-! ## Addresses -/

/-- A hexadecimal body stands behind a prefix in either case. -/
theorem hexBody_eq_some_iff : hexBody t = some s ↔ t = '0' :: 'x' :: s ∨ t = '0' :: 'X' :: s := by
  rw [hexBody.eq_def]
  split
  case h_1 => simp
  case h_2 => simp
  case h_3 lower upper =>
    refine ⟨nofun, ?_⟩
    rintro (rfl | rfl)
    · exact absurd rfl (lower s)
    · exact absurd rfl (upper s)

/-- No numeral opens with the mark, as its letter is no digit. -/
theorem not_isNumeral_of_hexBody {base : Nat} (narrow : base ≤ 16) (h : hexBody t = some s) :
    ¬ Text.IsNumeral base t n := by
  obtain ⟨x, mark, rfl⟩ : ∃ x, (x = 'x' ∨ x = 'X') ∧ t = '0' :: x :: s := by
    rcases hexBody_eq_some_iff.1 h with rfl | rfl
    · exact ⟨'x', .inl rfl, rfl⟩
    · exact ⟨'X', .inr rfl, rfl⟩
  intro numeral
  cases numeral with
  | plain _ digits =>
    obtain ⟨d, digit⟩ := digits.exists_of_mem (List.mem_cons_of_mem _ List.mem_cons_self)
    obtain ⟨small, value⟩ := (Text.isDigit_iff (by omega)).1 digit
    have large : Text.digitValue x = some 33 := by rcases mark with rfl | rfl <;> decide
    rw [large] at value
    cases value
    omega

/-- Behind the mark stands a hexadecimal numeral, whatever its digits. -/
theorem isAddress_iff_of_marked (h : hexBody t = some s) :
    IsAddress t n ↔ Text.IsNumeral 16 s n := by
  constructor
  · intro address
    cases address with
    | marked mark numeral => rcases mark with rfl | rfl <;> cases h <;> exact numeral
    | decimal numeral => exact absurd numeral (not_isNumeral_of_hexBody (by decide) h)
    | hexadecimal numeral => exact absurd numeral (not_isNumeral_of_hexBody (by decide) h)
  · intro numeral
    rcases hexBody_eq_some_iff.1 h with rfl | rfl
    · exact .marked (.inl rfl) numeral
    · exact .marked (.inr rfl) numeral

/-- Without the mark, a letter among the digits says which base is meant. -/
theorem isAddress_iff_of_unmarked (h : hexBody t = none) :
    IsAddress t n ↔
      Text.IsNumeral 10 t n ∨ Text.IsNumeral 16 t n ∧ ∃ c ∈ t, c.isAlpha = true := by
  constructor
  · intro address
    cases address with
    | marked mark => rcases mark with rfl | rfl <;> cases h
    | decimal numeral => exact .inl numeral
    | hexadecimal numeral letter => exact .inr ⟨numeral, letter⟩
  · rintro (numeral | ⟨numeral, letter⟩)
    · exact .decimal numeral
    · exact .hexadecimal numeral letter

/-- Wording an error otherwise makes no value of it. -/
theorem mapError_ok_iff {ε ε' α : Type} {x : Except ε α} {f : ε → ε'} {a : α} :
    x.mapError f = .ok a ↔ x = .ok a := by
  cases x with
  | ok b => rw [Except.mapError, Except.ok.injEq, Except.ok.injEq]
  | error e => exact ⟨nofun, nofun⟩

/-- A text is read as an address if, blanks at its ends apart, it is one. -/
theorem readAddress_ok_iff (text : String) (a : UInt64) :
    readAddress text = .ok a ↔ IsAddress (Text.trim text.toList) a.toNat := by
  have decimal_iff {w : UInt64} {t : List Char} :
      Text.readWord 10 t = .ok w ↔ Text.IsNumeral 10 t w.toNat :=
    Text.readWord_ok_iff (by decide) (by decide)
  have hexadecimal_iff {w : UInt64} {t : List Char} :
      Text.readWord 16 t = .ok w ↔ Text.IsNumeral 16 t w.toNat :=
    Text.readWord_ok_iff (by decide) (by decide)
  rw [readAddress]
  generalize Text.trim text.toList = t
  cases mark : hexBody t with
  | some body =>
    dsimp only
    rw [isAddress_iff_of_marked mark, mapError_ok_iff, hexadecimal_iff]
  | none =>
    rw [isAddress_iff_of_unmarked mark, ← decimal_iff, ← hexadecimal_iff]
    dsimp only
    cases decimal : Text.readWord 10 t with
    | ok b =>
      dsimp only
      rw [Except.ok.injEq, Except.ok.injEq]
      refine ⟨.inl, ?_⟩
      rintro (same | ⟨-, c, mem, letter⟩)
      · exact same
      · rw [(decimal_iff.1 decimal).not_isAlpha_of_mem mem] at letter
        cases letter
    | error e =>
      dsimp only
      rw [mapError_ok_iff]
      refine ⟨fun read => .inr ⟨read, ?_⟩, fun address => (address.resolve_left nofun).1⟩
      -- without a letter the digits are worth no more in decimal, so they would have been read
      by_contra no_letter
      obtain ⟨m, digits, smaller⟩ := (hexadecimal_iff.1 read).decimal_of_no_letter fun c mem =>
        Bool.eq_false_iff.2 fun letter => no_letter ⟨c, mem, letter⟩
      have fits : m < UInt64.size := Nat.lt_of_le_of_lt smaller a.toNat_lt
      have decimal_read := decimal_iff.2 ((UInt64.toNat_ofNat_of_lt' fits).symm ▸ digits)
      rw [decimal] at decimal_read
      cases decimal_read

/-- A decimal numeral is an address of one number only. -/
theorem isAddress_iff_of_decimal {m : Nat} (h : Text.IsNumeral 10 t n) :
    IsAddress t m ↔ m = n := by
  cases mark : hexBody t with
  | some body => exact absurd h (not_isNumeral_of_hexBody (by decide) mark)
  | none =>
    rw [isAddress_iff_of_unmarked mark]
    constructor
    · rintro (numeral | ⟨-, c, mem, letter⟩)
      · exact numeral.unique (by decide) h
      · rw [h.not_isAlpha_of_mem mem] at letter
        cases letter
    · rintro rfl
      exact .inl h

/-! ## Locations -/

/-- A marked hexadecimal number is a word. -/
theorem isWord_hex (a : UInt64) : Text.IsWord (Text.hex a).toList := by
  have digits : ∀ d < 16, Text.isBlank (Text.digitChar d) = false := by decide
  rw [Text.hex, String.toList_ofList]
  refine ⟨List.cons_ne_nil _ _, fun c mem => ?_⟩
  rcases List.mem_cons.1 mem with rfl | mem
  · decide
  · rcases List.mem_cons.1 mem with rfl | mem
    · decide
    · obtain ⟨d, small, rfl⟩ := Text.exists_of_mem_writeDigits (by decide) mem
      exact digits d small

/-- An address is read back from its hexadecimal digits. -/
theorem readAddress_hex (a : UInt64) : readAddress (Text.hex a) = .ok a := by
  rw [readAddress_ok_iff, Text.trim_eq_self (isWord_hex a).isTrimmed, Text.hex,
    String.toList_ofList]
  exact .marked (.inl rfl) (Text.isNumeral_writeDigits (by decide) _)

namespace Register

/-- The name of a register is one word. -/
theorem isWord_text (r : Register) : Text.IsWord r.text.toList := by
  cases r <;> decide +kernel

/-- The name of a register is read back as the register. -/
theorem ofText_text (r : Register) : ofText r.text = some r := by
  cases r <;> decide +kernel

end Register

namespace ValueLocation

/-- A location is written as one word. -/
theorem isWord_text (l : ValueLocation) : Text.IsWord l.text.toList := by
  cases l with
  | memory a => exact isWord_hex a
  | register r => exact r.isWord_text

/-- A location is read back as it is written. -/
theorem ofText_text (l : ValueLocation) : ofText l.text = .ok l := by
  rw [ofText, Text.trim_eq_self l.isWord_text.isTrimmed, String.ofList_toList]
  cases l with
  | memory a =>
    have unmarked : (text (memory a)).toList.head? ≠ some '$' := by
      rw [text, Text.hex, String.toList_ofList, List.head?_cons]
      decide
    rw [if_neg unmarked, text, readAddress_hex]
    rfl
  | register r =>
    have marked : (text (register r)).toList.head? = some '$' := by
      rw [text, Register.text, String.toList_append]
      rfl
    rw [if_pos marked, text, r.ofText_text]

/-- A text is read as an address exactly if it is written as one, and as the number that it is
written for. What is written in decimal is read in decimal or, if the number is too large, not at
all. A location is read back from its own text. -/
theorem addresses_and_locations_read_back :
    (∀ (text : String) (a : UInt64),
      readAddress text = .ok a ↔ IsAddress (Text.trim text.toList) a.toNat) ∧
      (∀ (text : String) (n : Nat), Text.IsNumeral 10 (Text.trim text.toList) n →
        ∀ a, readAddress text = .ok a ↔ a.toNat = n) ∧
      ∀ l : ValueLocation, ofText l.text = .ok l := by
  refine ⟨readAddress_ok_iff, fun text n decimal a => ?_, ofText_text⟩
  rw [readAddress_ok_iff]
  exact isAddress_iff_of_decimal decimal

/-- Two to the power of 64 is written with digits that are hexadecimal too, and is refused. The
same digits with one letter among them are read in hexadecimal. -/
theorem addresses_and_locations_read_back_too_large :
    Text.IsNumeral 10 (Text.trim " 18446744073709551616 ".toList) UInt64.size ∧
      (∀ a, readAddress " 18446744073709551616 " ≠ .ok a) ∧
      readAddress "1844674407a" = .ok 0x1844674407a := by
  have digits : Text.trim " 18446744073709551616 ".toList = Text.writeDigits 10 UInt64.size := by
    decide +kernel
  have decimal : Text.IsNumeral 10 (Text.trim " 18446744073709551616 ".toList) UInt64.size :=
    digits ▸ Text.isNumeral_writeDigits (by decide) UInt64.size
  have letters : Text.trim "1844674407a".toList = Text.writeDigits 16 0x1844674407a := by
    decide +kernel
  refine ⟨decimal, fun a read => ?_, ?_⟩
  · have large := (addresses_and_locations_read_back.2.1 _ _ decimal a).1 read
    exact absurd a.toNat_lt_size (by omega)
  · refine (addresses_and_locations_read_back.1 _ _).2 ?_
    rw [letters]
    exact .hexadecimal (Text.isNumeral_writeDigits (by decide) _) ⟨'a', by decide +kernel, rfl⟩

end ValueLocation

end HeapScope
