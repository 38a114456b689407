import HeapScope.Proofs.Text.Numeral

/-!
# Integers in decimal

An integer is read between two bounds, as a number of a certain width is: decimal digits behind a
sign, where the plus sign may be missing and the minus sign is known only if there are negative
numbers within the bounds. Any integer within the bounds is read back from its decimal text.
-/

namespace HeapScope.Text

variable {n : Nat} {i least greatest : Int} {s : List Char}

/-- Reads a decimal integer of up to 64 bits. -/
def readSigned (negatives : Bool) : List Char → Option Int
  | '-' :: s => if negatives && !s.isEmpty then (readDigits 10 0 s).toOption.map (-·) else none
  | s => (readNumeral 10 s).toOption.map (·)

/-- Reads a decimal integer between two bounds. -/
def readInteger (least greatest : Int) (s : List Char) : Option Int :=
  (readSigned (least < 0) s).filter fun i => least ≤ i && i ≤ greatest

/-- A sign is no decimal digit. -/
theorem minus_not_mem_writeDigits (n : Nat) : '-' ∉ writeDigits 10 n := by
  have strange : ∀ d < 10, '-' ≠ digitChar d := by decide
  exact not_mem_writeDigits (by decide) strange n

/-- Digits without a sign are read back, whether signs are allowed or not. -/
theorem readSigned_writeDigits (negatives : Bool) (fits : n < UInt64.size) :
    readSigned negatives (writeDigits 10 n) = some (n : Int) := by
  have read : readNumeral 10 (writeDigits 10 n) = .ok n :=
    (readNumeral_ok_iff (by decide) (by decide)).2 ⟨isNumeral_writeDigits (by decide) n, fits⟩
  rw [readSigned, read]
  · rfl
  · intro s whole
    exact minus_not_mem_writeDigits n (whole ▸ List.mem_cons_self)

/-- Digits behind a minus are read back if signs are allowed. -/
theorem readSigned_minus_writeDigits (fits : n < UInt64.size) :
    readSigned true ('-' :: writeDigits 10 n) = some (-(n : Int)) := by
  have read : readDigits 10 0 (writeDigits 10 n) = .ok n :=
    (readDigits_ok_iff (by decide) (by decide)).2 ⟨digits_writeDigits (by decide) n, fits⟩
  have some_digit : (writeDigits 10 n).isEmpty = false := by simp [writeDigits_ne_nil]
  rw [readSigned, some_digit, read]
  rfl

/-- A decimal text is made of the digits of its number. -/
theorem toList_decimal (n : Nat) : (decimal n).toList = writeDigits 10 n := String.toList_ofList

/-- An integer within the bounds is read back. -/
theorem readInteger_signed (low : least ≤ i) (high : i ≤ greatest) (fits : i.natAbs < UInt64.size) :
    readInteger least greatest (signed i).toList = some i := by
  have read : readSigned (least < 0) (signed i).toList = some i := by
    rw [signed]
    split
    case isTrue negative =>
      have negatives : decide (least < 0) = true := decide_eq_true (by omega)
      have value : -(i.natAbs : Int) = i := by omega
      rw [String.toList_append, toList_decimal, negatives]
      exact (readSigned_minus_writeDigits fits).trans (congrArg some value)
    case isFalse =>
      have value : (i.natAbs : Int) = i := by omega
      rw [toList_decimal, readSigned_writeDigits _ fits, value]
  rw [readInteger, read]
  simp [low, high]

end HeapScope.Text
