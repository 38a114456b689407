/-!
# Numerals

Unsigned 64-bit numbers are read in base ten or sixteen and written in base sixteen with a leading
`0x`. A numeral may open with a plus sign; its digits are taken from left to right and the first
one that is no digit, or that carries the value beyond 64 bits, decides the error.
-/

namespace HeapScope.Text

/-- Why a text is no numeral. -/
inductive NumeralError where
  | empty
  | invalidDigit
  | tooLarge
deriving DecidableEq, Repr

/-- The wording of a numeral error. -/
def NumeralError.message : NumeralError → String
  | .empty => "cannot parse integer from empty string"
  | .invalidDigit => "invalid digit found in string"
  | .tooLarge => "number too large to fit in target type"

/-- The value of a character as a digit of bases up to thirty-six, letters of either case. -/
def digitValue (c : Char) : Option Nat :=
  if '0' ≤ c ∧ c ≤ '9' then some (c.toNat - 48)
  else if 'a' ≤ c ∧ c ≤ 'z' then some (c.toNat - 87)
  else if 'A' ≤ c ∧ c ≤ 'Z' then some (c.toNat - 55)
  else none

/-- The digits after those worth `value`, taken one by one. -/
def readDigits (base value : Nat) : List Char → Except NumeralError Nat
  | [] => .ok value
  | c :: r =>
    match digitValue c with
    | none => .error .invalidDigit
    | some d =>
      if base ≤ d then .error .invalidDigit
      else if UInt64.size ≤ value * base + d then .error .tooLarge
      else readDigits base (value * base + d) r

/-- Reads a natural number below 2^64 in the given base. A lone sign is an invalid digit. -/
def readNumeral (base : Nat) : List Char → Except NumeralError Nat
  | [] => .error .empty
  | ['+'] => .error .invalidDigit
  | '+' :: r => readDigits base 0 r
  | s => readDigits base 0 s

/-- Reads a 64-bit number in the given base. -/
def readWord (base : Nat) (s : List Char) : Except NumeralError UInt64 :=
  (readNumeral base s).map UInt64.ofNat

/-- The character of a digit below thirty-six. -/
def digitChar (d : Nat) : Char :=
  if d < 10 then Char.ofNat (48 + d) else Char.ofNat (87 + d)

/-- The digits of a number, most significant first. A base below two writes one digit. -/
def writeDigits (base n : Nat) : List Char :=
  if _h : n < base ∨ base < 2 then [digitChar n]
  else writeDigits base (n / base) ++ [digitChar (n % base)]
termination_by n
decreasing_by exact Nat.div_lt_self (by omega) (by omega)

/-- A natural number in decimal. -/
def decimal (n : Nat) : String :=
  String.ofList (writeDigits 10 n)

/-- An integer in decimal, with a minus sign in front of a negative one. -/
def signed (n : Int) : String :=
  if n < 0 then "-" ++ decimal n.natAbs else decimal n.natAbs

/-- A 64-bit number as `0x` and its hexadecimal digits. -/
def hex (n : UInt64) : String :=
  String.ofList ('0' :: 'x' :: writeDigits 16 n.toNat)

/-- The hexadecimal digits of a number, padded with zeros to a width. -/
def padHex (width n : Nat) : List Char :=
  let ds := writeDigits 16 n
  List.replicate (width - ds.length) '0' ++ ds

end HeapScope.Text
