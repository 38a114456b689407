import HeapScope.Register
import HeapScope.Text.Numeral
import HeapScope.Text.Blank

/-!
# Addresses and value locations

A value lies at a memory address or in a register. An address is written with `0x` in front and
then read in hexadecimal; without it the number is decimal if it can be read so, and hexadecimal
otherwise. A register is written with a dollar sign.
-/

namespace HeapScope

/-- Why a text is no location. -/
inductive LocationError where
  | badHexAddress (text : String) (cause : Text.NumeralError)
  | badAddress (text : String) (cause : Text.NumeralError)
  | unknownRegister (text : String)
deriving DecidableEq, Repr

/-- The wording of a location error. -/
def LocationError.message : LocationError → String
  | .badHexAddress text cause =>
    "Invalid hexadecimal address '" ++ text ++ "': " ++ cause.message
  | .badAddress text cause => "Invalid address '" ++ text ++ "': " ++ cause.message
  | .unknownRegister text => "Unknown register '" ++ text ++ "'"

/-- What follows `0x` or `0X` in a text that opens with it. -/
def hexBody : List Char → Option (List Char)
  | '0' :: 'x' :: r => some r
  | '0' :: 'X' :: r => some r
  | _ => none

/-- Reads an address; blanks around it do not matter. -/
def readAddress (s : String) : Except LocationError UInt64 :=
  let t := Text.trim s.toList
  match hexBody t with
  | some digits => (Text.readWord 16 digits).mapError (.badHexAddress (String.ofList t))
  | none =>
    match Text.readWord 10 t with
    | .ok a => .ok a
    | .error _ => (Text.readWord 16 t).mapError (.badAddress (String.ofList t))

/-- Where a value lies. -/
inductive ValueLocation where
  | memory (address : UInt64)
  | register (register : Register)
deriving DecidableEq, Repr

namespace ValueLocation

/-- The address of a value in memory. -/
def address? : ValueLocation → Option UInt64
  | memory a => some a
  | register _ => none

/-- A location as it is written. -/
def text : ValueLocation → String
  | memory a => Text.hex a
  | register r => r.text

/-- Reads a location; blanks around it do not matter. -/
def ofText (s : String) : Except LocationError ValueLocation :=
  let t := Text.trim s.toList
  if t.head? = some '$' then
    match Register.ofText (String.ofList t) with
    | some r => .ok (register r)
    | none => .error (.unknownRegister (String.ofList t))
  else (readAddress (String.ofList t)).map memory

end ValueLocation

end HeapScope
