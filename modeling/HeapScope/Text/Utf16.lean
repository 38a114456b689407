/-!
# Text in 16-bit units

A text held in 16-bit units writes a character from U+10000 up as two surrogates. A surrogate that
stands alone is no character and is read as U+FFFD.
-/

namespace HeapScope.Text.Utf16

/-- The character U+FFFD, which stands for what cannot be read. -/
def replacement : Char := '\ufffd'

/-- Whether a unit is a high surrogate, the first half of a pair. -/
def isHigh (u : UInt16) : Bool := 0xD800 ≤ u && u < 0xDC00

/-- Whether a unit is a low surrogate, the second half of a pair. -/
def isLow (u : UInt16) : Bool := 0xDC00 ≤ u && u < 0xE000

/-- The character that two surrogates stand for. -/
def pair (high low : UInt16) : Char :=
  Char.ofNat (0x10000 + (high.toNat - 0xD800) * 0x400 + (low.toNat - 0xDC00))

/-- Reads units as characters; each unit of no pair that is a surrogate gives U+FFFD. -/
def decode : List UInt16 → List Char
  | [] => []
  | [u] => [if isHigh u || isLow u then replacement else Char.ofNat u.toNat]
  | u :: v :: r =>
    if isHigh u then
      if isLow v then pair u v :: decode r else replacement :: decode (v :: r)
    else if isLow u then replacement :: decode (v :: r)
    else Char.ofNat u.toNat :: decode (v :: r)
termination_by s => s.length

/-- The units of one character. -/
def encodeChar (c : Char) : List UInt16 :=
  if c.toNat < 0x10000 then [UInt16.ofNat c.toNat]
  else
    let n := c.toNat - 0x10000
    [UInt16.ofNat (0xD800 + n / 0x400), UInt16.ofNat (0xDC00 + n % 0x400)]

/-- The units of a text. -/
def encode (s : List Char) : List UInt16 :=
  s.flatMap encodeChar

/-- Reads bytes in pairs as little-endian units; a last odd byte is dropped. -/
def ofBytes : List UInt8 → List UInt16
  | low :: high :: r => (low.toUInt16 ||| (high.toUInt16 <<< 8)) :: ofBytes r
  | _ => []

end HeapScope.Text.Utf16
