import HeapScope.Text.Numeral

/-!
# Quoted text

A text is written between double quotes. The quote, the backslash, the tab, the two line ends and
the null character have an escape of two characters; a character that cannot be seen is spelt out
as its hexadecimal code point between braces. Which characters those are is a parameter.
-/

namespace HeapScope.Text.Quoted

/-- The letter behind the backslash, for the characters that have one. -/
def escapeLetter (c : Char) : Option Char :=
  if c = '"' then some '"'
  else if c = '\\' then some '\\'
  else if c = '\t' then some 't'
  else if c = '\r' then some 'r'
  else if c = '\n' then some 'n'
  else if c = Char.ofNat 0 then some '0'
  else none

/-- The opening brace of a code point. -/
def openBrace : Char := Char.ofNat 0x7B

/-- The closing brace of a code point. -/
def closeBrace : Char := Char.ofNat 0x7D

/-- One character inside quotes. -/
def encodeChar (spelt : Char → Bool) (c : Char) : List Char :=
  match escapeLetter c with
  | some l => ['\\', l]
  | none =>
    if spelt c then '\\' :: 'u' :: openBrace :: (writeDigits 16 c.toNat ++ [closeBrace])
    else [c]

/-- The characters between the quotes. -/
def encode (spelt : Char → Bool) (s : List Char) : List Char :=
  s.flatMap (encodeChar spelt)

/-- A text with its quotes. -/
def quote (spelt : Char → Bool) (s : List Char) : List Char :=
  '"' :: (encode spelt s ++ ['"'])

end HeapScope.Text.Quoted
