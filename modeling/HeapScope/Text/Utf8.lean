/-!
# Bytes that should be UTF-8

Names in object files are bytes that nobody has checked. `readUtf8` cuts them into characters and
malformed stretches, where a stretch is a start of a character that its next byte does not go on
with. A text is well formed if there are none; read leniently, each is shown as U+FFFD.
-/

namespace HeapScope.Text

/-- What the first byte of a character says. -/
structure Utf8Lead where
  /-- The number of bytes that follow. -/
  more : Nat
  /-- The bits of the character in the first byte. -/
  bits : Nat
  /-- The least value of the second byte. -/
  least : UInt8 := 0x80
  /-- The greatest value of the second byte. -/
  greatest : UInt8 := 0xbf

/-- Reads the first byte of a character. The bounds on the second byte exclude needlessly long
forms, surrogates, and what lies beyond the last code point. -/
def utf8Lead (b : UInt8) : Option Utf8Lead :=
  if b < 0x80 then some { more := 0, bits := b.toNat }
  else if b < 0xc2 then none
  else if b < 0xe0 then some { more := 1, bits := b.toNat - 0xc0 }
  else if b = 0xe0 then some { more := 2, bits := 0, least := 0xa0 }
  else if b = 0xed then some { more := 2, bits := 13, greatest := 0x9f }
  else if b < 0xf0 then some { more := 2, bits := b.toNat - 0xe0 }
  else if b = 0xf0 then some { more := 3, bits := 0, least := 0x90 }
  else if b < 0xf4 then some { more := 3, bits := b.toNat - 0xf0 }
  else if b = 0xf4 then some { more := 3, bits := 4, greatest := 0x8f }
  else none

/-- Reads the bytes behind the first one of a character, as far as they go on with it. -/
def utf8Follow : (more : Nat) → (bits : Nat) → (least greatest : UInt8) → List UInt8 →
    Option Char × List UInt8
  | 0, bits, _, _, s => (some (Char.ofNat bits), s)
  | _ + 1, _, _, _, [] => (none, [])
  | more + 1, bits, least, greatest, b :: s =>
    if least ≤ b ∧ b ≤ greatest then utf8Follow more (bits * 64 + (b.toNat - 0x80)) 0x80 0xbf s
    else (none, b :: s)

/-- Reading the bytes that follow leaves no more bytes than there were. -/
theorem length_utf8Follow_le (more bits : Nat) (least greatest : UInt8) (s : List UInt8) :
    (utf8Follow more bits least greatest s).2.length ≤ s.length := by
  induction more generalizing bits least greatest s with
  | zero => simp [utf8Follow]
  | succ more ih =>
    cases s with
    | nil => simp [utf8Follow]
    | cons b s =>
      simp only [utf8Follow]
      split
      · exact Nat.le_succ_of_le (ih ..)
      · simp

/-- The characters of a byte sequence, with nothing in the place of each malformed stretch. -/
def readUtf8 : List UInt8 → List (Option Char)
  | [] => []
  | b :: s =>
    match utf8Lead b with
    | none => none :: readUtf8 s
    | some lead =>
      (utf8Follow lead.more lead.bits lead.least lead.greatest s).1
        :: readUtf8 (utf8Follow lead.more lead.bits lead.least lead.greatest s).2
termination_by s => s.length
decreasing_by
  · simp
  · exact Nat.lt_succ_of_le (length_utf8Follow_le ..)

/-- The text of bytes that are well formed. -/
def ofUtf8? (bytes : List UInt8) : Option String :=
  ((readUtf8 bytes).mapM id).map String.ofList

/-- The text of bytes, with U+FFFD for each malformed stretch. -/
def ofUtf8Leniently (bytes : List UInt8) : String :=
  String.ofList ((readUtf8 bytes).map (·.getD '\uFFFD'))

end HeapScope.Text
