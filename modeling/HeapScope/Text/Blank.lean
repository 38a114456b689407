/-!
# Blanks and words

Blank characters are those with the Unicode property `White_Space`. A line is split into its
*words*, the maximal runs of characters that are not blank, and a text is trimmed by dropping the
blanks at its two ends.
-/

namespace HeapScope.Text

/-- The closed ranges of code points with the property `White_Space`, ascending and apart. -/
def blankRanges : List (Nat × Nat) :=
  [(0x09, 0x0D), (0x20, 0x20), (0x85, 0x85), (0xA0, 0xA0), (0x1680, 0x1680), (0x2000, 0x200A),
   (0x2028, 0x2029), (0x202F, 0x202F), (0x205F, 0x205F), (0x3000, 0x3000)]

/-- Whether a character is blank. -/
def isBlank (c : Char) : Bool :=
  blankRanges.any fun r => r.1 ≤ c.toNat && c.toNat ≤ r.2

/-- The characters without the blanks at their end. -/
def trimEnd (s : List Char) : List Char :=
  (s.reverse.dropWhile isBlank).reverse

/-- The characters without the blanks at either end. -/
def trim (s : List Char) : List Char :=
  trimEnd (s.dropWhile isBlank)

/-- Puts a word in front of others, unless it is empty. -/
def consWord (w : List Char) (ws : List (List Char)) : List (List Char) :=
  if w.isEmpty then ws else w :: ws

/-- The run of non-blank characters that a text opens with (empty if it opens with a blank), and
the words after it. -/
def splitFirst : List Char → List Char × List (List Char)
  | [] => ([], [])
  | c :: r =>
    let (w, ws) := splitFirst r
    if isBlank c then ([], consWord w ws) else (c :: w, ws)

/-- The words of a text: its maximal runs of non-blank characters, in order. -/
def words (s : List Char) : List (List Char) :=
  consWord (splitFirst s).1 (splitFirst s).2

/-- Words joined by single spaces. -/
def unwords : List (List Char) → List Char
  | [] => []
  | [w] => w
  | w :: ws => w ++ ' ' :: unwords ws

end HeapScope.Text
