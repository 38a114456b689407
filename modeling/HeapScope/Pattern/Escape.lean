import HeapScope.Pattern.Dialect
import HeapScope.Text.Blank
import HeapScope.Text.Quoted

/-!
# The small parts of patterns

Flags, blanks and comments, numerals and escapes. A reader takes characters from the front of a text
and returns what it read with the characters that are left, or nothing if the text is malformed.

Between any two characters of such a part, but for the letter behind a backslash and the flags
themselves, blanks and comments may stand if the pattern is verbose.
-/

namespace HeapScope.Pattern

/-- The flags that are in force at a place of a pattern. -/
structure Flags where
  anyCase : Bool := false
  multiLine : Bool := false
  dotAll : Bool := false
  swapGreed : Bool := false
  returnLines : Bool := false
  unicode : Bool := true
  verbose : Bool := false
deriving DecidableEq, Repr

namespace Flags

/-- The rule by which case is ignored. -/
def caseRule (f : Flags) : CaseRule := if f.unicode then .unicode else .ascii

/-- The rule by which lines end. -/
def lineRule (f : Flags) : LineRule := if f.returnLines then .returnOrFeed else .lineFeed

/-- The characters of words. -/
def word (f : Flags) : CharSet := if f.unicode then CharSet.word else CharSet.asciiWord

/-- A set, closed under a change of case if case is ignored. -/
def fold (f : Flags) (s : CharSet) : CharSet :=
  if f.anyCase then .anyCase f.caseRule s else s

/-- A set or its complement. Outside of Unicode the complement is no set of characters, because
bytes that are no text would belong to it. -/
def negateIf (f : Flags) (negated : Bool) (s : CharSet) : Option CharSet :=
  if negated then if f.unicode then some (.compl s) else none else some s

end Flags

/-! ## Blanks, numerals -/

/-- What is left behind blanks and comments; a comment runs to the end of its line. -/
def dropBlanks (inComment : Bool) : List Char → List Char
  | [] => []
  | c :: r =>
    if inComment then dropBlanks (c ≠ '\n') r
    else if c = '#' then dropBlanks true r
    else if Text.isBlank c then dropBlanks false r
    else c :: r

/-- What is left behind blanks and comments, if the pattern is verbose. -/
def skip (verbose : Bool) (s : List Char) : List Char :=
  if verbose then dropBlanks false s else s

/-- The characters of a kind that a text opens with, and what is left. Blanks behind each of them do
not matter if the pattern is verbose. -/
def takeRun (kind : Char → Bool) (verbose : Bool) : Nat → List Char → List Char × List Char
  | 0, s => ([], s)
  | n + 1, s =>
    match s with
    | c :: r =>
      if kind c then
        let (cs, rest) := takeRun kind verbose n (skip verbose r)
        (c :: cs, rest)
      else ([], s)
    | [] => ([], [])

/-- The number of some decimal digits, if it is below 2^32. -/
def countOf (ds : List Char) : Option Nat :=
  if ds.isEmpty then none
  else
    match Text.readDigits 10 0 ds with
    | .ok n => if n < UInt32.size then some n else none
    | .error _ => none

/-- Reads a decimal numeral below 2^32 with blanks around it. -/
def readCount (verbose : Bool) (s : List Char) : Option (Nat × List Char) :=
  let (ds, rest) := takeRun Char.isDigit verbose s.length (s.dropWhile Text.isBlank)
  (countOf ds).map fun n => (n, rest.dropWhile Text.isBlank)

/-- What is left behind a closing brace at the front. -/
def dropBrace : List Char → Option (List Char)
  | c :: r => if c = Text.Quoted.closeBrace then some r else none
  | [] => none

/-! ## Escapes -/

/-- What an escape, or a character by itself, stands for. -/
inductive Atom where
  | literal (c : Char)
  | set (s : CharSet)
  | look (l : Look)
deriving DecidableEq, Repr

/-- The character of a code point, if there is one. -/
def charOfCode (n : Nat) : Option Char :=
  if n < 0xD800 ∨ (0xDFFF < n ∧ n < 0x110000) then some (Char.ofNat n) else none

/-- The value of a hexadecimal digit. -/
def hexDigit (c : Char) : Option Nat := (Text.digitValue c).filter (· < 16)

/-- Reads exactly so many hexadecimal digits behind those worth `value`. -/
def readFixedHex (verbose : Bool) : Nat → Nat → List Char → Option (Nat × List Char)
  | 0, value, s => some (value, s)
  | _ + 1, _, [] => none
  | n + 1, value, c :: r => do
    let d ← hexDigit c
    readFixedHex verbose n (value * 16 + d) (skip verbose r)

/-- Reads hexadecimal digits up to a closing brace. -/
def readBracedHex (verbose : Bool) :
    Nat → Option Nat → List Char → Option (Nat × List Char)
  | 0, _, _ => none
  | n + 1, value, s =>
    match skip verbose s with
    | [] => none
    | c :: r =>
      if c = Text.Quoted.closeBrace then value.map fun v => (v, skip verbose r)
      else do
        let d ← hexDigit c
        readBracedHex verbose n (some (value.getD 0 * 16 + d)) r

/-- Reads the code point behind `x`, `u` or `U`. Outside of Unicode two digits are a byte, which
must be one of ASCII. -/
def readHex (f : Flags) (digits : Nat) (s : List Char) : Option (Atom × List Char) :=
  match skip f.verbose s with
  | [] => none
  | c :: r =>
    if c = Text.Quoted.openBrace then do
      let (n, rest) ← readBracedHex f.verbose (r.length + 1) none r
      return (.literal (← charOfCode n), rest)
    else do
      let (n, rest) ← readFixedHex f.verbose digits 0 (c :: r)
      if digits = 2 ∧ !f.unicode ∧ 127 < n then none
      else return (.literal (← charOfCode n), rest)

/-- The characters up to a closing brace, without blanks, and what is left behind it. -/
def takeBraced (verbose : Bool) : Nat → List Char → Option (List Char × List Char)
  | 0, _ => none
  | n + 1, s =>
    match skip verbose s with
    | [] => none
    | c :: r =>
      if c = Text.Quoted.closeBrace then some ([], r)
      else (takeBraced verbose n r).map fun (cs, rest) => (c :: cs, rest)

/-- Splits a text at the first place where a mark stands in it. -/
def splitAtMark (mark : List Char) : List Char → Option (List Char × List Char)
  | [] => none
  | c :: r =>
    if mark.isPrefixOf (c :: r) then some ([], (c :: r).drop mark.length)
    else (splitAtMark mark r).map fun (a, b) => (c :: a, b)

/-- The class of a name between braces, and whether the name asks for the others. -/
def namedClass (d : Dialect) (name : List Char) : Option (Bool × CharSet) :=
  match splitAtMark ['!', '='] name with
  | some (property, value) => (d.valued property value).map fun s => (true, s)
  | none =>
    match (splitAtMark [':'] name).or (splitAtMark ['='] name) with
    | some (property, value) => (d.valued property value).map fun s => (false, s)
    | none => (d.named name).map fun s => (false, s)

/-- Reads the name of a class, a single character or a name between braces. -/
def readClassName (d : Dialect) (verbose : Bool) (s : List Char) :
    Option ((Bool × CharSet) × List Char) :=
  match skip verbose s with
  | [] => none
  | c :: r =>
    if c = Text.Quoted.openBrace then
      (takeBraced verbose (r.length + 1) r).bind fun (name, rest) =>
        (namedClass d name).map fun cls => (cls, rest)
    else if c = '\\' then none
    else (d.named [c]).map fun set => ((false, set), skip verbose r)

/-- Reads the class behind `p` or `P`. -/
def readClass (d : Dialect) (f : Flags) (negated : Bool) (s : List Char) :
    Option (Atom × List Char) := do
  let ((inverted, set), rest) ← readClassName d f.verbose s
  if f.unicode then
    return (.set (← f.negateIf (negated != inverted) (f.fold set)), rest)
  else none

/-- The classes with a letter of their own; the capital letter stands for the others. -/
def letterClass (f : Flags) (c : Char) : Option CharSet :=
  if c = 'd' then some (if f.unicode then .digit else (CharSet.asciiClass "digit").getD .none)
  else if c = 's' then some (if f.unicode then .blank else (CharSet.asciiClass "space").getD .none)
  else if c = 'w' then some f.word
  else none

/-- The characters that mean something in patterns. -/
def metaCharacters : List Char :=
  ['\\', '.', '+', '*', '?', '(', ')', '|', '[', ']', Text.Quoted.openBrace,
   Text.Quoted.closeBrace, '^', '$', '#', '&', '-', '~']

/-- Whether a character may stand behind a backslash for itself: an ASCII character that is neither
a letter nor a digit nor one of the marks of a word's sides. -/
def isEscapable (c : Char) : Bool :=
  metaCharacters.contains c
    || (c.toNat < 128 && !c.isAlphanum && c ≠ '<' && c ≠ '>')

/-- The controls that have a letter. -/
def controlLetters : List (Char × Char) :=
  [('a', '\x07'), ('f', '\x0c'), ('t', '\t'), ('n', '\n'), ('r', '\r'), ('v', '\x0b')]

/-- The sides of a word by name. -/
def edgeNames : List (String × WordEdge) :=
  [("start", .start), ("end", .stop), ("start-half", .startHalf), ("end-half", .stopHalf)]

/-- Whether a character may stand in the name of a word's side. -/
def isEdgeLetter (c : Char) : Bool := c.isAlpha || c = '-'

/-- The side of a word of a name that has been read, if a closing brace stands behind it. -/
def namedEdge (run : List Char × List Char) : Option (WordEdge × List Char) :=
  (dropBrace run.2).bind fun rest =>
    (edgeNames.lookup (String.ofList run.1)).map fun edge => (edge, rest)

/-- Reads the side of a word that may be named behind the letter of a word's boundary. Braces that
do not open with a letter are none of its business. -/
def readEdge (verbose : Bool) (s : List Char) : Option (WordEdge × List Char) :=
  match s with
  | [] => some (.boundary, [])
  | c :: r =>
    if c = Text.Quoted.openBrace then
      match skip verbose r with
      | [] => none
      | d :: t =>
        if isEdgeLetter d then namedEdge (takeRun isEdgeLetter verbose (t.length + 1) (d :: t))
        else some (.boundary, s)
    else some (.boundary, s)

/-- Reads what stands behind a backslash. -/
def readEscape (d : Dialect) (f : Flags) : List Char → Option (Atom × List Char)
  | [] => none
  | c :: r =>
    if c = 'x' then readHex f 2 r
    else if c = 'u' then readHex f 4 r
    else if c = 'U' then readHex f 8 r
    else if c = 'p' then readClass d f false r
    else if c = 'P' then readClass d f true r
    else
      match letterClass f c, letterClass f c.toLower with
      | some s, _ => some (.set s, r)
      | none, some s => (f.negateIf true s).map fun s => (.set s, r)
      | none, none =>
        if isEscapable c then some (.literal c, r)
        else
          match controlLetters.lookup c with
          | some d => some (.literal d, r)
          | none =>
            if c = 'A' then some (.look .textStart, r)
            else if c = 'z' then some (.look .textEnd, r)
            else if c = 'b' then
              (readEdge f.verbose r).map fun (edge, rest) => (.look (.word edge f.word), rest)
            else if c = 'B' then some (.look (.word .noBoundary f.word), r)
            else if c = '<' then some (.look (.word .start f.word), r)
            else if c = '>' then some (.look (.word .stop f.word), r)
            else none

end HeapScope.Pattern
