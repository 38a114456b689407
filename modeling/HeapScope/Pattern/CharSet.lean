import HeapScope.Unicode.Category
import HeapScope.Unicode.Folding
import HeapScope.Unicode.Property

/-!
# Sets of characters

The sets that a pattern speaks of: ranges of code points, joined, cut, complemented and closed
under a change of case. Membership is computed from the way a set was built.
-/

namespace HeapScope.Pattern

open Text (CodeRanges)

/-- Which characters count as the same but for case. -/
inductive CaseRule where
  | ascii | unicode
deriving DecidableEq, Repr

/-- The characters that differ from a letter in case alone. -/
def CaseRule.mates (rule : CaseRule) (c : Char) : List Char :=
  match rule with
  | .ascii => [c.toLower, c.toUpper].filter (· ≠ c)
  | .unicode => Unicode.foldMates c

/-- A set of characters. -/
inductive CharSet where
  | ranges (codes : CodeRanges)
  | union (a b : CharSet)
  | inter (a b : CharSet)
  | compl (a : CharSet)
  | anyCase (rule : CaseRule) (a : CharSet)
deriving DecidableEq, Repr

namespace CharSet

/-- Whether a character belongs to a set. -/
def has : CharSet → Char → Bool
  | ranges codes, c => codes.has c
  | union a b, c => a.has c || b.has c
  | inter a b, c => a.has c && b.has c
  | compl a, c => !a.has c
  | anyCase rule a, c => a.has c || (rule.mates c).any fun d => a.has d

/-- The empty set. -/
def none : CharSet := ranges ⟨[]⟩

/-- Every character. -/
def all : CharSet := compl none

/-- One character. -/
def single (c : Char) : CharSet := ranges ⟨[(c.toNat, c.toNat)]⟩

/-- The characters between two, both included. -/
def between (first last : Char) : CharSet := ranges ⟨[(first.toNat, last.toNat)]⟩

/-- The characters of a few ranges. -/
def ofPairs (pairs : List (Char × Char)) : CharSet :=
  ranges ⟨pairs.map fun p => (p.1.toNat, p.2.toNat)⟩

/-- The characters of either of several sets. -/
def unions (sets : List CharSet) : CharSet := sets.foldr union none

/-- The characters of one set that are not in another. -/
def diff (a b : CharSet) : CharSet := inter a (compl b)

/-- The characters of exactly one of two sets. -/
def symmDiff (a b : CharSet) : CharSet := union (diff a b) (diff b a)

/-! ## Classes by name -/

/-- The classes of ASCII characters that have a name. -/
def asciiClasses : List (String × List (Char × Char)) :=
  [("alnum", [('0', '9'), ('A', 'Z'), ('a', 'z')]),
   ("alpha", [('A', 'Z'), ('a', 'z')]),
   ("ascii", [(Char.ofNat 0, '\x7f')]),
   ("blank", [('\t', '\t'), (' ', ' ')]),
   ("cntrl", [(Char.ofNat 0, '\x1f'), ('\x7f', '\x7f')]),
   ("digit", [('0', '9')]),
   ("graph", [('!', '~')]),
   ("lower", [('a', 'z')]),
   ("print", [(' ', '~')]),
   ("punct", [('!', '/'), (':', '@'), ('[', Char.ofNat 0x60), (Char.ofNat 0x7b, '~')]),
   ("space", [('\t', '\r'), (' ', ' ')]),
   ("upper", [('A', 'Z')]),
   ("word", [('0', '9'), ('A', 'Z'), ('_', '_'), ('a', 'z')]),
   ("xdigit", [('0', '9'), ('A', 'F'), ('a', 'f')])]

/-- The class of ASCII characters of a name. -/
def asciiClass (name : String) : Option CharSet := (asciiClasses.lookup name).map ofPairs

/-- The characters of a general category. -/
def category (code : String) : CharSet :=
  match Unicode.categoryRanges.lookup code with
  | some codes => ranges (.ofText codes)
  | .none => compl (unions (Unicode.categoryRanges.map fun e => ranges (.ofText e.2)))

/-- The characters with a property. -/
def property (name : String) : CharSet :=
  match Unicode.propertyRanges.find? fun e => e.1.contains name with
  | some e => ranges (.ofText e.2)
  | .none => none

/-- Decimal digits. -/
def digit : CharSet := category "Nd"

/-- Blank characters. -/
def blank : CharSet := ranges ⟨Text.blankRanges⟩

/-- The characters that words are made of: letters, marks, decimal digits, connectors and the two
joiners. -/
def word : CharSet :=
  unions [property "Alphabetic", category "Mn", category "Mc", category "Me", category "Nd",
    category "Pc", property "Join_Control"]

/-- Letters, and what counts as one. -/
def alphabetic : CharSet := property "Alphabetic"

/-- Numbers of every kind. -/
def numeric : CharSet := unions [category "Nd", category "Nl", category "No"]

/-- The ASCII characters that words are made of. -/
def asciiWord : CharSet := (asciiClass "word").getD none

end CharSet

end HeapScope.Pattern
