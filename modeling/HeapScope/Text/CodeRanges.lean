import HeapScope.Text.Numeral
import HeapScope.Text.Blank

/-!
# Sets of code points

A set of code points is a list of closed ranges. Large sets are written as a text of ranges, each
`first-last` or a single code point, in hexadecimal and separated by blanks.
-/

namespace HeapScope.Text

/-- A set of code points, given by closed ranges. -/
structure CodeRanges where
  ranges : List (Nat × Nat)
deriving DecidableEq, Repr

namespace CodeRanges

/-- Whether a code point lies in one of the ranges. -/
def contains (s : CodeRanges) (n : Nat) : Bool :=
  s.ranges.any fun r => r.1 ≤ n && n ≤ r.2

/-- Whether a character's code point lies in one of the ranges. -/
def has (s : CodeRanges) (c : Char) : Bool :=
  s.contains c.toNat

/-- Reads a hexadecimal number, skipping what is no digit. -/
def codePoint (s : List Char) : Nat :=
  s.foldl (fun n c => match digitValue c with | some d => n * 16 + d | none => n) 0

/-- Reads one range, `first-last` or a single code point. -/
def range (s : List Char) : Nat × Nat :=
  let first := s.takeWhile (· ≠ '-')
  match s.dropWhile (· ≠ '-') with
  | [] => (codePoint first, codePoint first)
  | _ :: last => (codePoint first, codePoint last)

/-- Reads a text of ranges. -/
def ofText (s : String) : CodeRanges :=
  ⟨(words s.toList).map range⟩

end CodeRanges

end HeapScope.Text
