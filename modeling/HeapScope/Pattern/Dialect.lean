import HeapScope.Pattern.Expression
import HeapScope.Pattern.Property

/-!
# Dialects

How expressions are written is fixed but for two things, which a dialect says: what classes of
characters there are by name, and how large an expression may be.

The standard dialect knows the classes of its tables: general categories, scripts, ages, what a
character means to the places where a text is cut, and the properties that a character has or has
not. It refuses an expression if groups are nested too deep or if a machine for it would be too
large, as far as that can be told without making one.
-/

namespace HeapScope.Pattern

/-- The classes of characters that have a name, and the sizes that an expression may have. -/
structure Dialect where
  /-- The class that a single name stands for. -/
  named : List Char → Option CharSet
  /-- The class of the characters for which a property has a value. -/
  valued : List Char → List Char → Option CharSet
  /-- Whether an expression with so many levels of nesting is not too large. -/
  fits : Nat → Regex → Bool

/-! ## The sizes of expressions -/

/-- The characters that differ from another one in case alone. -/
def CaseRule.letters : CaseRule → List Char
  | .ascii => "ABCDEFGHIJKLMNOPQRSTUVWXYZabcdefghijklmnopqrstuvwxyz".toList
  | .unicode => Unicode.foldGroups.flatten

namespace CharSet

/-- The code points at which runs of members may start or have ended. -/
def bounds : CharSet → List Nat
  | ranges codes => codes.ranges.flatMap fun r => [r.1, r.2 + 1]
  | union a b | inter a b => a.bounds ++ b.bounds
  | compl a => 0 :: a.bounds
  | anyCase rule a => (rule.letters.flatMap fun c => [c.toNat, c.toNat + 1]) ++ a.bounds

/-- Whether a code point belongs to a set. -/
def hasCode (s : CharSet) (n : Nat) : Bool := n.isValidChar && s.has (Char.ofNat n)

/-- The code points at which the runs of members start. -/
def starts (s : CharSet) : List Nat :=
  (s.bounds.filter fun n => s.hasCode n && (n == 0 || !s.hasCode (n - 1))).eraseDups

/-- Whether all members of a set are ASCII characters. -/
def isAscii (s : CharSet) : Bool := s.starts.all (· < 128) && !s.hasCode 128

end CharSet

namespace Regex

/-- Whether an expression spans no character, wherever it is found. -/
def isHollow : Regex → Bool
  | empty | look _ => true
  | char _ => false
  | cat a b | alt a b => a.isHollow && b.isHollow
  | repeated a _ most => a.isHollow || most == some 0

/-- The memory in bytes that a machine for an expression takes, roughly. A state takes 32 bytes and
a transition 8; a run of characters needs a transition, and beyond ASCII a few states that it shares
with others. A repetition takes as many copies as its bounds say. -/
def weight : Regex → Nat
  | empty | look _ => 32
  | char set => 32 + (if set.isAscii then 8 else 64) * set.starts.length
  | cat a b => a.weight + b.weight
  | alt a b => a.weight + b.weight + 32
  | repeated a least most =>
    if a.isHollow then a.weight + 32
    else
      match most with
      | none => max least 1 * a.weight + 32
      | some m => m * (a.weight + 32)

end Regex

namespace Dialect

/-- The levels of nesting that an expression may have. -/
def maxLevels : Nat := 250

/-- The memory in bytes that a machine for an expression may take. -/
def maxWeight : Nat := 10 * 1024 * 1024

/-- The dialect with the classes of the tables. -/
def standard : Dialect where
  named := CharSet.ofClassName
  valued := CharSet.ofClassValue
  fits levels r := levels ≤ maxLevels && r.weight ≤ maxWeight

end Dialect

end HeapScope.Pattern
