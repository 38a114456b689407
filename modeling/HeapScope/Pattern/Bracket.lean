import HeapScope.Pattern.Escape

/-!
# Sets between brackets

Between brackets stand characters, ranges, classes and further brackets, which are joined, and two
sides may be joined by an operation: what both have, what only the left one has, and what just one
has. All operations bind alike and are taken from left to right, weaker than joining.

A set is read with a stack of the brackets that are open. Each remembers what stands in front of it,
so that reading goes on there when it is closed.
-/

namespace HeapScope.Pattern

/-- A set with the number of levels on which brackets and operations stand in it. -/
structure Leveled where
  set : CharSet
  levels : Nat := 0

/-- An operation on two sets. -/
inductive SetOp where
  | both | leftOnly | justOne
deriving DecidableEq, Repr

/-- The marks of the operations: a character that stands twice. -/
def SetOp.marks : List (Char × SetOp) := [('&', both), ('-', leftOnly), ('~', justOne)]

/-- Applies an operation. -/
def SetOp.apply (op : SetOp) (a b : CharSet) : CharSet :=
  match op with
  | both => .inter a b
  | leftOnly => .diff a b
  | justOne => .symmDiff a b

/-- A bracket that is open: whether its complement is meant, the side left of the last operation,
and what has been read behind that, the latest first. -/
structure OpenBracket where
  negated : Bool
  left : Option (SetOp × Leveled) := none
  items : List Leveled := []

namespace OpenBracket

/-- Adds an item. -/
def push (b : OpenBracket) (i : Leveled) : OpenBracket := { b with items := i :: b.items }

/-- Adds a plain set. -/
def pushSet (b : OpenBracket) (s : CharSet) : OpenBracket := b.push ⟨s, 0⟩

/-- The items joined; more than one of them make a level. -/
def joined (b : OpenBracket) : Leveled :=
  match b.items with
  | [i] => i
  | [] => ⟨.none, 0⟩
  | is => ⟨.unions (is.reverse.map (·.set)), is.foldr (fun i n => max i.levels n) 0 + 1⟩

/-- All that has been read, with the pending operation applied. -/
def value (f : Flags) (b : OpenBracket) : Leveled :=
  match b.left with
  | none => b.joined
  | some (op, l) =>
    ⟨op.apply (f.fold l.set) (f.fold b.joined.set), max l.levels b.joined.levels + 1⟩

/-- Puts an operation behind what has been read. -/
def operate (f : Flags) (b : OpenBracket) (op : SetOp) : OpenBracket :=
  ⟨b.negated, some (op, b.value f), []⟩

/-- The set of a bracket that is closed. -/
def close (f : Flags) (b : OpenBracket) : Option Leveled :=
  let v := b.value f
  (f.negateIf b.negated (f.fold v.set)).map fun s => ⟨s, v.levels + 1⟩

end OpenBracket

/-- A character may stand in a set outside of Unicode only if it is one of ASCII. -/
def isSetChar (f : Flags) (c : Char) : Bool := f.unicode || c.toNat < 128

/-- Reads the mark of the complement. -/
def takeCaret : List Char → Bool × List Char
  | c :: r => if c = '^' then (true, r) else (false, c :: r)
  | [] => (false, [])

/-- Reads a closing bracket that stands for itself because nothing is in front of it. -/
def takeFirstClose (verbose : Bool) (b : OpenBracket) (s : List Char) : OpenBracket × List Char :=
  match b.items, s with
  | [], c :: r => if c = ']' then (b.pushSet (.single c), skip verbose r) else (b, c :: r)
  | _, _ => (b, s)

/-- Reads what may stand behind an opening bracket: the mark of the complement, hyphens, which stand
for themselves there, and a closing bracket. -/
def openBracket (verbose : Bool) (s : List Char) : OpenBracket × List Char :=
  let (negated, s) := takeCaret (skip verbose s)
  let s := skip verbose s
  let (hyphens, s) := takeRun (· == '-') verbose s.length s
  takeFirstClose verbose ⟨negated, none, hyphens.map fun c => ⟨.single c, 0⟩⟩ s

/-- What is left behind the end of a class by name. -/
def dropClassEnd : List Char → Option (List Char)
  | c :: d :: r => if c = ':' ∧ d = ']' then some r else none
  | _ => none

/-- Reads a class of ASCII characters by name, `[:name:]` or `[:^name:]`, behind its bracket. -/
def readAsciiClass (f : Flags) : List Char → Option (Option CharSet × List Char)
  | c :: r =>
    if c = ':' then
      let (negated, r) := takeCaret r
      let (name, r) := r.span (· ≠ ':')
      (dropClassEnd r).bind fun rest =>
        (CharSet.asciiClass (String.ofList name)).map fun set =>
          (f.negateIf negated (f.fold set), rest)
    else none
  | [] => none

/-- A character in a set, or an escape for one or for a class. -/
def readItem (d : Dialect) (f : Flags) : List Char → Option (Atom × List Char)
  | c :: r => if c = '\\' then readEscape d f r else some (.literal c, r)
  | [] => none

/-- The set of an item by itself. -/
def itemSet (f : Flags) : Atom → Option CharSet
  | .literal c => if isSetChar f c then some (.single c) else none
  | .set s => some s
  | .look _ => none

/-- The set of a range, whose ends must be characters in order. -/
def rangeSet (f : Flags) : Atom → Atom → Option CharSet
  | .literal a, .literal b =>
    if a ≤ b ∧ isSetChar f a ∧ isSetChar f b then some (.between a b) else none
  | _, _ => none

/-- The character that a hyphen is followed by, with blanks and the mark of a comment left out if
the pattern is verbose. -/
def behindHyphen (verbose : Bool) (s : List Char) : Option Char :=
  if verbose then
    let r := s.dropWhile Text.isBlank
    if r.head? = some '#' then (r.tail.dropWhile Text.isBlank).head?.or s.head?
    else r.head?.or s.head?
  else s.head?

/-- Whether a hyphen makes no range in front of a character. -/
def endsRange (c : Option Char) : Bool := c == some ']' || c == some '-'

/-- Reads what follows on an item: a hyphen and another item, which make a range with it, or
nothing. Something must be left behind an item by itself. -/
def readRangeFrom (d : Dialect) (f : Flags) (first : Atom) (s : List Char) :
    Option (CharSet × List Char) :=
  match skip f.verbose s with
  | [] => none
  | c :: r =>
    if c = '-' then
      if endsRange (behindHyphen f.verbose r) then (itemSet f first).map fun set => (set, c :: r)
      else
        (readItem d f (skip f.verbose r)).bind fun (last, rest) =>
          (rangeSet f first last).map fun set => (set, rest)
    else (itemSet f first).map fun set => (set, c :: r)

/-- Reads an item or a range of characters. -/
def readRange (d : Dialect) (f : Flags) (s : List Char) : Option (CharSet × List Char) :=
  (readItem d f s).bind fun (first, rest) => readRangeFrom d f first rest

/-- The operation that a text opens with: its mark, twice. -/
def opAtFront : List Char → Option (SetOp × List Char)
  | c :: d :: r => if c = d then (SetOp.marks.lookup c).map fun op => (op, r) else none
  | _ => none

/-- Reads on in the innermost of the open brackets until the outermost is closed. -/
def readBrackets (d : Dialect) (f : Flags) :
    Nat → OpenBracket → List OpenBracket → List Char → Option (Leveled × List Char)
  | 0, _, _, _ => none
  | n + 1, b, outer, s =>
    match skip f.verbose s with
    | [] => none
    | c :: r =>
      if c = '[' then
        match readAsciiClass f r with
        | some (some set, rest) => readBrackets d f n (b.pushSet set) outer rest
        | some (none, _) => none
        | none =>
          let (inner, rest) := openBracket f.verbose r
          readBrackets d f n inner (b :: outer) rest
      else if c = ']' then
        match b.close f, outer with
        | none, _ => none
        | some set, [] => some (set, r)
        | some set, o :: os => readBrackets d f n (o.push set) os r
      else
        match opAtFront (c :: r) with
        | some (op, rest) => readBrackets d f n (b.operate f op) outer rest
        | none =>
          match readRange d f (c :: r) with
          | some (set, rest) => readBrackets d f n (b.pushSet set) outer rest
          | none => none

/-- Reads the set behind an opening bracket. -/
def readSet (d : Dialect) (f : Flags) (s : List Char) : Option (Leveled × List Char) :=
  let (b, rest) := openBracket f.verbose s
  readBrackets d f (rest.length + 1) b [] rest

end HeapScope.Pattern
