import HeapScope.Pattern.Bracket

/-!
# Reading regular expressions

An expression is read from left to right with a stack of the groups that are open. A group remembers
the branches in front of it and the flags that were in force, to which closing it returns. Flags set
inside a group hold to its end, also in the branches that follow.

An expression is refused if it is too large for the dialect.
-/

namespace HeapScope.Pattern

/-- A part of a branch: an expression, the levels of nesting in it, and whether it can be
repeated. -/
structure Piece where
  regex : Regex
  levels : Nat := 0
  repeatable : Bool := true

/-- The branches of a group: those that are finished, the latest first, and the pieces of the
current one, the latest first. -/
structure Branches where
  done : List Piece := []
  pieces : List Piece := []

namespace Branches

/-- Adds a piece to the current branch. -/
def push (b : Branches) (p : Piece) : Branches := { b with pieces := p :: b.pieces }

/-- Adds an expression. -/
def pushRegex (b : Branches) (r : Regex) : Branches := b.push ⟨r, 0, true⟩

/-- The pieces of the current branch in order; more than one of them make a level. -/
def branch (b : Branches) : Piece :=
  match b.pieces with
  | [] => ⟨.empty, 0, false⟩
  | [p] => p
  | p :: ps =>
    ⟨ps.foldl (fun r q => .cat q.regex r) p.regex,
      b.pieces.foldr (fun q n => max q.levels n) 0 + 1, true⟩

/-- Finishes the current branch. -/
def next (b : Branches) : Branches := ⟨b.branch :: b.done, []⟩

/-- The choice between all branches; more than one of them make a level. -/
def choice (b : Branches) : Piece :=
  match b.next.done with
  | [] => ⟨.empty, 0, false⟩
  | [p] => p
  | p :: ps =>
    ⟨ps.foldl (fun r q => .alt q.regex r) p.regex,
      b.next.done.foldr (fun q n => max q.levels n) 0 + 1, true⟩

/-- Repeats the last piece of the current branch, if there is one that can be repeated. -/
def repeatLast (b : Branches) (least : Nat) (most : Option Nat) : Option Branches :=
  match b.pieces with
  | p :: ps =>
    if p.repeatable then
      some { b with pieces := ⟨.repeated p.regex least most, p.levels + 1, true⟩ :: ps }
    else none
  | [] => none

end Branches

/-- A group that is open: the branches in front of it and the flags in force there. -/
structure OpenGroup where
  branches : Branches
  flags : Flags

/-- What has been read of an expression. -/
structure Reading where
  current : Branches := {}
  flags : Flags := {}
  outer : List OpenGroup := []
  names : List (List Char) := []

/-! ## Flags and names of groups -/

/-- Sets the flag of a letter. -/
def Flags.setLetter (f : Flags) (c : Char) (on : Bool) : Option Flags :=
  if c = 'i' then some { f with anyCase := on }
  else if c = 'm' then some { f with multiLine := on }
  else if c = 's' then some { f with dotAll := on }
  else if c = 'U' then some { f with swapGreed := on }
  else if c = 'R' then some { f with returnLines := on }
  else if c = 'u' then some { f with unicode := on }
  else if c = 'x' then some { f with verbose := on }
  else none

/-- Reads flags up to the colon that opens a group or the parenthesis that ends them: each at most
once, those behind a hyphen to be cleared. A hyphen must have a flag behind it. Returns the flags,
whether a group opens, and what is left; setting no flags at all is refused. -/
def readFlags (f : Flags) (on : Bool) (seen : List Char) :
    List Char → Option ((Flags × Bool) × List Char)
  | [] => none
  | c :: r =>
    if c = ':' then if seen.head? = some '-' then none else some ((f, true), r)
    else if c = ')' then
      if seen.isEmpty ∨ seen.head? = some '-' then none else some ((f, false), r)
    else if seen.contains c then none
    else if c = '-' then readFlags f false ('-' :: seen) r
    else (f.setLetter c on).bind fun f => readFlags f on (c :: seen) r

/-- Whether a name of a group may open with a character. -/
def opensName (c : Char) : Bool := c = '_' || CharSet.alphabetic.has c

/-- Whether a character may stand in the name of a group. -/
def isInName (c : Char) : Bool :=
  opensName c || c = '.' || c = '[' || c = ']' || CharSet.numeric.has c

/-- Reads the name of a group up to the closing angle. -/
def readName (s : List Char) : Option (List Char × List Char) :=
  match s.span (· ≠ '>') with
  | (c :: name, _ :: rest) =>
    if opensName c && name.all isInName then some (c :: name, rest) else none
  | _ => none

namespace Reading

/-- Opens a group under given flags. -/
def enter (st : Reading) (f : Flags) : Reading :=
  { st with current := {}, flags := f, outer := ⟨st.current, st.flags⟩ :: st.outer }

/-- Opens a group with a name that no other group has. -/
def enterNamed (st : Reading) (s : List Char) : Option (Reading × List Char) :=
  (readName s).bind fun (name, rest) =>
    if st.names.contains name then none
    else some ({ st.enter st.flags with names := name :: st.names }, rest)

/-- Sets flags for a group that they open, or for the rest of the one that they stand in. -/
def setFlags (st : Reading) (f : Flags) (opens : Bool) : Reading :=
  if opens then st.enter f
  else { st with current := st.current.push ⟨.empty, 0, false⟩, flags := f }

/-- Reads what stands behind the question mark of a parenthesis: a name or flags. Conditions on what
lies around a place are not part of the language. -/
def openMarked (st : Reading) : List Char → Option (Reading × List Char)
  | [] => none
  | c :: r =>
    if c = '<' then
      if r.head? = some '=' ∨ r.head? = some '!' then none else st.enterNamed r
    else if c = 'P' ∧ r.head? = some '<' then st.enterNamed r.tail
    else
      (readFlags st.flags true [] (c :: r)).map fun (set, rest) => (st.setFlags set.1 set.2, rest)

/-- Reads what stands behind an opening parenthesis. -/
def openGroup (st : Reading) (s : List Char) : Option (Reading × List Char) :=
  match skip st.flags.verbose s with
  | [] => some (st.enter st.flags, [])
  | c :: r => if c = '?' then st.openMarked r else some (st.enter st.flags, c :: r)

/-- Closes the innermost group. -/
def closeGroup (st : Reading) : Option Reading :=
  match st.outer with
  | [] => none
  | g :: gs =>
    let p := st.current.choice
    some { st with
      current := g.branches.push ⟨p.regex, p.levels + 1, true⟩, flags := g.flags, outer := gs }

end Reading

/-! ## Constructs inside a group -/

/-- Drops the mark of a repetition that prefers fewer rounds. It does not change which parts of a
text are spanned. -/
def dropLazy : List Char → List Char
  | c :: r => if c = '?' then r else c :: r
  | [] => []

/-- Reads what may stand behind the comma of a repetition: nothing, or the greatest number of
rounds, which must not be less than the least; and then the closing brace. -/
def readGreatest (verbose : Bool) (least : Nat) (s : List Char) : Option (Option Nat × List Char) :=
  match dropBrace s with
  | some rest => some (none, rest)
  | none =>
    (readCount verbose s).bind fun (most, rest) =>
      (dropBrace rest).bind fun rest => if least ≤ most then some (some most, rest) else none

/-- Reads what may stand behind the least number of rounds: a comma with the greatest one, or
nothing, if there must be just as many. -/
def readMost (verbose : Bool) (least : Nat) : List Char → Option (Option Nat × List Char)
  | [] => none
  | c :: r =>
    if c = ',' then readGreatest verbose least (skip verbose r)
    else (dropBrace (c :: r)).map fun rest => (some least, rest)

/-- Reads the bounds of a repetition behind its brace. -/
def readBounds (verbose : Bool) (s : List Char) : Option ((Nat × Option Nat) × List Char) :=
  (readCount verbose (skip verbose s)).bind fun (least, rest) =>
    (readMost verbose least rest).map fun (most, rest) => ((least, most), rest)

/-- The set of any character, or of any but those that end lines. Outside of Unicode a byte that is
no text would belong to it. -/
def dot (f : Flags) : Option CharSet :=
  if !f.unicode then none
  else if f.dotAll then some .all
  else if f.returnLines then some (.compl (.union (.single '\n') (.single '\r')))
  else some (.compl (.single '\n'))

/-- The expression of an escape. -/
def ofAtom (f : Flags) : Atom → Regex
  | .literal c => .char (f.fold (.single c))
  | .set s => .char s
  | .look l => .look l

namespace Branches

/-- Reads one construct, which opens with a given character other than a parenthesis. It adds to the
branches of the group that it stands in and does nothing else. -/
def construct (d : Dialect) (f : Flags) (b : Branches) (c : Char) (r : List Char) :
    Option (Branches × List Char) :=
  if c = '|' then some (b.next, r)
  else if c = '[' then
    (readSet d f r).map fun (set, rest) => (b.push ⟨.char set.set, set.levels, true⟩, rest)
  else if c = '?' then (b.repeatLast 0 (some 1)).map fun b => (b, dropLazy r)
  else if c = '*' then (b.repeatLast 0 none).map fun b => (b, dropLazy r)
  else if c = '+' then (b.repeatLast 1 none).map fun b => (b, dropLazy r)
  else if c = Text.Quoted.openBrace then
    (readBounds f.verbose r).bind fun ((least, most), rest) =>
      (b.repeatLast least most).map fun b => (b, dropLazy (skip f.verbose rest))
  else if c = '\\' then (readEscape d f r).map fun (a, rest) => (b.pushRegex (ofAtom f a), rest)
  else if c = '.' then (dot f).map fun s => (b.pushRegex (.char s), r)
  else if c = '^' then
    some (b.pushRegex (.look (if f.multiLine then .lineStart f.lineRule else .textStart)), r)
  else if c = '$' then
    some (b.pushRegex (.look (if f.multiLine then .lineEnd f.lineRule else .textEnd)), r)
  else some (b.pushRegex (ofAtom f (.literal c)), r)

end Branches

/-! ## Expressions -/

namespace Reading

/-- Reads a parenthesis, with what belongs to it, or another construct. -/
def step (d : Dialect) (st : Reading) (c : Char) (r : List Char) :
    Option (Reading × List Char) :=
  if c = '(' then st.openGroup r
  else if c = ')' then st.closeGroup.map fun st => (st, r)
  else (st.current.construct d st.flags c r).map fun (b, rest) => ({ st with current := b }, rest)

/-- Reads constructs until none is left. Each takes at least a character, so a text needs no more
rounds than it has characters, and one to find its end. -/
def readAll (d : Dialect) : Nat → Reading → List Char → Option Reading
  | 0, _, _ => none
  | n + 1, st, s =>
    match skip st.flags.verbose s with
    | [] => some st
    | c :: r => (st.step d c r).bind fun (st, rest) => readAll d n st rest

end Reading

namespace Regex

/-- The expression that a text is, however large, with the levels of nesting in it. -/
def parse (d : Dialect) (s : List Char) : Option Piece := do
  let st ← Reading.readAll d (s.length + 1) {} s
  if st.outer.isEmpty then some st.current.choice else none

/-- Reads an expression that is not too large. -/
def ofText (d : Dialect) (s : List Char) : Option Regex :=
  (parse d s).bind fun p => if d.fits p.levels p.regex then some p.regex else none

end Regex

/-- A pattern for whole names: an expression between the start and the end of a name. -/
structure NamePattern where
  text : String
  regex : Regex
deriving DecidableEq, Repr

namespace NamePattern

/-- The expression for a pattern: the pattern in a group, with the start and the end of a text
around it. -/
def anchored (pattern : String) : String := "^(?:" ++ pattern ++ ")$"

/-- Reads a pattern. -/
def ofText (d : Dialect) (pattern : String) : Option NamePattern :=
  (Regex.ofText d (anchored pattern).toList).map fun r => ⟨pattern, r⟩

/-- Whether a name matches. -/
def holds (p : NamePattern) (name : String) : Bool := p.regex.occursIn name.toList

end NamePattern

end HeapScope.Pattern
