import HeapScope.Pattern.CharSet

/-!
# Regular expressions

An expression spans parts of a text. A part begins and ends at a *place*, which is known by the
character before it and the characters behind it; conditions on a place, such as the start of a
line, look at these and span nothing. `Spans` says which parts an expression spans, and `ends`
computes where the parts end that begin at a place.

A pattern is found in a text if it spans any part of it.
-/

namespace HeapScope.Pattern

/-- A place in a text. -/
structure Place where
  before : Option Char
  rest : List Char
deriving DecidableEq, Repr

namespace Place

/-- The start of a text. -/
def start (s : List Char) : Place := ⟨none, s⟩

/-- The places of a text from one on. -/
def fromHere (before : Option Char) : List Char → List Place
  | [] => [⟨before, []⟩]
  | c :: r => ⟨before, c :: r⟩ :: fromHere (some c) r

/-- The character behind a place. -/
def after (p : Place) : Option Char := p.rest.head?

end Place

/-- What ends a line: a line feed, or a carriage return with or without one. -/
inductive LineRule where
  | lineFeed | returnOrFeed
deriving DecidableEq, Repr

/-- The side of a word that a place is compared with. -/
inductive WordEdge where
  | boundary | noBoundary | start | stop | startHalf | stopHalf
deriving DecidableEq, Repr

/-- A condition on a place. -/
inductive Look where
  | textStart | textEnd
  | lineStart (rule : LineRule)
  | lineEnd (rule : LineRule)
  | word (edge : WordEdge) (inWord : CharSet)
deriving DecidableEq, Repr

/-- Whether a condition holds at a place. -/
def Look.holds (l : Look) (p : Place) : Bool :=
  match l with
  | textStart => p.before.isNone
  | textEnd => p.after.isNone
  | lineStart .lineFeed => p.before.isNone || p.before == some '\n'
  | lineStart .returnOrFeed =>
    p.before.isNone || p.before == some '\n' || (p.before == some '\r' && p.after != some '\n')
  | lineEnd .lineFeed => p.after.isNone || p.after == some '\n'
  | lineEnd .returnOrFeed =>
    p.after.isNone || p.after == some '\r' || (p.after == some '\n' && p.before != some '\r')
  | word edge inWord =>
    let before := p.before.any inWord.has
    let after := p.after.any inWord.has
    match edge with
    | .boundary => before != after
    | .noBoundary => before == after
    | .start => !before && after
    | .stop => before && !after
    | .startHalf => !before
    | .stopHalf => !after

/-- A regular expression. -/
inductive Regex where
  | empty
  | char (set : CharSet)
  | look (condition : Look)
  | cat (a b : Regex)
  | alt (a b : Regex)
  | repeated (a : Regex) (least : Nat) (most : Option Nat)
deriving DecidableEq, Repr

/-- A relation on places, a number of times over. -/
def Times (R : Place → Place → Prop) : Nat → Place → Place → Prop
  | 0, p, q => p = q
  | n + 1, p, q => ∃ m, R p m ∧ Times R n m q

namespace Regex

/-- Whether an expression spans the part of a text from one place to another. -/
def Spans : Regex → Place → Place → Prop
  | empty, p, q => p = q
  | char set, p, q => ∃ c, set.has c ∧ p.rest = c :: q.rest ∧ q.before = some c
  | look condition, p, q => condition.holds p ∧ p = q
  | cat a b, p, q => ∃ m, a.Spans p m ∧ b.Spans m q
  | alt a b, p, q => a.Spans p q ∨ b.Spans p q
  | repeated a least most, p, q =>
    ∃ n, least ≤ n ∧ (∀ m, most = some m → n ≤ m) ∧ Times a.Spans n p q

/-- Adds a place to a list of places, the later ones first, unless it is there. -/
def insertPlace (p : Place) : List Place → List Place
  | [] => [p]
  | q :: qs =>
    if p.rest.length < q.rest.length then p :: q :: qs
    else if p.rest.length = q.rest.length then q :: qs
    else q :: insertPlace p qs

/-- The places of two lists. -/
def mergePlaces (ps qs : List Place) : List Place := ps.foldr insertPlace qs

/-- The places that a step leads to from any of some. -/
def stepAll (step : Place → List Place) (ps : List Place) : List Place :=
  ps.foldr (fun p qs => mergePlaces (step p) qs) []

/-- The places after exactly so many steps. When a step changes nothing, no further one does. -/
def exactly (step : Place → List Place) : Nat → List Place → List Place
  | 0, ps => ps
  | n + 1, ps =>
    let qs := stepAll step ps
    if qs = ps then ps else exactly step n qs

/-- The places after at most so many steps. When a step adds nothing, no further one does. -/
def atMost (step : Place → List Place) : Nat → List Place → List Place
  | 0, ps => ps
  | n + 1, ps =>
    let qs := mergePlaces (stepAll step ps) ps
    if qs.length = ps.length then ps else atMost step n qs

/-- Where the parts end that an expression spans from a place on. A repetition needs no more rounds
than there are characters left, because a round that spans nothing adds no place; one that may not
go as far as it must spans nothing. -/
def ends : Regex → Place → List Place
  | empty, p => [p]
  | char set, p =>
    match p.rest with
    | c :: r => if set.has c then [⟨some c, r⟩] else []
    | [] => []
  | look condition, p => if condition.holds p then [p] else []
  | cat a b, p => stepAll b.ends (a.ends p)
  | alt a b, p => mergePlaces (a.ends p) (b.ends p)
  | repeated a least most, p =>
    let rounds := most.elim p.rest.length fun m => min (m - least) p.rest.length
    if most.any (· < least) then [] else atMost a.ends rounds (exactly a.ends least [p])

/-- Whether an expression is found in a text. -/
def occursIn (r : Regex) (s : List Char) : Bool :=
  (Place.fromHere none s).any fun p => !(r.ends p).isEmpty

end Regex

end HeapScope.Pattern
