import HeapScope.Location

/-!
# Commands

A command is a line of words: a keyword and its arguments. A value is given by its location and its
type, which takes up the rest of the line. Arguments that a command has no use for are ignored.
-/

namespace HeapScope

/-- The events that an exception breakpoint is set for. -/
inductive CatchMode where
  | thrown | caught | both | off
deriving DecidableEq, Repr

namespace CatchMode

/-- Whether the mode includes the catching of an exception. -/
def catches : CatchMode → Bool
  | caught | both => true
  | thrown | off => false

/-- Whether the mode includes the throwing of an exception. -/
def throws : CatchMode → Bool
  | thrown | both => true
  | caught | off => false

/-- The name of a mode in messages. -/
def name : CatchMode → String
  | thrown => "Throw"
  | caught => "Catch"
  | both => "Both"
  | off => "Off"

/-- The modes by their argument. -/
def arguments : List (String × CatchMode) :=
  [("throw", thrown), ("catch", caught), ("both", both), ("off", off)]

end CatchMode

/-- A command. -/
inductive Command where
  | print (location : ValueLocation) (typeName : String)
  | children (location : ValueLocation) (typeName : String)
  | type (location : ValueLocation) (typeName : String)
  | breakOn (mode : CatchMode)
  | resume
  | images
  | find (pattern : String)
  | help
  | quit
deriving DecidableEq, Repr

namespace Command

/-- What a keyword asks for, before its arguments are read. -/
inductive Verb where
  | print | children | type | breakOn | resume | images | find | help | quit
deriving DecidableEq, Repr

/-- The keywords and their short forms. -/
def keywords : List (String × Verb) :=
  [("print", .print), ("p", .print), ("children", .children), ("ch", .children),
   ("type", .type), ("t", .type), ("catch", .breakOn), ("continue", .resume),
   ("c", .resume), ("images", .images), ("find", .find), ("help", .help), ("h", .help),
   ("?", .help), ("quit", .quit), ("q", .quit), ("exit", .quit)]

/-- Reads a location and a type of at least one word. -/
def readValue : List String → Option (ValueLocation × String)
  | location :: word :: words =>
    match ValueLocation.ofText location with
    | .ok l => some (l, " ".intercalate (word :: words))
    | .error _ => none
  | _ => none

/-- Reads the arguments of a command. -/
def ofArguments : Verb → List String → Option Command
  | .print, args => (readValue args).map fun v => print v.1 v.2
  | .children, args => (readValue args).map fun v => children v.1 v.2
  | .type, args => (readValue args).map fun v => type v.1 v.2
  | .breakOn, [] => some (breakOn .thrown)
  | .breakOn, mode :: _ => (CatchMode.arguments.lookup mode).map breakOn
  | .resume, _ => some resume
  | .images, _ => some images
  | .find, [] => none
  | .find, args => some (find (" ".intercalate args))
  | .help, _ => some help
  | .quit, _ => some quit

/-- Reads a command line. -/
def ofLine (line : String) : Option Command :=
  match (Text.words line.toList).map String.ofList with
  | [] => none
  | keyword :: args => (keywords.lookup keyword).bind fun verb => ofArguments verb args

end Command

end HeapScope
