import HeapScope.CommandLine.Usage
import HeapScope.Formatter.Config
import HeapScope.Target

/-!
# Reading the arguments

Arguments are read from left to right. An option takes its value from behind an equals sign or from
the next argument, and the value is looked at only when the next option or operand has come. Options
of one letter can be written together. Behind `--` nothing is an option. At one place an option can
be given once; given at both, the one behind the command counts.

Reading ends early where an argument asks for help or the version. What comes after it is not
looked at, so it need not make sense.
-/

namespace HeapScope.CommandLine

/-- What is wrong with the arguments. -/
inductive Misuse where
  | unknown (argument : String)
  | missingValue (setting : Setting)
  | invalidValue (setting : Setting) (value : String)
  | needlessValue (argument : String)
  | repeated (option : String)
  | missing (argument : String)
deriving DecidableEq, Repr

/-- The wording of a misuse. -/
def Misuse.message : Misuse → String
  | .unknown argument => "unexpected argument '" ++ argument ++ "' found"
  | .missingValue s => "a value is required for '--" ++ s.name ++ "' but none was supplied"
  | .invalidValue s value => "invalid value '" ++ value ++ "' for '--" ++ s.name ++ "'"
  | .needlessValue argument => "'" ++ argument ++ "' takes no value"
  | .repeated option => "the argument '--" ++ option ++ "' cannot be used multiple times"
  | .missing argument => "'" ++ argument ++ "' is required"

/-- Why there is nothing to do. -/
inductive EarlyEnd where
  | misuse (cause : Misuse)
  | help (page : Page)
  | version
deriving DecidableEq, Repr

/-- What the program is to do with a binary. -/
inductive Task where
  | attach (binary : String) (pid : Int)
  | inspect (binary : String)
deriving DecidableEq, Repr

/-- How values are shown, and for which target. -/
structure Options where
  target : Target := Target.host
  config : FormatterConfig := {}
deriving DecidableEq, Repr

/-- The options and operands read at one place. -/
structure Given where
  target : Option Target := none
  maxString : Option Nat := none
  maxPreview : Option Nat := none
  maxDepth : Option Nat := none
  pid : Option Int := none
  verbose : Bool := false
  binary : Option String := none
deriving DecidableEq, Repr

/-- Reads a number of 64 bits. -/
def readCount (value : String) : Option Nat := (Text.readNumeral 10 value.toList).toOption

/-- Reads a signed number of 32 bits. -/
def readPid (value : String) : Option Int :=
  let n : Option Int :=
    match value.toList with
    | '-' :: '+' :: _ => none
    | '-' :: r => (Text.readNumeral 10 r).toOption.map fun n => -(n : Int)
    | s => (Text.readNumeral 10 s).toOption.map fun n => (n : Int)
  n.filter fun n => Int32.minValue.toInt ≤ n && n ≤ Int32.maxValue.toInt

/-- Takes a value that was read, if the option had none before. -/
def takeOnce {α β : Type} (s : Setting) (text : String) (old : Option α) (new : Option α)
    (set : α → β) : Except EarlyEnd β :=
  match old, new with
  | some _, _ => .error (.misuse (.repeated s.name))
  | none, none => .error (.misuse (.invalidValue s text))
  | none, some a => .ok (set a)

namespace Given

/-- Takes the value of a setting. -/
def set (g : Given) (s : Setting) (value : String) : Except EarlyEnd Given :=
  match s with
  | .target => takeOnce s value g.target (Target.ofText value) fun a => { g with target := some a }
  | .maxString => takeOnce s value g.maxString (readCount value) fun a =>
    { g with maxString := some a }
  | .maxPreview => takeOnce s value g.maxPreview (readCount value) fun a =>
    { g with maxPreview := some a }
  | .maxDepth => takeOnce s value g.maxDepth (readCount value) fun a =>
    { g with maxDepth := some a }
  | .pid => takeOnce s value g.pid (readPid value) fun a => { g with pid := some a }

/-- The options of two places, of which the inner one counts first. -/
def options (inner outer : Given) : Options where
  target := (inner.target.or outer.target).getD Target.host
  config :=
    { maxStringUnits := (inner.maxString.or outer.maxString).getD 1024
      maxArrayPreview := (inner.maxPreview.or outer.maxPreview).getD 16
      maxDepth := (inner.maxDepth.or outer.maxDepth).getD 3 }

end Given

/-- What has been read at a place, and the setting last met with its value, which is still to be
looked at if it has come. -/
structure Reading where
  given : Given := {}
  last : Option (Setting × Option String) := none

namespace Reading

/-- Whether the next argument is to be the value of a setting. -/
def wantsValue (r : Reading) : Bool :=
  match r.last with
  | some (_, none) => true
  | _ => false

/-- Looks at the value of the setting last met. -/
def settle (r : Reading) : Except EarlyEnd Reading :=
  match r.last with
  | none => .ok r
  | some (s, none) => .error (.misuse (.missingValue s))
  | some (s, some value) => (r.given.set s value).map fun given => { given }

/-- Takes an option, with the value that is attached to it. -/
def takeSwitch (place : Place) (r : Reading) (name : String) :
    Switch → Option String → Except EarlyEnd Reading
  | .setting s, none => do return { ← r.settle with last := some (s, none) }
  | .setting s, some value => do return { given := ← (← r.settle).given.set s value }
  | _, some _ => .error (.misuse (.needlessValue name))
  | .verbose, none => do
    let r ← r.settle
    if r.given.verbose then .error (.misuse (.repeated name))
    else pure { r with given := { r.given with verbose := true } }
  | .help, none => do
    let _ ← r.settle
    .error (.help (.about place))
  | .version, none => do
    let _ ← r.settle
    .error .version

/-- Takes options of one letter that are written together. The first with a value takes the rest as
its value, less an equals sign in front. -/
def takeLetters (place : Place) (r : Reading) : List Char → Except EarlyEnd Reading
  | [] => .ok r
  | c :: rest =>
    match place.shortSwitches.lookup c with
    | none => .error (.misuse (.unknown (String.ofList ['-', c])))
    | some (.setting s) =>
      let attached :=
        match rest with
        | [] => none
        | '=' :: value => some (String.ofList value)
        | value => some (String.ofList value)
      r.takeSwitch place s.name (.setting s) attached
    | some switch => do
      (← r.takeSwitch place (String.ofList [c]) switch none).takeLetters place rest

/-- Takes an option by its long name. -/
def takeLong (place : Place) (r : Reading) (text : List Char) : Except EarlyEnd Reading :=
  let name := String.ofList (text.takeWhile (· ≠ '='))
  let attached :=
    match text.dropWhile (· ≠ '=') with
    | [] => none
    | _ :: value => some (String.ofList value)
  match place.longSwitches.lookup name with
  | none => .error (.misuse (.unknown ("--" ++ name)))
  | some switch => r.takeSwitch place name switch attached

/-- Takes an operand. A command has one, the binary. -/
def takeOperand (place : Place) (r : Reading) (argument : String) : Except EarlyEnd Reading :=
  if place = .outside then .error (.misuse (.unknown argument))
  else do
    let r ← r.settle
    if r.given.binary.isSome then .error (.misuse (.unknown argument))
    else pure { r with given := { r.given with binary := some argument } }

/-- Takes an argument in front of any `--`. A hyphen alone is an operand. -/
def take (place : Place) (r : Reading) (argument : String) : Except EarlyEnd Reading :=
  match argument.toList, r.last with
  | '-' :: '-' :: text, _ => r.takeLong place text
  | '-' :: c :: rest, _ => r.takeLetters place (c :: rest)
  | _, some (s, none) => .ok { r with last := some (s, some argument) }
  | _, _ => r.takeOperand place argument

/-- Takes the arguments behind the name of a command. -/
def takeAll (place : Place) (r : Reading) : List String → Except EarlyEnd Reading
  | [] => r.settle
  | "--" :: operands => do (← operands.foldlM (takeOperand place) r).settle
  | argument :: rest => do (← r.take place argument).takeAll place rest

end Reading

/-- The task that a command line gives for a place. -/
def taskOf (place : Place) (g : Given) : Except EarlyEnd Task :=
  match place, g.binary, g.pid with
  | .inspect, some binary, _ => .ok (.inspect binary)
  | .attach, some binary, some pid => .ok (.attach binary pid)
  | .outside, _, _ => .error (.misuse (.missing "<COMMAND>"))
  | .attach, some _, none => .error (.misuse (.missing "--pid <PID>"))
  | _, none, _ => .error (.misuse (.missing "<BINARY>"))

/-- The page that is asked for by naming commands. -/
def pageOf : List String → Except EarlyEnd Page
  | [] => .ok (.about .outside)
  | ["attach"] => .ok (.about .attach)
  | ["inspect"] => .ok (.about .inspect)
  | ["help"] => .ok .help
  | name :: rest =>
    .error (.misuse (.unknown
      (if ["attach", "inspect", "help"].contains name then rest.headD "" else name)))

/-- Reads the arguments behind the name of a command. What was read in front of it is looked at
last, so that help comes first. -/
def readCommand (place : Place) (outer : Reading) (arguments : List String) :
    Except EarlyEnd (Task × Options) := do
  let inner ← Reading.takeAll place {} arguments
  let task ← taskOf place inner.given
  let outer ← outer.settle
  pure (task, inner.given.options outer.given)

/-- Reads the arguments from the left, up to the name of a command. -/
def readFrom (r : Reading) : List String → Except EarlyEnd (Task × Options)
  | [] => .error (.misuse (.missing "<COMMAND>"))
  | argument :: rest =>
    match r.wantsValue, argument with
    | false, "attach" => readCommand .attach r rest
    | false, "inspect" => readCommand .inspect r rest
    | false, "help" => do .error (.help (← pageOf rest))
    | _, "--" => .error (.misuse (.missing "<COMMAND>"))
    | _, _ => do readFrom (← r.take .outside argument) rest

/-- Reads the arguments of the program. -/
def readArguments (arguments : List String) : Except EarlyEnd (Task × Options) :=
  readFrom {} arguments

end HeapScope.CommandLine
