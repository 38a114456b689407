import HeapScope.Command
import HeapScope.Session

/-!
# The console

The console answers one line of input after the other with lines of text. A line that is no command
is answered too, and blank lines are passed over. Only the images and the exception breakpoint of
the session are carried from one command to the next.
-/

namespace HeapScope.Console

/-- What a line of input brings about. -/
structure Reply where
  lines : List String
  /-- What went wrong, beside the lines. -/
  errors : List String := []
  session : Session
  /-- The exit status, if the line ends the console. -/
  ended : Option Nat := none

/-- The most children that are shown. -/
def childLimit : Nat := 64

/-- The most symbols that are shown. -/
def symbolLimit : Nat := 10

/-- What is said of what a list leaves out. -/
def moreLines (count shown : Nat) : List String :=
  if shown < count then ["  ... and " ++ Text.decimal (count - shown) ++ " more"] else []

/-- The line of a value, or of a child under its name. -/
def inspectionLine (i : Inspection) : String :=
  let value := "(" ++ i.dynamicType.name ++ ") " ++ i.summary
  if i.name.isEmpty then value else "  " ++ i.name ++ " = " ++ value

/-- The lines of the children of a value. -/
def childrenLines (count : Nat) (children : List Inspection) : List String :=
  if count = 0 then ["No children"]
  else (Text.decimal count ++ " children:") :: children.map inspectionLine
    ++ moreLines count children.length

/-- The lines on the types of a value. The object behind it is described if its type refers to
one. -/
def typeLines (s : Session) (v : Value) : Probe (List String) := do
  let i ← s.inspect v
  let types := ["Static type:  " ++ i.staticType.name, "Dynamic type: " ++ i.dynamicType.name]
  if i.staticType.isReference then
    let object := match ← (s.describe v).attempt with
      | .ok description => description
      | .error e => "<" ++ e.message ++ ">"
    return types ++ ["Object:       " ++ object]
  else return types

/-- The lines of an exception breakpoint. -/
def breakpointLines (b : BreakpointSpec) : List String :=
  (b.diagnostic.map fun e => "Exception breakpoint pending: " ++ e.message).toList
    ++ b.locations.map fun l =>
      "  " ++ l.text ++ if l.address.isSome then "" else " (unresolved)"

/-- The lines of the loaded images. -/
def imageLines (s : Session) : List String :=
  let images := s.images.images
  if images.isEmpty then ["No images loaded"]
  else
    ("Loaded images (" ++ Text.decimal images.length ++ "):")
      :: (images.map fun i =>
        "  " ++ i.name ++ " (bias " ++ Text.hex i.bias ++ ", "
          ++ Text.decimal i.symbols.given.length ++ " symbols)")
      ++ ["Kotlin/Native runtime: " ++ if s.hasRuntime then "loaded" else "not loaded"]

/-- The line of a symbol, with its number in the list and the image that holds it. -/
def symbolLine (number : Nat) (image : String) (s : Symbol) : String :=
  let size := if s.size = 0 then "" else " (size: " ++ Text.decimal s.size.toNat ++ ")"
  "  " ++ Text.decimal number ++ ". " ++ s.displayName ++ " @ " ++ Text.hex s.address ++ size
    ++ " [" ++ image ++ "]"

/-- The lines of the symbols whose names hold a text. -/
def symbolLines (pattern : String) (found : List (String × Symbol)) : List String :=
  let title := "Symbols matching '" ++ pattern ++ "'"
  if found.isEmpty then ["No " ++ title ++ " found"]
  else
    (title ++ " (" ++ Text.decimal found.length ++ " found):")
      :: ((found.take symbolLimit).zipIdx.map fun ((image, s), i) => symbolLine (i + 1) image s)
      ++ moreLines found.length symbolLimit

/-- What there is to type. -/
def helpLines : List String :=
  ["Available commands:", "",
   "  help           - Show this help message",
   "  quit/exit/q    - Exit", "",
   "Value commands (<loc> is an address or a register such as $rdi):",
   "  print <loc> <type>     - Show the summary of a value",
   "  children <loc> <type>  - Show the children of a value",
   "  type <loc> <type>      - Show the static and dynamic type of a value", "",
   "Process commands:",
   "  catch [throw|catch|both|off] - Set or clear the exception breakpoint",
   "  continue (c)   - Continue execution",
   "  images         - List loaded images",
   "  find <pattern> - Find symbols matching pattern", "",
   "Examples:",
   "  print 0x7ffe3a10 kotlin.Any?",
   "  children $rdi kotlin.collections.List",
   "  catch both",
   "  find Throwable"]

/-- A line that reports an error. -/
def errorLine (message : String) : String := "Error: " ++ message

/-- The exit status after a crash. -/
def crashStatus : Nat := 101

/-- Answers with the lines of a probe. An error is reported, and a crash ends the console. -/
def replyOf (s : Session) (p : Probe (List String)) : Reply :=
  match p.outcome with
  | .ok lines => { lines, session := s }
  | .error (.failed e) => { lines := [], errors := [errorLine e.message], session := s }
  | .error (.crashed c) =>
    { lines := [], errors := [c.message], session := s, ended := some crashStatus }

/-- Sets the exception breakpoint, or clears it. -/
def catchReply (s : Session) (mode : CatchMode) : Reply :=
  if mode = .off then
    { lines := ["Exception breakpoint cleared"], session := s.clearBreakpoint }
  else
    let s := s.setBreakpoint ⟨mode.catches, mode.throws⟩
    { lines := ("Exception breakpoint (" ++ mode.name ++ "):") :: breakpointLines s.breakpoint
      session := s }

/-- Answers a command. -/
def answer (s : Session) : Command → Reply
  | .print location typeName => replyOf s do
    return [inspectionLine (← s.inspect (s.valueAt location typeName))]
  | .children location typeName => replyOf s do
    let (count, children) ← s.inspectChildren (s.valueAt location typeName) childLimit
    return childrenLines count children
  | .type location typeName => replyOf s (typeLines s (s.valueAt location typeName))
  | .breakOn mode => catchReply s mode
  | .resume =>
    { lines := ["Continuing execution..."]
      errors := [errorLine Session.notAttached]
      session := s }
  | .images => { lines := imageLines s, session := s }
  | .find pattern => { lines := symbolLines pattern (s.findSymbols pattern), session := s }
  | .help => { lines := helpLines, session := s }
  | .quit => { lines := ["Goodbye!"], session := s, ended := some 0 }

/-- A line as it was meant: a backspace takes back the character before it. -/
def withoutBackspaces (line : List Char) : List Char :=
  (line.foldl (fun kept c => if c = '\x08' then kept.tail else c :: kept) []).reverse

/-- Answers a line of input. -/
def replyTo (s : Session) (line : String) : Reply :=
  let line := String.ofList (Text.trim (withoutBackspaces line.toList))
  if line.isEmpty then { lines := [], session := s }
  else
    match Command.ofLine line with
    | some command => answer s command
    | none =>
      { lines := ["Unknown command: " ++ line, "Type 'help' for available commands."]
        session := s }

/-- What is said where the input ends. -/
def endOfInput : String := "CTRL-D"

/-- What a program has printed, and its exit status. -/
structure Transcript where
  lines : List String := []
  errors : List String := []
  status : Nat := 0
deriving DecidableEq, Repr

/-- A transcript behind further lines. -/
def Transcript.after (t : Transcript) (lines errors : List String) : Transcript :=
  { t with lines := lines ++ t.lines, errors := errors ++ t.errors }

/-- Answers lines of input until one ends the console, or the input ends. -/
def converse (s : Session) : List String → Transcript
  | [] => { lines := [endOfInput] }
  | line :: rest =>
    let r := replyTo s line
    match r.ended with
    | some status => { lines := r.lines, errors := r.errors, status }
    | none => (converse r.session rest).after r.lines r.errors

end HeapScope.Console
