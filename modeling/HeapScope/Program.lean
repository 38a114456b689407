import HeapScope.CommandLine.Arguments
import HeapScope.Console
import HeapScope.FileTree
import HeapScope.ObjectFile

/-!
# The program

The program reads its arguments, loads a binary into a new session, and hands the session to the
console. What it prints depends on the arguments, the files and the lines of input only.

Processes cannot be attached to: the attempt fails once the binary has been loaded.
-/

namespace HeapScope.Program

open CommandLine (Task Options EarlyEnd)

/-- Why the program ends before the console is reached. -/
inductive StartError where
  | file (cause : FileError)
  | object (cause : ObjectFileError)
  | noProcess (pid : Int)
deriving DecidableEq, Repr

/-- The wording of a start error. -/
def StartError.message : StartError → String
  | .file cause => cause.message
  | .object cause => cause.message
  | .noProcess pid => "Cannot attach to process " ++ Text.signed pid

/-- The exit status for arguments that make no sense. -/
def misuseStatus : Nat := 2

/-- The exit status if the program ends before the console is reached. -/
def startErrorStatus : Nat := 1

/-- The binary of a task. -/
def binaryOf : Task → String
  | .attach binary _ => binary
  | .inspect binary => binary

/-- The lines that the program opens with. -/
def greeting (options : Options) : List String :=
  ["Konan - Kotlin/Native language introspection",
   "Version 0.1.0 (target " ++ options.target.suffix ++ ")", ""]

/-- What is announced before a task is begun. -/
def announcement : Task → List String
  | .attach binary pid =>
    ["Loading binary: " ++ binary, "Attaching to process: " ++ Text.signed pid, ""]
  | .inspect binary => ["Loading binary: " ++ binary]

/-- Loads the image of a file into a session. -/
def loadFile (s : Session) (file : Except FileError LoadedFile) : Except StartError Session := do
  let file ← file.mapError .file
  let object ← (ObjectFile.ofBytes file.path file.bytes).mapError .object
  let image ← (object.imageAt 0).mapError .object
  pure (s.addImage image)

/-- Begins a task with the file of its binary. -/
def start (options : Options) (task : Task) (file : Except FileError LoadedFile) :
    Except StartError Session := do
  let s ← loadFile (Session.create options.target options.config) file
  match task with
  | .attach _ pid => throw (.noProcess pid)
  | .inspect _ => pure s

/-- The lines between the beginning of a task and the console. -/
def welcome (task : Task) (s : Session) : List String :=
  ["Loaded symbols and type metadata from " ++ binaryOf task]
    ++ (if s.hasRuntime then []
      else ["Kotlin/Native runtime not found yet; exception breakpoints will stay pending"])
    ++ ["", "Type 'help' for available commands, 'quit' to exit.", ""]

/-- What is printed if there is nothing to do. -/
def early : EarlyEnd → Console.Transcript
  | .misuse cause => { errors := ["error: " ++ cause.message], status := misuseStatus }
  | .help page => { lines := page.lines }
  | .version => { lines := [CommandLine.versionLine] }

/-- Runs the program. -/
def run (arguments : List String) (files : FileTree) (input : List String) :
    Console.Transcript :=
  match CommandLine.readArguments arguments with
  | .error e => early e
  | .ok (task, options) =>
    let opening := greeting options ++ announcement task
    match start options task (files.read (binaryOf task)) with
    | .error e =>
      { lines := opening, errors := [Console.errorLine e.message], status := startErrorStatus }
    | .ok s => (Console.converse s input).after (opening ++ welcome task s) []

end HeapScope.Program
