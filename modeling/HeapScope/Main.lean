import HeapScope.Program

/-!
# The command line

Runs the program on the files of the disk and the lines of standard input.
-/

open HeapScope

/-- The reason why the system refused. -/
def systemReason (e : IO.Error) : String :=
  match e with
  | .noFileOrDirectory _ 2 _ => PathError.absent.message
  | .noFileOrDirectory _ 20 _ => PathError.notDirectory.message
  | .inappropriateType _ 20 _ => PathError.notDirectory.message
  | .inappropriateType _ 21 _ => PathError.isDirectory.message
  | e => toString e

/-- Reads a file of the disk. -/
def loadFromDisk (path : String) : IO (Except FileError LoadedFile) := do
  match ← (IO.FS.realPath path).toBaseIO with
  | .error e => return .error (.unresolved path (systemReason e))
  | .ok resolved =>
    match ← (IO.FS.readBinFile resolved).toBaseIO with
    | .error e => return .error (.unreadable resolved.toString (systemReason e))
    | .ok bytes => return .ok ⟨resolved.toString, bytes.toList⟩

/-- Prints lines. -/
def printLines (lines errors : List String) : IO Unit := do
  lines.forM IO.println
  errors.forM IO.eprintln

/-- Answers the lines of standard input, with a prompt where someone is typing them. -/
partial def converse (s : Session) : IO UInt32 := do
  let input ← IO.getStdin
  if ← input.isTty then
    IO.print "(konan) "
    (← IO.getStdout).flush
  let line ← input.getLine
  if line.isEmpty then
    IO.println Console.endOfInput
    return 0
  let r := Console.replyTo s line
  printLines r.lines r.errors
  match r.ended with
  | some status => return UInt32.ofNat status
  | none => converse r.session

/-- Begins a task and hands its session to the console. -/
def begin (task : CommandLine.Task) (options : CommandLine.Options) : IO UInt32 := do
  printLines (Program.greeting options ++ Program.announcement task) []
  match Program.start options task (← loadFromDisk (Program.binaryOf task)) with
  | .error e =>
    IO.eprintln (Console.errorLine e.message)
    return UInt32.ofNat Program.startErrorStatus
  | .ok s =>
    printLines (Program.welcome task s) []
    converse s

def main (arguments : List String) : IO UInt32 := do
  match CommandLine.readArguments arguments with
  | .error e =>
    let t := Program.early e
    printLines t.lines t.errors
    return UInt32.ofNat t.status
  | .ok (task, options) => begin task options
