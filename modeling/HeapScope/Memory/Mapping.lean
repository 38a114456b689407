import HeapScope.Text.Numeral
import HeapScope.Text.Blank

/-!
# Memory mappings of a process

The kernel lists the mappings of a process one a line: the range of addresses, the permissions, the
offset in the file, device, inode and, for a mapped file, its path. The images of the process are
the files so mapped; the base of an image is where the start of its file would lie.
-/

namespace HeapScope

/-- A mapping. The path is absent unless a file is mapped. -/
structure Mapping where
  start : UInt64
  stop : UInt64
  readable : Bool
  writable : Bool
  executable : Bool
  offset : UInt64
  path : Option String
deriving DecidableEq, Repr

/-- A mapped image and its base address. -/
structure MappedImage where
  path : String
  base : UInt64
deriving DecidableEq, Repr

/-- Which number of a mapping could not be read. -/
inductive MappingError where
  | start (cause : Text.NumeralError)
  | stop (cause : Text.NumeralError)
  | offset (cause : Text.NumeralError)
deriving DecidableEq, Repr

/-- The wording of a mapping error. -/
def MappingError.message : MappingError → String
  | .start cause => "Failed to parse start address: " ++ cause.message
  | .stop cause => "Failed to parse end address: " ++ cause.message
  | .offset cause => "Failed to parse segment offset: " ++ cause.message

namespace Mapping

/-- Splits a word at its first hyphen. -/
def splitRange (s : List Char) : Option (List Char × List Char) :=
  match s.dropWhile (· ≠ '-') with
  | _ :: stop => some (s.takeWhile (· ≠ '-'), stop)
  | [] => none

/-- The path among the words of a line: the sixth, if it is absolute. -/
def pathOf (words : List (List Char)) : Option String :=
  match words[5]? with
  | some ('/' :: r) => some (String.ofList ('/' :: r))
  | _ => none

/-- Reads a line. A line without three words, or whose first word is no range, is no mapping. The
permissions are the bytes `r`, `w` and `x` at the first three places of the second word. -/
def ofLine (line : String) : Except MappingError (Option Mapping) :=
  match Text.words line.toList with
  | range :: permissions :: offset :: rest =>
    match splitRange range with
    | none => .ok none
    | some (start, stop) => do
      let start ← (Text.readWord 16 start).mapError .start
      let stop ← (Text.readWord 16 stop).mapError .stop
      let fileOffset ← (Text.readWord 16 offset).mapError .offset
      let flags := permissions.flatMap String.utf8EncodeChar
      pure <| some
        { start, stop, offset := fileOffset
          readable := flags[0]? == some 0x72
          writable := flags[1]? == some 0x77
          executable := flags[2]? == some 0x78
          path := pathOf (range :: permissions :: offset :: rest) }
  | _ => .ok none

/-- Where the start of a mapped file would lie, but not below zero. -/
def base (m : Mapping) : UInt64 :=
  if m.offset ≤ m.start then m.start - m.offset else 0

/-- Puts an image in its place by path, unless its path is there already. -/
def insertImage (i : MappedImage) : List MappedImage → List MappedImage
  | [] => [i]
  | j :: rest =>
    if i.path < j.path then i :: j :: rest
    else if i.path = j.path then j :: rest
    else j :: insertImage i rest

/-- The images of mappings, in the order of their paths; the first mapping of a path gives its
base. -/
def images (ms : List Mapping) : List MappedImage :=
  ms.foldl (fun is m =>
    match m.path with
    | some path => insertImage ⟨path, m.base⟩ is
    | none => is) []

end Mapping

end HeapScope
