import HeapScope.Text.Glyphless
import HeapScope.Text.Quoted

/-!
# Files

Files are given by their contents under a working directory, for programs that are run without
touching a disk. A path is resolved name by name: a dot stays, two dots go up, and only a directory
can be gone through.
-/

namespace HeapScope

/-- Why a path cannot be used. -/
inductive PathError where
  | absent
  | notDirectory
  | isDirectory
deriving DecidableEq, Repr

/-- The wording of a path error. -/
def PathError.message : PathError → String
  | .absent => "No such file or directory (os error 2)"
  | .notDirectory => "Not a directory (os error 20)"
  | .isDirectory => "Is a directory (os error 21)"

/-- Why a file was not read. -/
inductive FileError where
  | unresolved (path : String) (reason : String)
  | unreadable (path : String) (reason : String)
deriving DecidableEq, Repr

/-- The wording of a file error. -/
def FileError.message : FileError → String
  | .unresolved path reason => "Failed to resolve " ++ path ++ ": " ++ reason
  | .unreadable path reason =>
    "Failed to read file " ++ String.ofList (Text.Quoted.quote Text.isGlyphless path.toList) ++ ": "
      ++ reason

/-- A file that was read: its resolved path and its bytes. -/
structure LoadedFile where
  path : String
  bytes : List UInt8

/-- Files under a working directory. Paths are lists of names from the root. -/
structure FileTree where
  working : List String
  files : List (List String × List UInt8)

namespace FileTree

/-- The names that a path is made of. An empty name stands where a slash is not followed by one. -/
def namesOf (path : String) : List String := path.splitOn "/"

/-- The tree of files that are named relative to a working directory. -/
def ofFiles (working : List String) (files : List (String × List UInt8)) : FileTree where
  working := working
  files := files.map fun (name, bytes) => (working ++ namesOf name, bytes)

/-- Whether there is a directory at a path. -/
def hasDirectory (t : FileTree) (path : List String) : Bool :=
  path.isPrefixOf t.working || t.files.any fun (file, _) => path.isPrefixOf file && path ≠ file

/-- Goes from a path by one name. -/
def step (t : FileTree) (path : List String) (name : String) : Except PathError (List String) :=
  if !t.hasDirectory path then .error .notDirectory
  else if name = "" ∨ name = "." then .ok path
  else if name = ".." then .ok path.dropLast
  else
    let next := path ++ [name]
    if t.hasDirectory next || (t.files.lookup next).isSome then .ok next else .error .absent

/-- Resolves a path. -/
def resolve (t : FileTree) (path : String) : Except PathError (List String) :=
  match path.toList with
  | [] => .error .absent
  | '/' :: _ => (namesOf path).foldlM t.step []
  | _ => (namesOf path).foldlM t.step t.working

/-- A path as it is written. -/
def pathText (path : List String) : String := "/" ++ "/".intercalate path

/-- Reads the file at a path. -/
def read (t : FileTree) (path : String) : Except FileError LoadedFile :=
  match t.resolve path with
  | .error e => .error (.unresolved path e.message)
  | .ok names =>
    match t.files.lookup names with
    | some bytes => .ok ⟨pathText names, bytes⟩
    | none => .error (.unreadable (pathText names) PathError.isDirectory.message)

end FileTree

end HeapScope
