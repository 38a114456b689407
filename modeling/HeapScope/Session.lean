import HeapScope.Exception
import HeapScope.Formatter.Children
import HeapScope.Memory.Mapping
import HeapScope.Memory.Snapshot
import HeapScope.Plugin

/-!
# Inspection sessions

A session holds what a host works with: the loaded images, the formatters, the exception breakpoint,
and what values are read from: the process that it is attached to, or else captured memory. The
breakpoint is kept resolved: whatever changes the images resolves it anew.

The images of a process are brought in line with its mappings. The session records under which base
it last saw each mapped path, whether or not the file could be loaded, and asks only for files whose
record is missing.
-/

namespace HeapScope

/-- What is found of a value. A value that is no child has an empty name. -/
structure Inspection where
  name : String
  staticType : TypeDescriptor
  dynamicType : TypeDescriptor
  summary : String
deriving DecidableEq, Repr

/-- What bringing the images in line with the mappings did: how many images were loaded, how many
taken out, and which files were asked for. -/
structure ImageChanges where
  loaded : Nat := 0
  unloaded : Nat := 0
  asked : List MappedImage := []
deriving DecidableEq, Repr

/-- Whether any image was loaded or taken out. -/
def ImageChanges.isEmpty (c : ImageChanges) : Bool := c.loaded == 0 && c.unloaded == 0

/-- A stopped process: its memory, its registers, and the number of the stop. -/
structure StoppedProcess where
  memory : MemoryReader
  registers : RegisterReader
  stop : UInt64

/-- A session, with or without a process. -/
structure Session where
  target : Target
  formatters : FormatterRegistry
  plugins : PluginRegistry
  images : ImageTable := {}
  recorded : List MappedImage := []
  memory : MemorySnapshot := {}
  process : Option StoppedProcess := none
  resolver : Option ExceptionResolver := none
  breakpoint : BreakpointSpec := {}

namespace Session

/-- The stop of a session without a process. -/
def snapshotStop : UInt64 := 1

/-- What is said where a process is needed. -/
def notAttached : String := "Not attached to a process"

/-- A new session, with the Kotlin plugins registered. -/
def create (target : Target) (config : FormatterConfig) : Session :=
  { target, formatters := { config }, plugins := (PluginRegistry.addKotlin {}).2 }

/-- Replaces the captured memory. -/
def loadSnapshot (s : Session) (memory : MemorySnapshot) : Session := { s with memory }

/-- The current stop. -/
def stop (s : Session) : UInt64 := s.process.elim snapshotStop (·.stop)

/-- What values are read from. -/
def context (s : Session) : Context :=
  { memory := s.process.elim s.memory.read (·.memory)
    registers := s.process.map (·.registers)
    metadata := s.images.metadata
    abi := s.target.abi
    stop := s.stop }

/-- The value of a type name at a location. -/
def valueAt (s : Session) (location : ValueLocation) (typeName : String) : Value :=
  .ofType (.ofName typeName) location s.stop

/-! ## Images -/

/-- Resolves the exception breakpoint anew, if there is one. -/
def refreshBreakpoint (s : Session) : Session :=
  match s.resolver with
  | some r => { s with breakpoint := r.resolve s.images.findSymbol }
  | none => s

/-- Adds an image. -/
def addImage (s : Session) (i : Image) : Session :=
  { s with images := s.images.add i }.refreshBreakpoint

/-- Takes the image of a name out, and tells whether there was one. -/
def removeImage (s : Session) (name : String) : Bool × Session :=
  let (removed, images) := s.images.remove name
  let s := { s with images }
  (removed, if removed then s.refreshBreakpoint else s)

/-- The base that a path has among mapped images; of two entries for one path the later counts. -/
def baseOf (mapped : List MappedImage) (path : String) : Option UInt64 :=
  (mapped.reverse.find? fun m => m.path == path).map (·.base)

/-- Whether a record still describes the mappings. -/
def isCurrent (mapped : List MappedImage) (m : MappedImage) : Bool :=
  baseOf mapped m.path == some m.base

/-- Whether a path is recorded. -/
def isRecorded (s : Session) (path : String) : Bool := s.recorded.any fun m => m.path == path

/-- Takes the image of a path out and counts it, if there is one. -/
def unload (s : Session) (c : ImageChanges) (m : MappedImage) : Session × ImageChanges :=
  let (removed, images) := s.images.remove m.path
  ({ s with images }, if removed then { c with unloaded := c.unloaded + 1 } else c)

/-- Drops the records that no longer describe the mappings, with their images. -/
def dropStale (s : Session) (mapped : List MappedImage) : Session × ImageChanges :=
  (s.recorded.filter fun m => !isCurrent mapped m).foldl (fun (s, c) m => s.unload c m)
    ({ s with recorded := s.recorded.filter (isCurrent mapped) }, {})

/-- Records a mapped image and asks for its file, unless its path is recorded. -/
def loadMapped (load : MappedImage → Option Image) (s : Session) (c : ImageChanges)
    (m : MappedImage) : Session × ImageChanges :=
  if s.isRecorded m.path then (s, c)
  else
    let s := { s with recorded := s.recorded ++ [m] }
    let c := { c with asked := c.asked ++ [m] }
    match load m with
    | some i => ({ s with images := s.images.add i }, { c with loaded := c.loaded + 1 })
    | none => (s, c)

/-- Brings the images in line with the mappings of a process. -/
def syncImages (s : Session) (mapped : List MappedImage) (load : MappedImage → Option Image) :
    Session × ImageChanges :=
  let (s, c) := mapped.foldl (fun (s, c) m => loadMapped load s c m) (s.dropStale mapped)
  if c.isEmpty then (s, c) else (s.refreshBreakpoint, c)

/-! ## Breakpoints and symbols -/

/-- Sets the exception breakpoint. -/
def setBreakpoint (s : Session) (r : ExceptionResolver) : Session :=
  { s with resolver := some r }.refreshBreakpoint

/-- Clears the exception breakpoint. -/
def clearBreakpoint (s : Session) : Session := { s with resolver := none, breakpoint := {} }

/-- The symbols of all images whose names hold a text, at their places in memory. -/
def findSymbols (s : Session) (pattern : String) : List (String × Symbol) :=
  s.images.images.flatMap fun i =>
    (i.symbols.find pattern).map fun y => (i.name, { y with address := y.address + i.bias })

/-! ## Values -/

/-- Inspects a value under a name. -/
def inspectNamed (s : Session) (name : String) (v : Value) : Probe Inspection := do
  let c := s.context
  let d ← c.resolveOrStatic v .preferDynamic
  let summary ← s.formatters.summarize c (d.toValue c.stop) d.type
  return ⟨name, v.staticType, d.type.likeStatic v.staticType, summary⟩

/-- Inspects a value. -/
def inspect (s : Session) (v : Value) : Probe Inspection := s.inspectNamed "" v

/-- Inspects a child; the summary of an entry shows key and value. -/
def inspectChild (s : Session) (child : Child) : Probe Inspection := do
  let i ← s.inspectNamed child.name child.value
  match child.key with
  | none => return i
  | some key =>
    return { i with summary := (← s.inspectNamed "" key).summary ++ " -> " ++ i.summary }

/-- Inspects the next children of a walk, at most `limit`, up to the first that cannot be made. -/
def inspectNext (s : Session) : Nat → ChildWalk → Probe (List Inspection)
  | 0, _ => return []
  | limit + 1, w => do
    match ← ExceptT.lift w.next with
    | (some (.ok child), w) =>
      let i ← s.inspectChild child
      return i :: (← s.inspectNext limit w)
    | _ => return []

/-- The number of children of a value, and the first of them inspected. -/
def inspectChildren (s : Session) (v : Value) (limit : Nat) : Probe (Nat × List Inspection) := do
  let c := s.context
  let d ← c.resolveOrStatic v .preferDynamic
  let children ← s.formatters.children c (d.toValue c.stop) d.type
  let walk ← ExceptT.lift children.walk
  return (children.count, ← s.inspectNext limit walk)

/-- One line on the object that a value stands for. -/
def describe (s : Session) (v : Value) : Probe String := s.context.describe v

/-- Whether an image with the runtime is loaded. -/
def hasRuntime (s : Session) : Bool := s.images.hasRuntime

end Session

end HeapScope
