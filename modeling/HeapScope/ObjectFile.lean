import HeapScope.DebugInfo.ClassLayouts
import HeapScope.Elf.File
import HeapScope.Image

/-!
# Images from object files

An image is made of an object file and the address it is loaded at. Its symbols and the layouts of
its classes come from the file; a file that is not relocatable ignores the address.
-/

namespace HeapScope

/-- Why an object file gives no image. -/
inductive ObjectFileError where
  /-- The file of a name is no object file. -/
  | unreadable (name : String)
  /-- The debug information of the file is malformed. -/
  | malformedDebugInfo
deriving DecidableEq, Repr

/-- The wording of an error. -/
def ObjectFileError.message : ObjectFileError → String
  | .unreadable name => "Failed to parse object file " ++ name
  | .malformedDebugInfo => "Malformed debug information"

/-- An object file and its name. -/
structure ObjectFile where
  name : String
  content : Elf.File

namespace ObjectFile

/-- Reads an object file. -/
def ofBytes (name : String) (bytes : List UInt8) : Except ObjectFileError ObjectFile :=
  match Elf.File.read? bytes with
  | some content => .ok ⟨name, content⟩
  | none => .error (.unreadable name)

/-- The sections of debug information. -/
def debugSections (f : ObjectFile) : DebugInfo.Sections where
  order := f.content.header.encoding.order
  units := f.content.debugContents "info"
  abbreviations := f.content.debugContents "abbrev"
  texts := f.content.debugContents "str"
  lineTexts := f.content.debugContents "line_str"
  textOffsets := f.content.debugContents "str_offsets"
  addresses := f.content.debugContents "addr"

/-- The layouts of the classes of the file. -/
def classLayouts (f : ObjectFile) : Except ObjectFileError (List ClassLayout) :=
  match DebugInfo.classLayouts f.debugSections with
  | some layouts => .ok layouts
  | none => .error .malformedDebugInfo

/-- The image of the file, loaded at an address. -/
def imageAt (f : ObjectFile) (base : UInt64) : Except ObjectFileError Image := do
  let layouts ← f.classLayouts
  pure
    { name := f.name, symbols := f.content.symbols, layouts
      bias := if f.content.relocatable then base else 0 }

end ObjectFile

end HeapScope
