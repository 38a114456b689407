import HeapScope.Bytes.Reader

/-!
# Abbreviations

Debug information in the DWARF format is a sequence of entries. What an entry describes and which
attributes it has is not written in it but in a table of abbreviations, which it names by a code.
-/

namespace HeapScope.DebugInfo

/-- An attribute that the entries of an abbreviation have, and the form its value is written in. -/
structure AttributeSpec where
  name : Nat
  form : Nat
  /-- The value, if the form is to keep it here. -/
  implicit : Option Int := none
deriving DecidableEq, Repr

/-- What the entries with one code have in common. -/
structure Abbreviation where
  code : Nat
  tag : Nat
  hasChildren : Bool
  attributes : List AttributeSpec
deriving DecidableEq, Repr

/-- The form of values that are kept in the abbreviation. -/
def implicitForm : Nat := 0x21

/-- The seven-bit groups of a number of 16 bits, of which the first byte is known. -/
def number16From (first : UInt8) : ByteReader Nat := .groupsFrom 2 3 first

/-- Reads the attributes of an abbreviation, behind those already read. Two zeros end them; a
single zero cannot stand for a name or a form. -/
def readAttributeSpecs : ByteReader (List AttributeSpec) :=
  .loop (fun earlier first => do
    let name ← number16From first
    let form ← .unsigned16
    match name, form with
    | 0, 0 => pure (.inr earlier.reverse)
    | 0, _ => .refuse
    | _, 0 => .refuse
    | _, _ =>
      let implicit ← if form = implicitForm then some <$> ByteReader.signed else pure none
      pure (.inl ({ name, form, implicit } :: earlier))) []

/-- Reads a table of abbreviations. A zero ends it, and no two have the same code. -/
def readAbbreviations : ByteReader (List Abbreviation) :=
  .loop (fun earlier first => do
    let code ← .unsignedFrom first
    if code = 0 then return .inr earlier
    let tag ← .unsigned16
    let children ← .byte
    .require (tag ≠ 0 && (children = 0 || children = 1) && !earlier.any fun a => a.code = code)
    let attributes ← readAttributeSpecs
    return .inl ({ code, tag, hasChildren := children = 1, attributes } :: earlier)) []

/-- The table of abbreviations that starts at an offset of a section. -/
def abbreviationsAt (tables : List UInt8) (offset : Nat) : Option (List Abbreviation) :=
  readAbbreviations.value (tables.drop offset)

end HeapScope.DebugInfo
