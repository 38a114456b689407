import HeapScope.DebugInfo.Abbreviation

/-!
# Attributes

The value of an attribute is written in one of some forty forms, which differ in the kind of the
value and in how many bytes it takes. Most sizes are fixed; that of an address and that of an
offset into another section depend on the unit of debug information that the entry belongs to.
-/

namespace HeapScope.DebugInfo

/-- How the numbers of a unit are stored. -/
structure Encoding where
  order : ByteOrder
  version : Nat
  /-- The bytes of an offset into a section. -/
  offsetSize : Nat
  addressSize : Nat
deriving DecidableEq, Repr

namespace Encoding

/-- An offset into a section. -/
def offset (e : Encoding) : ByteReader Nat := .number e.order e.offsetSize

end Encoding

/-- The value of an attribute, as far as it is told apart. -/
inductive AttributeValue where
  | unsigned (value : Nat)
  | signed (value : Int)
  | flag (value : Bool)
  | address (value : Nat)
  /-- An address by its number in a table. -/
  | indexedAddress (index : Nat)
  | text (bytes : List UInt8)
  /-- A text by its place among the texts. -/
  | textAt (offset : Nat)
  /-- A text by its place among the texts of line tables. -/
  | lineTextAt (offset : Nat)
  /-- A text by its number in a table. -/
  | indexedText (index : Nat)
  /-- An entry of the same unit. -/
  | unitEntry (offset : Nat)
  /-- A place in another section, which the attribute implies. -/
  | sectionOffset (offset : Nat)
  | other
deriving DecidableEq, Repr

/-- An unsigned constant. A signed one counts if it is not negative. -/
def AttributeValue.constant? : AttributeValue → Option Nat
  | .unsigned value => some value
  | .signed value => if value < 0 then none else some value.toNat
  | _ => none

/-- The size of a value that is skipped. -/
inductive SkippedSize where
  | fixed (size : Nat)
  /-- As many bytes as a number before them says, which takes some bytes itself. -/
  | counted (size : Nat)
  /-- As many bytes as a number in groups of seven bits says. -/
  | grouped
  /-- A number in groups of seven bits. -/
  | groups
  | offset
deriving DecidableEq, Repr

/-- The forms of values. -/
inductive Form where
  | address
  | constant (size : Nat)
  | unsigned
  | signed
  /-- The abbreviation keeps the value. -/
  | implicit
  | flag
  /-- A flag that is set by being there. -/
  | present
  | text
  | textOffset
  | lineTextOffset
  | textIndex
  | fixedTextIndex (size : Nat)
  | addressIndex
  | fixedAddressIndex (size : Nat)
  | unitEntry (size : Nat)
  | groupedUnitEntry
  | sectionOffset
  /-- An entry of any unit. -/
  | anyEntry
  | skipped (size : SkippedSize)
  /-- The form is written before the value. -/
  | indirect
deriving DecidableEq, Repr

/-- The form of a code. -/
def Form.ofCode : Nat → Option Form
  | 0x01 => some .address
  | 0x03 => some (.skipped (.counted 2))
  | 0x04 => some (.skipped (.counted 4))
  | 0x05 => some (.constant 2)
  | 0x06 => some (.constant 4)
  | 0x07 => some (.constant 8)
  | 0x08 => some .text
  | 0x09 => some (.skipped .grouped)
  | 0x0a => some (.skipped (.counted 1))
  | 0x0b => some (.constant 1)
  | 0x0c => some .flag
  | 0x0d => some .signed
  | 0x0e => some .textOffset
  | 0x0f => some .unsigned
  | 0x10 => some .anyEntry
  | 0x11 => some (.unitEntry 1)
  | 0x12 => some (.unitEntry 2)
  | 0x13 => some (.unitEntry 4)
  | 0x14 => some (.unitEntry 8)
  | 0x15 => some .groupedUnitEntry
  | 0x16 => some .indirect
  | 0x17 => some .sectionOffset
  | 0x18 => some (.skipped .grouped)
  | 0x19 => some .present
  | 0x1a => some .textIndex
  | 0x1b => some .addressIndex
  | 0x1c => some (.skipped (.fixed 4))
  | 0x1d => some (.skipped .offset)
  | 0x1e => some (.skipped (.fixed 16))
  | 0x1f => some .lineTextOffset
  | 0x20 => some (.skipped (.fixed 8))
  | 0x21 => some .implicit
  | 0x22 => some (.skipped .groups)
  | 0x23 => some (.skipped .groups)
  | 0x24 => some (.skipped (.fixed 8))
  | 0x25 => some (.fixedTextIndex 1)
  | 0x26 => some (.fixedTextIndex 2)
  | 0x27 => some (.fixedTextIndex 3)
  | 0x28 => some (.fixedTextIndex 4)
  | 0x29 => some (.fixedAddressIndex 1)
  | 0x2a => some (.fixedAddressIndex 2)
  | 0x2b => some (.fixedAddressIndex 3)
  | 0x2c => some (.fixedAddressIndex 4)
  | 0x1f01 => some .addressIndex
  | 0x1f02 => some .textIndex
  | 0x1f20 => some (.skipped .offset)
  | 0x1f21 => some (.skipped .offset)
  | _ => none

/-! The names of the attributes that are looked at. -/
namespace AttributeName

def sibling : Nat := 0x01
def location : Nat := 0x02
def name : Nat := 0x03
def byteSize : Nat := 0x0b
def lineTable : Nat := 0x10
def lowAddress : Nat := 0x11
def textLength : Nat := 0x19
def returnAddress : Nat := 0x2a
def startScope : Nat := 0x2c
def memberLocation : Nat := 0x38
def declaration : Nat := 0x3c
def frameBase : Nat := 0x40
def macroInfo : Nat := 0x43
def segment : Nat := 0x46
def staticLink : Nat := 0x48
def type : Nat := 0x49
def useLocation : Nat := 0x4a
def virtualLocation : Nat := 0x4d
def ranges : Nat := 0x55
def textOffsetsBase : Nat := 0x72
def addressesBase : Nat := 0x73
def macros : Nat := 0x79
def earlyAddressesBase : Nat := 0x2133

end AttributeName

/-- The attributes whose value, written as a constant of the size of an offset, is an offset. The
place of a member is one of them in the two oldest versions. -/
def takesOffset (version name : Nat) : Bool :=
  [AttributeName.location, AttributeName.lineTable, AttributeName.textLength,
    AttributeName.returnAddress, AttributeName.startScope, AttributeName.frameBase,
    AttributeName.macroInfo, AttributeName.macros, AttributeName.segment,
    AttributeName.staticLink, AttributeName.useLocation, AttributeName.virtualLocation,
    AttributeName.ranges].contains name
  || (name = AttributeName.memberLocation && (version = 2 || version = 3))

namespace Encoding

/-- Skips a value. -/
def skip (e : Encoding) : SkippedSize → ByteReader Unit
  | .fixed size => do let _ ← .take size
  | .counted size => do let _ ← .take (← .number e.order size)
  | .grouped => do let _ ← .take (← .unsigned)
  | .groups => do let _ ← .unsigned
  | .offset => do let _ ← e.offset

/-- Reads a value that is written in a form. A form that stands before its value has been read
already. -/
def value (e : Encoding) (spec : AttributeSpec) : Form → ByteReader AttributeValue
  | .address => .address <$> .number e.order e.addressSize
  | .constant size =>
    (if (size = 4 || size = 8) && size = e.offsetSize && takesOffset e.version spec.name then
      .sectionOffset else .unsigned) <$> .number e.order size
  | .unsigned => .unsigned <$> .unsigned
  | .signed => .signed <$> .signed
  | .implicit =>
    match spec.implicit with
    | some value => pure (.signed value)
    | none => .refuse
  | .flag => (fun b => .flag (b ≠ 0)) <$> .byte
  | .present => pure (.flag true)
  | .text => .text <$> .upToZero
  | .textOffset => .textAt <$> e.offset
  | .lineTextOffset => .lineTextAt <$> e.offset
  | .textIndex => .indexedText <$> .unsigned
  | .fixedTextIndex size => .indexedText <$> .number e.order size
  | .addressIndex => .indexedAddress <$> .unsigned
  | .fixedAddressIndex size => .indexedAddress <$> .number e.order size
  | .unitEntry size => .unitEntry <$> .number e.order size
  | .groupedUnitEntry => .unitEntry <$> .unsigned
  | .sectionOffset => .sectionOffset <$> e.offset
  | .anyEntry => do
    let _ ← .number e.order (if e.version = 2 then e.addressSize else e.offsetSize)
    pure .other
  | .skipped size => do
    e.skip size
    pure .other
  | .indirect => .refuse

/-- Reads the form that stands before a value. It may again say that the form stands there. -/
def indirectForm : ByteReader Form :=
  .loop (fun _ first => do
    match Form.ofCode (← number16From first) with
    | some .indirect => pure (.inl ())
    | some form => pure (.inr form)
    | none => .refuse) ()

/-- Reads an attribute. -/
def readAttribute (e : Encoding) (spec : AttributeSpec) : ByteReader (Nat × AttributeValue) := do
  let value ← match Form.ofCode spec.form with
    | some .indirect => do e.value spec (← indirectForm)
    | some form => e.value spec form
    | none => .refuse
  pure (spec.name, value)

/-- Reads attributes up to the first that cannot be read. -/
def readableAttributes (e : Encoding) : List AttributeSpec → List UInt8 →
    List (Nat × AttributeValue)
  | [], _ => []
  | spec :: specs, s =>
    match e.readAttribute spec s with
    | some (a, rest) => a :: readableAttributes e specs rest.1
    | none => []

end Encoding

end HeapScope.DebugInfo
