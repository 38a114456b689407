import HeapScope.DebugInfo.Attribute
import HeapScope.Text.Utf8

/-!
# Units and their entries

Debug information comes in units, each with a header and entries of its own. Entries stand in the
order of a walk through their tree: the children of an entry follow it, and a zero in the place of
an entry ends them. An offset in a unit counts from the start of the header.
-/

namespace HeapScope.DebugInfo

/-- The sections that hold the debug information of a file. -/
structure Sections where
  order : ByteOrder
  units : List UInt8
  abbreviations : List UInt8
  texts : List UInt8
  lineTexts : List UInt8
  /-- Offsets of texts, by their numbers. -/
  textOffsets : List UInt8
  /-- Addresses, by their numbers. -/
  addresses : List UInt8

/-- An entry, with the attributes that could be read. -/
structure Entry where
  offset : Nat
  tag : Nat
  hasChildren : Bool
  attributes : List (Nat × AttributeValue)

/-- The value of an attribute. -/
def Entry.attribute? (e : Entry) (name : Nat) : Option AttributeValue := e.attributes.lookup name

/-- A unit. -/
structure DebugUnit where
  encoding : Encoding
  abbreviations : List Abbreviation
  /-- The bytes of the header. -/
  headerSize : Nat
  /-- The entries, as they are stored. -/
  body : List UInt8
  /-- Where the table of text offsets starts. -/
  textOffsetsBase : Nat := 0

namespace DebugUnit

/-- What a unit takes, with its header. -/
def size (u : DebugUnit) : Nat := u.headerSize + u.body.length

/-- Reads the code of an entry, of which the first byte is known, and looks it up. There is no
abbreviation for zero, which ends the children of an entry. -/
def readCode (u : DebugUnit) (first : UInt8) : ByteReader (Option Abbreviation) := do
  let code ← .unsignedFrom first
  if code = 0 then pure none
  else
    match u.abbreviations.find? fun a => a.code = code with
    | some a => pure (some a)
    | none => .refuse

/-- Reads the attributes of an abbreviation. -/
def readAttributes (u : DebugUnit) (a : Abbreviation) :
    ByteReader (List (Nat × AttributeValue)) :=
  a.attributes.mapM u.encoding.readAttribute

/-- Reads an entry of which the first byte is known. -/
def readEntry (u : DebugUnit) (first : UInt8) : ByteReader (Option Entry) := do
  let left ← .remaining
  match ← u.readCode first with
  | none => pure none
  | some a =>
    let attributes ← u.readAttributes a
    pure (some { offset := u.size - (left + 1), tag := a.tag, hasChildren := a.hasChildren
                 attributes })

/-- The entries of a unit, in order. -/
def entries (u : DebugUnit) : Option (List Entry) :=
  (ByteReader.all u.readEntry u.body).map (·.filterMap id)

/-- The bytes from an offset to the end of the unit. There are none in its header. -/
def bytesFrom (u : DebugUnit) (offset : Nat) : List UInt8 :=
  if offset < u.headerSize then [] else u.body.drop (offset - u.headerSize)

/-- The entry at an offset, as far as it can be read. -/
def entryAt (u : DebugUnit) (offset : Nat) : Option Entry :=
  match u.bytesFrom offset with
  | [] => none
  | first :: s =>
    match u.readCode first s with
    | some (some a, rest) => some
      { offset, tag := a.tag, hasChildren := a.hasChildren
        attributes := u.encoding.readableAttributes a.attributes rest.1 }
    | _ => none

/-- Where an entry says that the next one on its level starts. -/
def siblingOf (u : DebugUnit) (e : Entry) : List UInt8 :=
  match e.attribute? AttributeName.sibling with
  | some (.unitEntry offset) => u.bytesFrom offset
  | _ => []

/-- The entries up to the end of a level, `depth` levels below which the bytes start. Where an entry
with children says where the next one on its level starts, and it starts further on, the entries
between are passed over. -/
def level (u : DebugUnit) (depth : Nat) : List UInt8 → Option (List Entry)
  | [] => some []
  | first :: s =>
    match u.readCode first s with
    | none => none
    | some (none, rest) =>
      match depth with
      | 0 => some []
      | above + 1 => u.level above rest.1
    | some (some a, rest) =>
      let e : Entry :=
        { offset := u.size - (s.length + 1), tag := a.tag, hasChildren := a.hasChildren
          attributes := u.encoding.readableAttributes a.attributes rest.1 }
      let found := if depth = 0 then [e] else []
      let sibling := u.siblingOf e
      if _further : a.hasChildren ∧ sibling ≠ [] ∧ sibling.length ≤ s.length then
        (u.level depth sibling).map (found ++ ·)
      else
        match u.readAttributes a rest.1 with
        | none => none
        | some (_, last) =>
          (u.level (if a.hasChildren then depth + 1 else depth) last.1).map (found ++ ·)
termination_by s => s.length
decreasing_by
  · exact Nat.lt_succ_of_le rest.2
  · exact Nat.lt_succ_of_le _further.2.2
  · exact Nat.lt_succ_of_le (Nat.le_trans last.2 rest.2)

/-- The entries directly below the entry at an offset. -/
def childrenOf (u : DebugUnit) (offset : Nat) : Option (List Entry) :=
  match u.bytesFrom offset with
  | [] => none
  | first :: s =>
    match u.readEntry first s with
    | some (some e, rest) => if e.hasChildren then u.level 0 rest.1 else some []
    | _ => none

end DebugUnit

/-- A number in a table of numbers of one size. -/
def numberAt (order : ByteOrder) (table : List UInt8) (base size index : Nat) : Option Nat :=
  (ByteReader.number order size).value (table.drop (base + index * size))

/-- The text of an attribute, if it has one. -/
def textOf (sections : Sections) (u : DebugUnit) (value : AttributeValue) : Option String :=
  let readAt (texts : List UInt8) (offset : Nat) := ByteReader.upToZero.value (texts.drop offset)
  let bytes :=
    match value with
    | .text bytes => some bytes
    | .textAt offset => readAt sections.texts offset
    | .lineTextAt offset => readAt sections.lineTexts offset
    | .indexedText index =>
      (numberAt u.encoding.order sections.textOffsets u.textOffsetsBase u.encoding.offsetSize
        index).bind (readAt sections.texts)
    | _ => none
  bytes.map Text.ofUtf8Leniently

/-- The name of an entry. -/
def nameOf (sections : Sections) (u : DebugUnit) (e : Entry) : Option String :=
  (e.attribute? AttributeName.name).bind (textOf sections u)

/-- Reads the length that a unit starts with, of which the first byte is known, and with it the size
of its offsets. The greatest numbers of four bytes are no lengths; the last of them says that the
length has eight. -/
def readLength (order : ByteOrder) (first : UInt8) : ByteReader (Nat × Nat) := do
  let short := order.number (first :: (← .take 3))
  if short < 0xfffffff0 then pure (short, 4)
  else do
    .require (short = 0xffffffff)
    let long ← .number order 8
    pure (long, 8)

/-- The kinds of units that their headers tell apart, by what else the header of the kind holds. -/
def skipUnitKind (e : Encoding) : (kind : Nat) → ByteReader Unit
  | 1 | 3 => pure ()
  | 2 | 6 => do
    let _signature ← .take 8
    let _type ← e.offset
  | 4 | 5 => do
    let _ ← .take 8
  | _ => .refuse

/-- Reads the header of a unit behind its length, and takes its entries to the end of the bytes. -/
def readHeader (sections : Sections) (offsetSize : Nat) : ByteReader DebugUnit := do
  let length ← .remaining
  let order := sections.order
  let version ← .number order 2
  .require (2 ≤ version && version ≤ 5)
  let kind ← if version = 5 then .number order 1 else pure 1
  let early ← if version = 5 then pure none else some <$> .number order offsetSize
  let addressSize ← .number order 1
  .require ([1, 2, 4, 8].contains addressSize)
  let tableOffset ← match early with
    | some offset => pure offset
    | none => .number order offsetSize
  let encoding : Encoding := { order, version, offsetSize, addressSize }
  skipUnitKind encoding kind
  let left ← .remaining
  let body ← .take left
  match abbreviationsAt sections.abbreviations tableOffset with
  | none => .refuse
  | some abbreviations =>
    let lengthSize := if offsetSize = 8 then 12 else 4
    pure { encoding, abbreviations, headerSize := lengthSize + (length - left), body }

/-- The last value of an attribute that is an offset into another section. -/
def lastOffset (e : Entry) (names : List Nat) : Option Nat :=
  (e.attributes.reverse.filterMap fun (name, value) =>
    match value with
    | .sectionOffset offset => if names.contains name then some offset else none
    | _ => none).head?

/-- The address at which the code of a unit starts can be read, if it is in a table. -/
def lowAddressReadable (sections : Sections) (u : DebugUnit) (root : Entry) : Bool :=
  match root.attributes.reverse.lookup AttributeName.lowAddress with
  | some (.indexedAddress index) =>
    let base := (lastOffset root
      [AttributeName.addressesBase, AttributeName.earlyAddressesBase]).getD 0
    (numberAt u.encoding.order sections.addresses base u.encoding.addressSize index).isSome
  | _ => true

/-- Takes from the first entry of a unit what it says of the unit. A unit must have an entry, and
must not refer to a line table, since there are none. -/
def withRoot (sections : Sections) (u : DebugUnit) (entries : List Entry) : Option DebugUnit :=
  match entries with
  | [] => none
  | root :: _ =>
    if (lastOffset root [AttributeName.lineTable]).isNone && lowAddressReadable sections u root then
      some { u with
        textOffsetsBase := (lastOffset root [AttributeName.textOffsetsBase]).getD 0 }
    else none

/-- Reads a unit, of which the first byte is known, and its entries. -/
def readUnit (sections : Sections) (first : UInt8) : ByteReader (DebugUnit × List Entry) := do
  let (length, offsetSize) ← readLength sections.order first
  let bytes ← .take length
  let read := do
    let u ← (readHeader sections offsetSize).value bytes
    let entries ← u.entries
    pure (← withRoot sections u entries, entries)
  match read with
  | some result => pure result
  | none => .refuse

end HeapScope.DebugInfo
