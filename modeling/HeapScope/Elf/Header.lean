import HeapScope.Bytes.Reader

/-!
# The header of an ELF file

The header says how the file is written, 32 or 64 bits wide and in which byte order, what kind of
file it is, and where its tables of segments and sections lie. A number as wide as an address is
called a word.
-/

namespace HeapScope.Elf

/-- How the numbers of a file are stored. -/
structure Encoding where
  order : ByteOrder
  wide : Bool
deriving DecidableEq, Repr

namespace Encoding

/-- The bytes of a word. -/
def wordSize (e : Encoding) : Nat := if e.wide then 8 else 4

/-- A number of two bytes. -/
def half (e : Encoding) : ByteReader Nat := .number e.order 2

/-- A number of four bytes. -/
def quad (e : Encoding) : ByteReader Nat := .number e.order 4

/-- A word. -/
def word (e : Encoding) : ByteReader Nat := .number e.order e.wordSize

/-- The size of an entry in the table of segments. -/
def segmentEntrySize (e : Encoding) : Nat := if e.wide then 56 else 32

/-- The size of an entry in the table of sections. -/
def sectionEntrySize (e : Encoding) : Nat := if e.wide then 64 else 40

/-- The size of an entry in a symbol table. -/
def symbolEntrySize (e : Encoding) : Nat := if e.wide then 24 else 16

end Encoding

/-- A table of entries of one size: its place in the file, and the size and number of its entries
as the header states them. -/
structure TableHeader where
  start : Nat
  entrySize : Nat
  count : Nat
deriving DecidableEq, Repr

/-- The header of an ELF file. -/
structure Header where
  encoding : Encoding
  /-- What kind of file it is, by its number. -/
  kind : Nat
  segments : TableHeader
  sections : TableHeader
  /-- The section that holds the names of the sections. -/
  namesIndex : Nat
deriving DecidableEq, Repr

/-- The kind of a file that can be loaded at any address. -/
def sharedKind : Nat := 3

/-- Reads the sixteen bytes that every ELF file starts with: a mark, the width, the byte order, and
the version of the format. -/
def readIdentification : ByteReader Encoding := do
  match ← ByteReader.take 16 with
  | 0x7f :: 0x45 :: 0x4c :: 0x46 :: width :: order :: version :: _ =>
    ByteReader.require ((width = 1 || width = 2) && (order = 1 || order = 2) && version = 1)
    pure ⟨if order = 1 then .leastFirst else .mostFirst, width = 2⟩
  | _ => .refuse

/-- Reads the header of a file. -/
def readHeader : ByteReader Header := do
  let e ← readIdentification
  let kind ← e.half
  let _machine ← e.half
  let _version ← e.quad
  let _entryPoint ← e.word
  let segmentsStart ← e.word
  let sectionsStart ← e.word
  let _flags ← e.quad
  let _headerSize ← e.half
  let segmentSize ← e.half
  let segmentCount ← e.half
  let sectionSize ← e.half
  let sectionCount ← e.half
  let namesIndex ← e.half
  pure
    { encoding := e, kind, namesIndex
      segments := ⟨segmentsStart, segmentSize, segmentCount⟩
      sections := ⟨sectionsStart, sectionSize, sectionCount⟩ }

end HeapScope.Elf
