import HeapScope.Elf.Section
import HeapScope.Symbol

/-!
# ELF files

An ELF file is read as a whole or not at all: its tables must lie in the file and must be
consistent with each other. A file that is read gives the contents of its sections by name, and its
symbols.
-/

namespace HeapScope.Elf

/-- An entry of a symbol table. -/
structure SymbolEntry where
  nameStart : Nat
  /-- The section that the symbol lies in, where 0 is none. -/
  sectionIndex : Nat
  address : Nat
  size : Nat
deriving DecidableEq, Repr

/-- Reads an entry of a symbol table. The two widths order the fields differently. -/
def readSymbolEntry (e : Encoding) : ByteReader SymbolEntry := do
  let nameStart ← e.quad
  if e.wide then
    let _kind ← ByteReader.take 2
    let sectionIndex ← e.half
    let address ← e.word
    let size ← e.word
    pure { nameStart, sectionIndex, address, size }
  else
    let address ← e.word
    let size ← e.word
    let _kind ← ByteReader.take 2
    let sectionIndex ← e.half
    pure { nameStart, sectionIndex, address, size }

/-- A symbol table: its entries, the first of which stands for no symbol, and their names. -/
structure SymbolEntries where
  /-- The section that holds the table, or 0. -/
  index : Nat := 0
  entries : List SymbolEntry := []
  names : Option Texts := none

/-- The stretch of names that a symbol table links to. It must be a section of texts, where 0
stands for none. -/
def readSymbolNames (sections : List Section) (link : Nat) : Option (Option Texts) :=
  if link = 0 then some none
  else do
    let names ← sections[link]?
    if names.kind = SectionKind.texts then names.asTexts.map some else none

/-- Reads the first section of a kind as a symbol table. Sections that hold the long section numbers
of its symbols must be readable too. -/
def readSymbolEntries (e : Encoding) (file : List UInt8) (sections : List Section) (kind : Nat) :
    Option SymbolEntries :=
  match sections.zipIdx.find? fun (s, _) => s.kind = kind with
  | none => some {}
  | some (s, index) => do
    let entries ← readEntries e.symbolEntrySize (readSymbolEntry e) (← s.contents file)
    let names ← readSymbolNames sections s.link
    let extended := sections.filter fun x => x.kind = SectionKind.symbolSections ∧ x.link = index
    if extended.all fun x => (x.contents file).isSome then pure { index, entries, names } else none

/-- Whether a section holds relocations. -/
def Section.relocates (s : Section) : Bool :=
  s.kind = SectionKind.longRelocations || s.kind = SectionKind.shortRelocations

/-- Whether relocations name a section that they can apply to. Those of other symbol tables, and
those that apply to no section, are not looked at. -/
def Section.relocationTargetValid (s : Section) (symbolTable : Nat) (sections : List Section) :
    Bool :=
  !s.relocates || s.link ≠ symbolTable || s.info = 0 ||
    match sections[s.info]? with
    | some target => !target.relocates
    | none => false

/-- An ELF file. -/
structure File where
  bytes : List UInt8
  header : Header
  sections : List Section
  sectionNames : Option Texts
  symbolEntries : SymbolEntries

namespace File

/-- Reads a file. -/
def read? (bytes : List UInt8) : Option File := do
  let header ← readHeader.value bytes
  let e := header.encoding
  if !segmentsReadable header bytes then none
  let sections ← readSections header bytes
  let sectionNames ← readSectionNames header bytes sections
  let symbolEntries ← readSymbolEntries e bytes sections SectionKind.symbols
  let _dynamic ← readSymbolEntries e bytes sections SectionKind.dynamicSymbols
  if sections.all fun s => s.relocationTargetValid symbolEntries.index sections then
    pure { bytes, header, sections, sectionNames, symbolEntries }
  else none

/-- Whether the addresses in the file are relative to where it is loaded. -/
def relocatable (f : File) : Bool := f.header.kind = sharedKind

/-- The bytes of an address. -/
def pointerSize (f : File) : Nat := f.header.encoding.wordSize

/-- The name of a section. -/
def sectionName (f : File) (s : Section) : Option (List UInt8) :=
  f.sectionNames.bind fun t => t.bytesAt f.bytes s.nameStart

/-- The first section of a name. -/
def sectionNamed (f : File) (name : String) : Option Section :=
  let wanted := name.toList.flatMap String.utf8EncodeChar
  f.sections.find? fun s => f.sectionName s = some wanted

/-- The contents of a section of debug information, as they are stored. A `z` before the name marks
a packed section, which counts if there is no other. A section that is absent, or does not lie in
the file, is empty. -/
def debugContents (f : File) (name : String) : List UInt8 :=
  let found := (f.sectionNamed (".debug_" ++ name)).or (f.sectionNamed (".zdebug_" ++ name))
  (found.bind fun s => s.contents f.bytes).getD []

/-- The symbol of an entry. Entries without a section or a name, or with a name that is not well
formed, stand for none. -/
def symbolOf (f : File) (entry : SymbolEntry) : Option Symbol := do
  let names ← f.symbolEntries.names
  let name ← Text.ofUtf8? (← names.bytesAt f.bytes entry.nameStart)
  if name = "" ∨ entry.sectionIndex = 0 then none
  else pure { name, address := UInt64.ofNat entry.address, size := UInt64.ofNat entry.size }

/-- The symbols of the file. -/
def symbols (f : File) : SymbolTable where
  given := f.symbolEntries.entries.tail.filterMap f.symbolOf
  relocatable := f.relocatable

end File

end HeapScope.Elf
