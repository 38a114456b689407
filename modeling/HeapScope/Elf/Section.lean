import HeapScope.Elf.Header
import HeapScope.Text.Utf8

/-!
# The sections of an ELF file

A section is a named stretch of the file. Section 0 is not a section: where a count or a number of
the header does not fit into its two bytes, the entry of section 0 holds it.

Names are kept apart, in stretches of texts that each end with a zero byte; an entry holds where
its name starts.
-/

namespace HeapScope.Elf

/-- What the table of sections says of a section. -/
structure Section where
  nameStart : Nat
  kind : Nat
  start : Nat
  size : Nat
  /-- A section that this one goes with, by its number. -/
  link : Nat
  /-- A further number, whose meaning depends on the kind. -/
  info : Nat
deriving DecidableEq, Repr

/-! The kinds of sections that are told apart. -/

namespace SectionKind

def symbols : Nat := 2
def texts : Nat := 3
def longRelocations : Nat := 4
def withoutData : Nat := 8
def shortRelocations : Nat := 9
def dynamicSymbols : Nat := 11
def symbolSections : Nat := 18

end SectionKind

/-- Reads an entry of the table of sections. -/
def readSection (e : Encoding) : ByteReader Section := do
  let nameStart ← e.quad
  let kind ← e.quad
  let _flags ← e.word
  let _address ← e.word
  let start ← e.word
  let size ← e.word
  let link ← e.quad
  let info ← e.quad
  let _alignment ← e.word
  let _entrySize ← e.word
  pure { nameStart, kind, start, size, link, info }

/-- A stretch of a file. -/
def slice (file : List UInt8) (start size : Nat) : Option (List UInt8) :=
  if start + size ≤ file.length then some ((file.drop start).take size) else none

/-- Cuts bytes into entries of one size and reads each. What is left over at the end is ignored. -/
def readEntries {α : Type} (size : Nat) (entry : ByteReader α) (bytes : List UInt8) :
    Option (List α) :=
  (List.range (bytes.length / size)).mapM fun i => entry.value (bytes.drop (i * size))

/-- The bytes of a section. -/
def Section.contents (s : Section) (file : List UInt8) : Option (List UInt8) :=
  if s.kind = SectionKind.withoutData then some [] else slice file s.start s.size

/-- A stretch of texts in a file, from one place up to another. -/
structure Texts where
  start : Nat
  stop : Nat
deriving DecidableEq, Repr

namespace Texts

/-- The text that starts at a place in the stretch. The stretch must lie in the file. -/
def bytesAt (t : Texts) (file : List UInt8) (place : Nat) : Option (List UInt8) :=
  if t.start + place ≤ t.stop ∧ t.stop ≤ file.length then
    ByteReader.upToZero.value ((file.take t.stop).drop (t.start + place))
  else none

end Texts

/-- The stretch that a section covers. Its end must be a number of 64 bits. -/
def Section.asTexts (s : Section) : Option Texts :=
  if s.start + s.size < UInt64.size then some ⟨s.start, s.start + s.size⟩ else none

/-- The entry of section 0. -/
def sectionZero (h : Header) (file : List UInt8) : Option Section :=
  if h.sections.entrySize = h.encoding.sectionEntrySize then
    (slice file h.sections.start h.encoding.sectionEntrySize).bind
      (readSection h.encoding).value
  else none

/-- The number of sections. A table at place 0 is absent. -/
def sectionCount (h : Header) (file : List UInt8) : Option Nat :=
  if h.sections.start = 0 then some 0
  else if h.sections.count ≠ 0 then some h.sections.count
  else (sectionZero h file).map (·.size)

/-- Reads a table that must have entries of a given size, unless it is empty. -/
def readTable {α : Type} (t : TableHeader) (count size : Nat) (entry : ByteReader α)
    (file : List UInt8) : Option (List α) :=
  if count = 0 then some []
  else if t.entrySize = size then
    (slice file t.start (count * size)).bind (readEntries size entry)
  else none

/-- The sections of a file, section 0 among them. -/
def readSections (h : Header) (file : List UInt8) : Option (List Section) := do
  readTable h.sections (← sectionCount h file) h.encoding.sectionEntrySize
    (readSection h.encoding) file

/-- The stretch of section names. There is none if there are no sections, or if the section that
should hold it has no data. -/
def readSectionNames (h : Header) (file : List UInt8) (sections : List Section) :
    Option (Option Texts) :=
  if sections.isEmpty then some none
  else do
    let index ← if h.namesIndex = 0xffff then
        if h.sections.start = 0 then none else (sectionZero h file).map (·.link)
      else some h.namesIndex
    let names ← sections[index]?
    if names.kind = SectionKind.withoutData then some none else names.asTexts.map some

/-- Whether the table of segments can be read. Nothing is taken from it. -/
def segmentsReadable (h : Header) (file : List UInt8) : Bool :=
  if h.segments.start = 0 then true
  else
    let count := if h.segments.count < 0xffff then some h.segments.count
      else if h.sections.start = 0 then none
      else (sectionZero h file).map (·.info)
    match count with
    | none => false
    | some count =>
      (readTable h.segments count h.encoding.segmentEntrySize (pure ()) file).isSome

end HeapScope.Elf
