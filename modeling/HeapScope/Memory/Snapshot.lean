import HeapScope.Memory.Reader

/-!
# Captured memory

A snapshot is a set of regions, each a start address and its bytes, in ascending order of their
starts. An address belongs to the region with the greatest start that is not above it; a read or a
write must stay inside that region, whatever other regions hold the same addresses.
-/

namespace HeapScope

/-- A run of captured bytes. -/
structure Region where
  start : UInt64
  bytes : List UInt8
deriving DecidableEq, Repr

/-- Captured memory: regions in ascending order of distinct starts. -/
structure MemorySnapshot where
  regions : List Region := []
deriving DecidableEq, Repr

namespace MemorySnapshot

/-- Puts a region in its place among others, instead of one with the same start. -/
def insertRegion (r : Region) : List Region → List Region
  | [] => [r]
  | s :: rest =>
    if r.start < s.start then r :: s :: rest
    else if r.start = s.start then r :: rest
    else s :: insertRegion r rest

/-- Adds a region. -/
def addRegion (m : MemorySnapshot) (start : UInt64) (bytes : List UInt8) : MemorySnapshot :=
  ⟨insertRegion ⟨start, bytes⟩ m.regions⟩

/-- Adds a region of zeros. -/
def addZeros (m : MemorySnapshot) (start : UInt64) (size : Nat) : MemorySnapshot :=
  m.addRegion start (List.replicate size 0)

/-- Adds regions in order. -/
def addRegions (m : MemorySnapshot) (regions : List (UInt64 × List UInt8)) : MemorySnapshot :=
  regions.foldl (fun m r => m.addRegion r.1 r.2) m

/-- The region that an address belongs to. -/
def regionOf (m : MemorySnapshot) (address : UInt64) : Option Region :=
  (m.regions.filter fun r => r.start ≤ address).getLast?

/-- The reason why nothing lies at an address. -/
def notMapped (address : UInt64) : String := "Address " ++ Text.hex address ++ " is not mapped"

/-- The reason why a read leaves its region. -/
def readOutside (address : UInt64) (size : Nat) : String :=
  "Read of " ++ Text.decimal size ++ " bytes at " ++ Text.hex address
    ++ " is outside mapped memory"

/-- The reason why a write leaves its region. -/
def writeOutside (address : UInt64) (size : Nat) : String :=
  "Write of " ++ Text.decimal size ++ " bytes at " ++ Text.hex address ++ " leaves the region"

/-- Reads bytes. The first one must lie in the region even if none is wanted. -/
def read (m : MemorySnapshot) : MemoryReader := fun address size =>
  match m.regionOf address with
  | none => .error (notMapped address)
  | some r =>
    let offset := address.toNat - r.start.toNat
    if offset < r.bytes.length ∧ offset + size ≤ r.bytes.length then
      .ok ((r.bytes.drop offset).take size)
    else .error (readOutside address size)

/-- Bytes with others written over them from an offset. -/
def overwrite (old : List UInt8) (offset : Nat) (new : List UInt8) : List UInt8 :=
  old.take offset ++ new ++ old.drop (offset + new.length)

/-- Writes bytes into a region. The snapshot that results is returned also when the write is
refused. -/
def write (m : MemorySnapshot) (address : UInt64) (bytes : List UInt8) :
    Except String Unit × MemorySnapshot :=
  match m.regionOf address with
  | none => (.error (notMapped address), m)
  | some r =>
    let offset := address.toNat - r.start.toNat
    if offset + bytes.length ≤ r.bytes.length then
      (.ok (), ⟨m.regions.map fun s =>
        if s.start = r.start then ⟨s.start, overwrite s.bytes offset bytes⟩ else s⟩)
    else (.error (writeOutside address bytes.length), m)

/-- Writes a number of `size` bytes. -/
def writeNumber (m : MemorySnapshot) (address : UInt64) (size n : Nat) :
    Except String Unit × MemorySnapshot :=
  m.write address (toLittleEndian size n)

end MemorySnapshot

end HeapScope
