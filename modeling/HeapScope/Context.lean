import HeapScope.Memory.Reader
import HeapScope.Probe
import HeapScope.Target
import HeapScope.Text.Dump
import HeapScope.Value

/-!
# Inspection contexts

A context is what an inspection reads from: memory, registers if there are any, the types of the
loaded images, the object layout of the target, and the current stop. Every read of memory is
recorded, once for each call of the reader.
-/

namespace HeapScope

/-- What an inspection reads from. -/
structure Context where
  memory : MemoryReader
  registers : Option RegisterReader := none
  metadata : Metadata
  abi : Abi := Abi.wide
  stop : UInt64 := 1

namespace Context

/-- The error for a value of another stop. -/
def staleError (current : UInt64) (v : Value) : InspectionError :=
  .inaccessible (v.location.address?.getD 0)
    ("stale value handle (stop " ++ Text.decimal v.stop.toNat ++ ", current stop "
      ++ Text.decimal current.toNat ++ ")")

/-- Whether a value belongs to the current stop. -/
def isFresh (c : Context) (v : Value) : Bool := v.stop == c.stop

/-- Refuses a stale value. -/
def validate (c : Context) (v : Value) : Probe Unit :=
  if c.isFresh v then pure () else Probe.fail (staleError c.stop v)

/-- Records a read of `size` bytes at an address and ends as the read does. -/
def recordRead {α : Type} (address : UInt64) (size : Nat) (result : Except String α) :
    Probe α := do
  Probe.note (.memory address size)
  Probe.ofExcept (result.mapError (.inaccessible address))

/-- The reason for refusing fewer or more bytes than were asked for. -/
def shortRead (got size : Nat) : String :=
  "short read (" ++ Text.decimal got ++ " of " ++ Text.decimal size ++ " bytes)"

/-- Reads exactly `size` bytes. -/
def read (c : Context) (address : UInt64) (size : Nat) : Probe (List UInt8) := do
  let bytes ← recordRead address size (c.memory address size)
  if bytes.length = size then pure bytes
  else Probe.fail (.inaccessible address (shortRead bytes.length size))

/-- Reads a pointer, which must lie at a multiple of its width. -/
def readPointer (c : Context) (address : UInt64) : Probe UInt64 := do
  let width := c.abi.pointerSize.toNat
  if (← modExact address c.abi.pointerSize) ≠ 0 then
    Probe.fail (.inaccessible address "misaligned pointer")
  else if width = 4 ∨ width = 8 then
    recordRead address width (Memory.readPointer c.memory address width)
  else Probe.fail (.inaccessible address (Memory.unsupportedWidth width))

/-- Reads 32 bits as an unsigned number. -/
def readUInt32 (c : Context) (address : UInt64) : Probe UInt32 :=
  recordRead address 4 ((Memory.readNumber c.memory address 4).map UInt32.ofNat)

/-- Reads 32 bits as a signed number. -/
def readInt32 (c : Context) (address : UInt64) : Probe Int32 := do
  return (← c.readUInt32 address).toInt32

/-- Reads a register. -/
def readRegister (c : Context) (r : Register) : Probe UInt64 :=
  match c.registers with
  | none => Probe.fail (.inaccessible 0 ("register " ++ r.text ++ " is not available"))
  | some read => do
    Probe.note (.register r)
    Probe.ofExcept ((read r).mapError (.inaccessible 0))

/-- The address of the object that a value stands for, zero for null. -/
def objectAddress (c : Context) (v : Value) : Probe UInt64 :=
  match v.kind, v.location with
  | .reference, .memory slot => c.readPointer slot
  | .reference, .register r => c.readRegister r
  | .object, .memory address => pure address
  | .object, .register r =>
    Probe.fail (.malformed ("object cannot live in register " ++ r.text))
  | .scalar k, _ =>
    Probe.fail (.malformed (k.simpleName ++ " value is not an object reference"))

/-- Reads a primitive from memory or from the low bytes of a register. -/
def readScalar (c : Context) (location : ValueLocation) (k : PrimitiveKind) :
    Probe PrimitiveValue := do
  match location with
  | .memory address => Probe.ofExcept (k.decode (← c.read address k.size))
  | .register r => Probe.ofExcept (k.decode (toLittleEndian 8 (← c.readRegister r).toNat))

/-- The element count of the array, or the unit count of the string, at an address. -/
def arrayCount (c : Context) (object : UInt64) : Probe UInt32 := do
  c.readUInt32 (← addExact object c.abi.countOffset)

/-- A context as it is shown to developers. -/
def dump (c : Context) : String :=
  Text.dumpRecord "ExecutionContext"
    [("abi", Text.dumpRecord "AbiLayout"
       [("pointer_size", Text.decimal c.abi.pointerSize.toNat)]),
     ("stop_id", Text.decimal c.stop.toNat),
     ("has_registers", Text.dumpBool c.registers.isSome)]

end Context

end HeapScope
