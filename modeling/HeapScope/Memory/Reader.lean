import HeapScope.Primitive

/-!
# Reading memory

A memory reader returns the bytes at an address, or a reason why it cannot. It may return another
number of bytes than it was asked for; the readers of fixed width built on it refuse that. All
numbers are stored with their least significant byte first.
-/

namespace HeapScope

/-- What reads memory: an address and a number of bytes, to the bytes or a reason. -/
abbrev MemoryReader := UInt64 → Nat → Except String (List UInt8)

namespace Memory

/-- The reason for refusing bytes of the wrong number. -/
def wrongLength (address : UInt64) (got expected : Nat) : String :=
  "Failed to convert " ++ Text.decimal got ++ " bytes at " ++ Text.hex address
    ++ " (expected " ++ Text.decimal expected ++ " bytes)"

/-- The number that exactly `size` bytes at an address stand for. -/
def readNumber (memory : MemoryReader) (address : UInt64) (size : Nat) : Except String Nat := do
  let bytes ← memory address size
  if bytes.length = size then pure (littleEndian bytes)
  else throw (wrongLength address bytes.length size)

/-- The first byte of what is read at an address. -/
def readByte (memory : MemoryReader) (address : UInt64) : Except String UInt8 := do
  match ← memory address 1 with
  | b :: _ => pure b
  | [] => throw ("Cannot read u8 from empty bytes at " ++ Text.hex address)

/-- The reason for refusing a pointer width. -/
def unsupportedWidth (width : Nat) : String :=
  "Unsupported pointer width: " ++ Text.decimal width

/-- A pointer of four or eight bytes. -/
def readPointer (memory : MemoryReader) (address : UInt64) (width : Nat) :
    Except String UInt64 :=
  if width = 4 ∨ width = 8 then (readNumber memory address width).map UInt64.ofNat
  else .error (unsupportedWidth width)

end Memory

end HeapScope
