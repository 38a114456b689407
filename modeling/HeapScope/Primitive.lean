import HeapScope.Decimal.Shortest
import HeapScope.Error

/-!
# Primitive values

The twelve primitive kinds, the bytes that a value of each takes, and the text of a value. Values
are stored with their least significant byte first. Reading needs at least the bytes of the kind
and looks at no others.
-/

namespace HeapScope

/-- A primitive kind of Kotlin. -/
inductive PrimitiveKind where
  | byte | short | int | long | float | double | boolean | char | ubyte | ushort | uint | ulong
deriving DecidableEq, Repr

namespace PrimitiveKind

/-- Every kind, in the order of declaration. -/
def all : List PrimitiveKind :=
  [byte, short, int, long, float, double, boolean, char, ubyte, ushort, uint, ulong]

/-- The bytes that a value of the kind takes. -/
def size : PrimitiveKind → Nat
  | byte | ubyte | boolean => 1
  | short | ushort | char => 2
  | int | uint | float => 4
  | long | ulong | double => 8

/-- The name without its package. -/
def simpleName : PrimitiveKind → String
  | byte => "Byte"
  | short => "Short"
  | int => "Int"
  | long => "Long"
  | float => "Float"
  | double => "Double"
  | boolean => "Boolean"
  | char => "Char"
  | ubyte => "UByte"
  | ushort => "UShort"
  | uint => "UInt"
  | ulong => "ULong"

/-- The name with its package. -/
def qualifiedName (k : PrimitiveKind) : String := "kotlin." ++ k.simpleName

/-- The kind of a name without its package. -/
def ofSimpleName (name : String) : Option PrimitiveKind :=
  all.find? fun k => k.simpleName == name

/-- The kind of a name with its package. -/
def ofQualifiedName (name : String) : Option PrimitiveKind :=
  all.find? fun k => k.qualifiedName == name

/-- The names that debug information gives to base types, with their kinds. -/
def baseTypeNames : List (String × PrimitiveKind) :=
  [("int8_t", byte), ("signed char", byte), ("char", byte),
   ("int16_t", short), ("short", short),
   ("int32_t", int), ("int", int),
   ("int64_t", long), ("long", long), ("long long", long),
   ("float", float), ("double", double),
   ("bool", boolean), ("_Bool", boolean),
   ("uint16_t", char), ("char16_t", char),
   ("uint8_t", ubyte), ("unsigned char", ubyte),
   ("unsigned short", ushort),
   ("uint32_t", uint), ("unsigned int", uint),
   ("uint64_t", ulong), ("unsigned long", ulong), ("unsigned long long", ulong)]

/-- The kind of a base type named in debug information. -/
def ofBaseTypeName (name : String) : Option PrimitiveKind :=
  baseTypeNames.lookup name

end PrimitiveKind

/-- A primitive value. The two floating-point kinds hold their bits, `char` a 16-bit unit. -/
inductive PrimitiveValue where
  | byte (value : Int8)
  | short (value : Int16)
  | int (value : Int32)
  | long (value : Int64)
  | float (bits : UInt32)
  | double (bits : UInt64)
  | boolean (value : Bool)
  | char (unit : UInt16)
  | ubyte (value : UInt8)
  | ushort (value : UInt16)
  | uint (value : UInt32)
  | ulong (value : UInt64)
deriving DecidableEq, Repr

/-- The number that bytes stand for, the least significant first. -/
def littleEndian : List UInt8 → Nat
  | [] => 0
  | b :: r => b.toNat + 256 * littleEndian r

/-- The first `size` bytes of a number, the least significant first. -/
def toLittleEndian : Nat → Nat → List UInt8
  | 0, _ => []
  | size + 1, n => UInt8.ofNat (n % 256) :: toLittleEndian size (n / 256)

namespace PrimitiveKind

/-- The value of a kind whose bytes stand for a number. -/
def ofNumber (k : PrimitiveKind) (n : Nat) : PrimitiveValue :=
  match k with
  | byte => .byte (UInt8.ofNat n).toInt8
  | short => .short (UInt16.ofNat n).toInt16
  | int => .int (UInt32.ofNat n).toInt32
  | long => .long (UInt64.ofNat n).toInt64
  | float => .float (UInt32.ofNat n)
  | double => .double (UInt64.ofNat n)
  | boolean => .boolean (UInt8.ofNat n != 0)
  | char => .char (UInt16.ofNat n)
  | ubyte => .ubyte (UInt8.ofNat n)
  | ushort => .ushort (UInt16.ofNat n)
  | uint => .uint (UInt32.ofNat n)
  | ulong => .ulong (UInt64.ofNat n)

/-- Reads a value from the front of a byte sequence. -/
def decode (k : PrimitiveKind) (bytes : List UInt8) : Except InspectionError PrimitiveValue :=
  if bytes.length < k.size then
    .error (.malformed (k.simpleName ++ " needs " ++ Text.decimal k.size ++ " bytes, got "
      ++ Text.decimal bytes.length))
  else .ok (k.ofNumber (littleEndian (bytes.take k.size)))

end PrimitiveKind

namespace PrimitiveValue

/-- The truth value of a Boolean. -/
def asBool : PrimitiveValue → Option Bool
  | boolean b => some b
  | _ => none

/-- Whether a 16-bit unit is a character that is no control. -/
def isVisibleUnit (unit : UInt16) : Bool :=
  !(unit < 0x20 || (0x7F ≤ unit && unit < 0xA0) || (0xD800 ≤ unit && unit < 0xE000))

/-- A 16-bit unit between single quotes: the character itself, or its four hexadecimal digits for a
control or a surrogate. -/
def unitText (unit : UInt16) : String :=
  String.ofList <|
    if isVisibleUnit unit then ['\'', Char.ofNat unit.toNat, '\'']
    else '\'' :: '\\' :: 'u' :: (Text.padHex 4 unit.toNat ++ ['\''])

/-- The text of a value. -/
def text : PrimitiveValue → String
  | byte v => Text.signed v.toInt
  | short v => Text.signed v.toInt
  | int v => Text.signed v.toInt
  | long v => Text.signed v.toInt
  | float bits => Decimal.BinaryFormat.single.text bits.toNat
  | double bits => Decimal.BinaryFormat.double.text bits.toNat
  | boolean b => if b then "true" else "false"
  | char unit => unitText unit
  | ubyte v => Text.decimal v.toNat
  | ushort v => Text.decimal v.toNat
  | uint v => Text.decimal v.toNat
  | ulong v => Text.decimal v.toNat

end PrimitiveValue

end HeapScope
