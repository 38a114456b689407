import HeapScope.Collection
import HeapScope.DynamicType
import HeapScope.Formatter.Config
import HeapScope.Text.Utf16

/-!
# What is built in for each kind of type

The texts and the children of values that need no other value to be formatted: primitives, boxes,
strings, arrays of primitives, collections and the fields of classes. What stands inside an array of
references is formatted by whoever asks.
-/

namespace HeapScope.Builtin

/-- The text for null. -/
def nullText : String := "null"

/-- Runs a probe on the object that a value stands for, unless that is null. -/
def withObject {α : Type} (c : Context) (v : Value) (ifNull : α) (p : UInt64 → Probe α) :
    Probe α := do
  let object ← c.objectAddress v
  if object = 0 then return ifNull else p object

/-- The layout of a type: its own, or the one recorded under its name. -/
def layoutOf (c : Context) (t : TypeDescriptor) : Option ClassLayout :=
  t.layout.or ((c.metadata.typeByName t.name).bind (·.layout))

/-- The text of the primitive at a location. -/
def primitiveText (c : Context) (location : ValueLocation) (k : PrimitiveKind) : Probe String := do
  return (← c.readScalar location k).text

/-- The text of a primitive that is stored in place. -/
def scalarText (c : Context) (v : Value) (k : PrimitiveKind) : Probe String :=
  match v.kind with
  | .scalar stored => primitiveText c v.location stored
  | _ =>
    Probe.fail (.malformed (k.simpleName ++ " value at " ++ v.location.text
      ++ " is not stored as a scalar"))

/-- The text of a boxed primitive. The value may already stand for what is inside the box. -/
def boxedText (c : Context) (v : Value) (k : PrimitiveKind) : Probe String :=
  match v.kind with
  | .scalar stored => primitiveText c v.location stored
  | _ =>
    withObject c v nullText fun object => do
      let offset ← c.abi.boxedOffset (UInt64.ofNat k.size)
      primitiveText c (.memory (← addExact object offset)) k

/-- The mark of what is left out. -/
def ellipsis : String := "..."

/-- The first units of the string at an address. -/
def stringUnits (c : Context) (object : UInt64) (count : Nat) : Probe (List UInt16) := do
  if count = 0 then return []
  else
    let data ← addExact object (← c.abi.dataOffset)
    return Text.Utf16.ofBytes (← c.read data (count * 2))

/-- The text of a string: its first units between quotes, and a mark if there are more. -/
def stringText (config : FormatterConfig) (c : Context) (v : Value) : Probe String :=
  withObject c v nullText fun object => do
    let count := (← c.arrayCount object).toNat
    let shown := min count config.maxStringUnits
    let units ← stringUnits c object shown
    let text := Text.quoted (String.ofList (Text.Utf16.decode units))
    return if shown < count then text ++ ellipsis else text

/-- Runs a probe for each of some numbers from one on, as long as none fails. -/
def tabulate (item : Nat → Probe String) : Nat → Nat → Probe (List String)
  | 0, _ => return []
  | n + 1, i => do
    let text ← item i
    return text :: (← tabulate item n (i + 1))

/-- The text of an array: its size and its first elements, and a mark if there are more. The text of
the element at an index is found by a probe, which is given where the elements begin. -/
def arrayText (config : FormatterConfig) (c : Context) (v : Value)
    (item : UInt64 → Nat → Probe String) : Probe String :=
  withObject c v nullText fun object => do
    let count := (← c.arrayCount object).toNat
    let shown := min count config.maxArrayPreview
    let data ← addExact object (← c.abi.dataOffset)
    let items ← tabulate (item data) shown 0
    let items := if shown < count then items ++ [ellipsis] else items
    return "size=" ++ Text.decimal count ++ " [" ++ ", ".intercalate items ++ "]"

/-- The address of an element of some size. -/
def elementAddress (data : UInt64) (index : Nat) (size : UInt64) : Except Crash UInt64 := do
  addExact data (← mulExact (UInt64.ofNat index) size)

/-- The text of an element of an array of primitives. -/
def primitiveElementText (c : Context) (k : PrimitiveKind) (data : UInt64) (index : Nat) :
    Probe String := do
  primitiveText c (.memory (← elementAddress data index (UInt64.ofNat k.size))) k

/-- The reference in a slot of an array. -/
def slotValue (c : Context) (data : UInt64) (index : Nat) : Probe Value := do
  return .referenceAt .anyReference (← elementAddress data index c.abi.pointerSize) c.stop

/-- The text of a collection: its size. -/
def collectionText (c : Context) (v : Value) (t : TypeDescriptor) (kind : CollectionKind) :
    Probe String :=
  withObject c v nullText fun object => do
    return "size=" ++ Text.decimal (← Collection.size c object kind (layoutOf c t)).toNat

/-! ## Children -/

/-- The element of an array at an index. -/
def arrayChild (c : Context) (element : ArrayElement) (data : UInt64) (index : Nat) :
    Probe Child := do
  let value ← match element with
    | .primitive k =>
      pure (Value.scalarAt k (← elementAddress data index (UInt64.ofNat k.size)) c.stop)
    | .reference => slotValue c data index
  return ⟨Collection.elementName index, value, none⟩

/-- The elements of an array. -/
def arrayChildren (c : Context) (v : Value) (element : ArrayElement) : Probe ChildSequence :=
  withObject c v .empty fun object => do
    let count := (← c.arrayCount object).toNat
    let data ← addExact object (← c.abi.dataOffset)
    return .indexed count (arrayChild c element data)

/-- The elements of a collection. -/
def collectionChildren (c : Context) (v : Value) (t : TypeDescriptor) (kind : CollectionKind) :
    Probe ChildSequence :=
  withObject c v .empty fun object => Collection.children c object kind (layoutOf c t)

/-- The field of an object. -/
def fieldChild (c : Context) (object : UInt64) (f : FieldLayout) : Probe Child := do
  let type := f.typeName.elim TypeDescriptor.anyReference TypeDescriptor.ofFieldType
  let address ← addExact object f.offset
  return ⟨f.name, .ofType type (.memory address) c.stop, none⟩

/-- The fields of an object whose layout is known, but for those inside its header. -/
def fieldChildren (c : Context) (v : Value) (t : TypeDescriptor) : Probe ChildSequence :=
  match layoutOf c t with
  | none => return .empty
  | some layout =>
    withObject c v .empty fun object => do
      let fields := layout.fields.filter fun f => c.abi.headerSize ≤ f.offset
      return .ofList (← fields.mapM (fieldChild c object))

end HeapScope.Builtin
