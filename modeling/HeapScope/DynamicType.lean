import HeapScope.Context

/-!
# Dynamic types

The first word of a heap object, with its two lowest bits cleared, points to the type information
of its class, which points to itself, or to a meta object, which points to the type information.
The address of the type information is the tag under which the class is recorded.

A value whose static type leaves its class open is resolved by reading that word. What is found can
be reported alone, or the value can be moved to where the class keeps its contents: the object
itself, or the primitive inside a box.
-/

namespace HeapScope

/-- What to do with the class that is found: report it and leave the value where it is, or move the
value to the contents of the object. -/
inductive Preference where
  | preferStatic | preferDynamic
deriving DecidableEq, Repr

/-- A resolved value: a type, and a location with the way to read it. -/
structure DynamicValue where
  type : TypeDescriptor
  location : ValueLocation
  kind : ValueKind
deriving DecidableEq, Repr

/-- The class that an object's header names, and where its value then lies. -/
structure FoundClass where
  record : TypeRecord
  location : ValueLocation
  kind : ValueKind
deriving DecidableEq, Repr

namespace DynamicValue

/-- A value as it is declared. -/
def unchanged (v : Value) : DynamicValue := ⟨v.staticType, v.location, v.kind⟩

/-- What a value resolves to: the class that was found, or else the value as it is declared. -/
def ofFound (v : Value) : Option FoundClass → DynamicValue
  | some f => ⟨.ofRecord f.record, f.location, f.kind⟩
  | none => unchanged v

/-- A resolved value of a stop. -/
def toValue (d : DynamicValue) (stop : UInt64) : Value := ⟨d.type, d.location, d.kind, stop⟩

/-- A class found on the heap is never nullable, so resolving a value does not nest its type. -/
theorem nesting_ofFound_le (v : Value) (f : Option FoundClass) :
    (ofFound v f).type.nesting ≤ v.staticType.nesting := by
  cases f with
  | none => exact Nat.le_refl _
  | some f => exact Nat.zero_le _

end DynamicValue

/-- The word of an object header without its two tag bits. -/
def untagged (header : UInt64) : UInt64 := header &&& ~~~3

namespace Context

/-- The error for a header that points to no type information. -/
def strangeHeader (object pointer : UInt64) : InspectionError :=
  .malformed ("header of object at " ++ Text.hex object
    ++ " points to neither a type info nor a meta object (" ++ Text.hex pointer ++ ")")

/-- The address of the type information that an object's header leads to. -/
def readTag (c : Context) (object : UInt64) : Probe UInt64 := do
  let pointer := untagged (← c.readPointer object)
  if pointer = 0 then
    Probe.fail (.malformed ("object at " ++ Text.hex object ++ " has an empty header"))
  else
    let first ← c.readPointer pointer
    if first = pointer then pure pointer
    else
      match ← (c.readPointer first).attempt with
      | .ok typeInfo =>
        if first ≠ 0 ∧ typeInfo = first then pure first
        else Probe.fail (strangeHeader object pointer)
      | .error _ => Probe.fail (strangeHeader object pointer)

/-- The class of the object at an address. -/
def runtimeType (c : Context) (object : UInt64) : Probe TypeRecord := do
  let tag ← c.readTag object
  match c.metadata.typeByTag tag with
  | some record => pure record
  | none => Probe.fail (.unknownType tag)

/-- Whether values of a type can have a more concrete one. -/
def couldBeDynamic (t : TypeDescriptor) : Bool := t.isReference

/-- Where the contents of an object of a class lie: inside a box, or the object itself. -/
def contents (c : Context) (object : UInt64) (record : TypeRecord) : Probe FoundClass :=
  match TypeKind.ofRuntimeName record.name with
  | .boxed k => do
    let offset ← c.abi.boxedOffset (UInt64.ofNat k.size)
    let address ← addExact object offset
    pure ⟨record, .memory address, .scalar k⟩
  | _ => pure ⟨record, .memory object, .object⟩

/-- Finds the class of a value. There is none to be found where the static type settles it or where
the value is null. -/
def findClass (c : Context) (v : Value) (preference : Preference) :
    Probe (Option FoundClass) := do
  c.validate v
  if !couldBeDynamic v.staticType || v.staticType.isFinal then pure none
  else
    let object ← c.objectAddress v
    if object = 0 then pure none
    else
      let record ← c.runtimeType object
      match preference with
      | .preferStatic => return some ⟨record, v.location, v.kind⟩
      | .preferDynamic => return some (← c.contents object record)

/-- Finds the class of a value, and none where that fails. -/
def findClassIfAny (c : Context) (v : Value) (preference : Preference) :
    Probe (Option FoundClass) := do
  match ← (c.findClass v preference).attempt with
  | .ok found => pure found
  | .error _ => pure none

/-- Resolves the class of a value. A value whose type is settled, or that is null, is unchanged. -/
def resolve (c : Context) (v : Value) (preference : Preference) : Probe DynamicValue := do
  return .ofFound v (← c.findClass v preference)

/-- Resolves the class of a value, and leaves the value as declared where that fails. -/
def resolveOrStatic (c : Context) (v : Value) (preference : Preference) :
    Probe DynamicValue := do
  return .ofFound v (← c.findClassIfAny v preference)

/-- One line on the object that a value stands for: its class and address, or `null`. -/
def describe (c : Context) (v : Value) : Probe String := do
  c.validate v
  let object ← c.objectAddress v
  if object = 0 then pure "null"
  else return (← c.runtimeType object).name ++ "@" ++ Text.hex object

/-- Whether a Boolean value is true. -/
def isTrue (c : Context) (v : Value) : Probe Bool := do
  let d ← c.resolve v .preferDynamic
  let notBoolean := InspectionError.malformed (d.type.name ++ " is not a Boolean")
  match d.type.wrapped, d.kind with
  | .plain _ (.primitive .boolean), .scalar k
  | .plain _ (.boxed .boolean), .scalar k =>
    match (← c.readScalar d.location k).asBool with
    | some b => pure b
    | none => Probe.fail notBoolean
  | _, _ => Probe.fail notBoolean

end Context

/-- What a nullable value holds: a value, described by a type that is nested no deeper than the type
inside the wrapper. -/
structure Unwrapped (inner : TypeDescriptor) where
  resolved : DynamicValue
  nesting_le : resolved.type.nesting ≤ inner.nesting

namespace Context

/-- The value inside a nullable one, before its class is looked up. A primitive is boxed there. -/
def insideNullable (v : Value) (object : UInt64) (inner : TypeDescriptor) : Value :=
  match inner with
  | .plain _ (.primitive k) => .objectAt (.boxed k) object v.stop
  | _ => .objectAt inner object v.stop

/-- What a nullable value holds has the nesting of the inner type. -/
theorem nesting_insideNullable (v : Value) (object : UInt64) (inner : TypeDescriptor) :
    (insideNullable v object inner).staticType.nesting = inner.nesting := by
  unfold insideNullable
  split <;> rfl

/-- Takes the wrapper off a nullable value and resolves what is inside; nothing is inside null. A
value that is stored in place keeps its location. -/
def unwrap (c : Context) (v : Value) (inner : TypeDescriptor) :
    Probe (Option (Unwrapped inner)) := do
  match v.kind with
  | .scalar _ => return some ⟨⟨inner, v.location, v.kind⟩, Nat.le_refl _⟩
  | _ =>
    let object ← c.objectAddress v
    if object = 0 then return none
    else
      let content := insideNullable v object inner
      let found ← c.findClassIfAny content .preferDynamic
      return some ⟨.ofFound content found,
        nesting_insideNullable v object inner ▸ DynamicValue.nesting_ofFound_le content found⟩

end Context

/-- A resolved type with the nullability of the static one. -/
def TypeDescriptor.likeStatic (resolved static : TypeDescriptor) : TypeDescriptor :=
  if static.isNullable then resolved.toNullable else resolved

end HeapScope
