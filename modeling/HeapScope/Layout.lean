/-!
# Class layouts and type records

What is known of a class beside its name: where its fields lie, and the tag by which its objects
name it, which is the address of its type information.
-/

namespace HeapScope

/-- A field: its name, its offset from the start of the object, and the name of its type, with a
star behind it for a pointer. -/
structure FieldLayout where
  name : String
  offset : UInt64
  typeName : Option String := none
deriving DecidableEq, Repr

/-- The fields of a class and the size of its instances. -/
structure ClassLayout where
  name : String
  size : UInt64
  fields : List FieldLayout
deriving DecidableEq, Repr

/-- The offset of the first field of a name. -/
def ClassLayout.fieldOffset (l : ClassLayout) (name : String) : Option UInt64 :=
  (l.fields.find? fun f => f.name == name).map (·.offset)

/-- A type that objects name by a tag. -/
structure TypeRecord where
  name : String
  tag : UInt64
  layout : Option ClassLayout := none
deriving DecidableEq, Repr

/-- Where types are looked up, by tag and by name. -/
structure Metadata where
  typeByTag : UInt64 → Option TypeRecord
  typeByName : String → Option TypeRecord

end HeapScope
