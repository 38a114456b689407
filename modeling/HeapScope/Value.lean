import HeapScope.Location
import HeapScope.TypeDescriptor

/-!
# Values

A value is known by its declared type, its location, how the bytes there are to be read, and the
stop of the process in which it was found. Values of an earlier stop are stale.
-/

namespace HeapScope

/-- How the bytes at a location are read: as a pointer to an object, as the object itself, or as a
primitive. -/
inductive ValueKind where
  | reference
  | object
  | scalar (kind : PrimitiveKind)
deriving DecidableEq, Repr

/-- A value of a stopped process. -/
structure Value where
  staticType : TypeDescriptor
  location : ValueLocation
  kind : ValueKind
  stop : UInt64
deriving DecidableEq, Repr

namespace Value

/-- How a value of a declared type is stored: a primitive in place, anything else by reference. -/
def kindFor : TypeDescriptor → ValueKind
  | .plain _ (.primitive k) => .scalar k
  | _ => .reference

/-- The value of a declared type at a location. -/
def ofType (t : TypeDescriptor) (location : ValueLocation) (stop : UInt64) : Value :=
  ⟨t, location, kindFor t, stop⟩

/-- The value whose pointer is stored at an address. -/
def referenceAt (t : TypeDescriptor) (address stop : UInt64) : Value :=
  ⟨t, .memory address, .reference, stop⟩

/-- The object at an address. -/
def objectAt (t : TypeDescriptor) (address stop : UInt64) : Value :=
  ⟨t, .memory address, .object, stop⟩

/-- The primitive at an address. -/
def scalarAt (k : PrimitiveKind) (address stop : UInt64) : Value :=
  ⟨.primitive k, .memory address, .scalar k, stop⟩

end Value

end HeapScope
