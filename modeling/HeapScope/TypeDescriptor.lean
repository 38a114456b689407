import HeapScope.Primitive
import HeapScope.Layout
import HeapScope.Text.Blank

/-!
# Type descriptors

A type is described by its qualified name and its kind. A nullable type wraps another type and adds
a question mark to its name; the wrappers that this module builds are never nested.

A declared type is classified by its name alone. A type found in an object's header is a concrete
class of the heap, so there the name of a primitive means its boxed form.
-/

namespace HeapScope

/-- What an array holds: primitives in place, or references to objects. -/
inductive ArrayElement where
  | primitive (kind : PrimitiveKind)
  | reference
deriving DecidableEq, Repr

/-- The collections whose inner structure is known. -/
inductive CollectionKind where
  | arrayList | hashMap | hashSet
deriving DecidableEq, Repr

/-- The class name of a collection. -/
def CollectionKind.qualifiedName : CollectionKind → String
  | arrayList => "kotlin.collections.ArrayList"
  | hashMap => "kotlin.collections.HashMap"
  | hashSet => "kotlin.collections.HashSet"

/-- The kind of a type that is not nullable. -/
inductive TypeKind where
  | primitive (kind : PrimitiveKind)
  | boxed (kind : PrimitiveKind)
  | string
  | object (isFinal : Bool)
  | interface
  | array (element : ArrayElement)
  | collection (kind : CollectionKind)
deriving DecidableEq, Repr

/-- The kinds of types without their details. -/
inductive TypeCategory where
  | primitive | boxed | string | object | interface | array | collection | nullable
deriving DecidableEq, Repr

namespace TypeCategory

/-- Every category with its name. -/
def table : List (TypeCategory × String) :=
  [(primitive, "Primitive"), (boxed, "Boxed"), (string, "String"), (object, "Class"),
   (interface, "Interface"), (array, "Array"), (collection, "Collection"),
   (nullable, "Nullable")]

/-- The name of a category. -/
def name (c : TypeCategory) : String := (table.lookup c).getD ""

/-- The category of a name. -/
def ofName (s : String) : Option TypeCategory :=
  (table.find? fun e => e.2 == s).map (·.1)

end TypeCategory

/-- What every type has: a name, and perhaps a field layout and a runtime tag. -/
structure TypeHead where
  name : String
  layout : Option ClassLayout := none
  tag : Option UInt64 := none
deriving DecidableEq, Repr

/-- A type: a plain one, or a nullable wrapper around another. -/
inductive TypeDescriptor where
  | plain (head : TypeHead) (kind : TypeKind)
  | nullable (head : TypeHead) (inner : TypeDescriptor)
deriving DecidableEq, Repr

/-- Type names with a representation of their own in the runtime. -/
def runtimeKinds : List (String × TypeKind) :=
  [("kotlin.String", .string),
   ("kotlin.Array", .array .reference),
   ("kotlin.ByteArray", .array (.primitive .byte)),
   ("kotlin.ShortArray", .array (.primitive .short)),
   ("kotlin.IntArray", .array (.primitive .int)),
   ("kotlin.LongArray", .array (.primitive .long)),
   ("kotlin.FloatArray", .array (.primitive .float)),
   ("kotlin.DoubleArray", .array (.primitive .double)),
   ("kotlin.BooleanArray", .array (.primitive .boolean)),
   ("kotlin.CharArray", .array (.primitive .char)),
   (CollectionKind.arrayList.qualifiedName, .collection .arrayList),
   (CollectionKind.hashMap.qualifiedName, .collection .hashMap),
   (CollectionKind.hashSet.qualifiedName, .collection .hashSet)]

/-- Names that are known to be interfaces. -/
def knownInterfaces : List String :=
  ["kotlin.Comparable", "kotlin.CharSequence",
   "kotlin.collections.Iterable", "kotlin.collections.MutableIterable",
   "kotlin.collections.Collection", "kotlin.collections.MutableCollection",
   "kotlin.collections.List", "kotlin.collections.MutableList",
   "kotlin.collections.Set", "kotlin.collections.MutableSet",
   "kotlin.collections.Map", "kotlin.collections.MutableMap"]

/-- The kind of a declared type that is not nullable. -/
def TypeKind.ofDeclaredName (name : String) : TypeKind :=
  match runtimeKinds.lookup name with
  | some kind => kind
  | none =>
    match PrimitiveKind.ofQualifiedName name with
    | some k => .primitive k
    | none => if knownInterfaces.contains name then .interface else .object false

/-- The kind of an object's class. -/
def TypeKind.ofRuntimeName (name : String) : TypeKind :=
  match runtimeKinds.lookup name with
  | some kind => kind
  | none =>
    match PrimitiveKind.ofQualifiedName name with
    | some k => .boxed k
    | none => .object true

namespace TypeDescriptor

/-- What every type has. -/
def head : TypeDescriptor → TypeHead
  | plain h _ => h
  | nullable h _ => h

/-- The qualified name. -/
def name (t : TypeDescriptor) : String := t.head.name

/-- The field layout that the descriptor carries. -/
def layout (t : TypeDescriptor) : Option ClassLayout := t.head.layout

/-- The runtime tag that the descriptor carries. -/
def tag (t : TypeDescriptor) : Option UInt64 := t.head.tag

/-- A plain type without layout and tag. -/
def ofKind (name : String) (kind : TypeKind) : TypeDescriptor := plain ⟨name, none, none⟩ kind

/-- A primitive stored in place. -/
def primitive (k : PrimitiveKind) : TypeDescriptor := ofKind k.qualifiedName (.primitive k)

/-- A primitive in an object of its own. -/
def boxed (k : PrimitiveKind) : TypeDescriptor := ofKind k.qualifiedName (.boxed k)

/-- A class. -/
def object (name : String) (isFinal : Bool) : TypeDescriptor := ofKind name (.object isFinal)

/-- A wrapper around any type, also around one that is nullable already. -/
def wrap (t : TypeDescriptor) : TypeDescriptor := nullable ⟨t.name ++ "?", none, none⟩ t

/-- The nullable form of a type; a nullable type is its own. -/
def toNullable : TypeDescriptor → TypeDescriptor
  | nullable h inner => nullable h inner
  | plain h k => wrap (plain h k)

/-- Replaces the field layout. -/
def withLayout (l : ClassLayout) : TypeDescriptor → TypeDescriptor
  | plain h k => plain { h with layout := some l } k
  | nullable h inner => nullable { h with layout := some l } inner

/-- Replaces the runtime tag. -/
def withTag (tag : UInt64) : TypeDescriptor → TypeDescriptor
  | plain h k => plain { h with tag := some tag } k
  | nullable h inner => nullable { h with tag := some tag } inner

/-- The characters of a type name without blanks at its ends and nullability marks behind it. -/
def bareName (s : List Char) : List Char :=
  (s.reverse.dropWhile fun c => Text.isBlank c || c = '?').reverse.dropWhile Text.isBlank

/-- Whether the last character that is not blank is a nullability mark. -/
def isMarked (s : List Char) : Bool :=
  (s.reverse.dropWhile Text.isBlank).head? == some '?'

/-- The type that a declaration names. Any run of question marks and blanks behind the name makes
one nullable wrapper. -/
def ofName (s : String) : TypeDescriptor :=
  let name := String.ofList (bareName s.toList)
  let base := ofKind name (.ofDeclaredName name)
  if isMarked s.toList then toNullable base else base

/-- The class of an object, from its type record. -/
def ofRecord (r : TypeRecord) : TypeDescriptor :=
  plain ⟨r.name, r.layout, some r.tag⟩ (.ofRuntimeName r.name)

/-- The static type of slots that hold any object or null. -/
def anyReference : TypeDescriptor := toNullable (object "kotlin.Any" false)

/-- The type of a field, from the type name in debug information: any object for a pointer, a
primitive for a base type, and otherwise the type that the name declares. -/
def ofFieldType (typeName : String) : TypeDescriptor :=
  if typeName.toList.getLast? = some '*' then anyReference
  else
    match PrimitiveKind.ofBaseTypeName typeName with
    | some k => primitive k
    | none => ofName typeName

/-- The type inside all wrappers. -/
def wrapped : TypeDescriptor → TypeDescriptor
  | plain h k => plain h k
  | nullable _ inner => wrapped inner

/-- How many wrappers a type has. -/
def nesting : TypeDescriptor → Nat
  | plain _ _ => 0
  | nullable _ inner => inner.nesting + 1

/-- The kind of a plain type. -/
def kind? : TypeDescriptor → Option TypeKind
  | plain _ k => some k
  | nullable _ _ => none

/-- Whether a type is a nullable wrapper. -/
def isNullable : TypeDescriptor → Bool
  | plain _ _ => false
  | nullable _ _ => true

/-- Whether values of the type are stored as references to objects. -/
def isReference : TypeDescriptor → Bool
  | plain _ (.primitive _) => false
  | _ => true

/-- Whether no object of the type has a more concrete class. Of a nullable type this is not known
before the value is read. -/
def isFinal : TypeDescriptor → Bool
  | plain _ (.object isFinal) => isFinal
  | plain _ .interface => false
  | plain _ _ => true
  | nullable _ _ => false

/-- The category of a type. -/
def category : TypeDescriptor → TypeCategory
  | plain _ (.primitive _) => .primitive
  | plain _ (.boxed _) => .boxed
  | plain _ .string => .string
  | plain _ (.object _) => .object
  | plain _ .interface => .interface
  | plain _ (.array _) => .array
  | plain _ (.collection _) => .collection
  | nullable _ _ => .nullable

end TypeDescriptor

end HeapScope
