import HeapScope.DebugInfo.Unit
import HeapScope.Layout

/-!
# The classes of debug information

A class is an entry for a structure or a class that has a name and is not only declared. Its fields
are the members directly below it, in the order of their offsets. Of several classes with one name
the first counts.
-/

namespace HeapScope.DebugInfo

/-! The tags of the entries that are looked at. -/

namespace Tag

def classType : Nat := 0x02
def member : Nat := 0x0d
def pointerType : Nat := 0x0f
def structureType : Nat := 0x13

end Tag

/-- The constant that an attribute holds, or zero. -/
def Entry.constantOr0 (e : Entry) (name : Nat) : UInt64 :=
  UInt64.ofNat (((e.attribute? name).bind AttributeValue.constant?).getD 0)

/-- The entry of the type of an entry. It must lie in the same unit. -/
def typeOf (u : DebugUnit) (e : Entry) : Option Entry :=
  match e.attribute? AttributeName.type with
  | some (.unitEntry offset) => u.entryAt offset
  | _ => none

/-- The name of a type, or that of what an unnamed pointer points to with a star behind it. -/
def typeNameOf (sections : Sections) (u : DebugUnit) (type : Entry) : Option String :=
  (nameOf sections u type).or <|
    if type.tag = Tag.pointerType then
      ((typeOf u type).bind (nameOf sections u)).map (· ++ "*")
    else none

/-- The field of a member. -/
def fieldOf (sections : Sections) (u : DebugUnit) (member : Entry) : FieldLayout where
  name := (nameOf sections u member).getD "<unnamed>"
  offset := member.constantOr0 AttributeName.memberLocation
  typeName := (typeOf u member).bind (typeNameOf sections u)

/-- The fields of the class at an offset. -/
def fieldsOf (sections : Sections) (u : DebugUnit) (offset : Nat) : Option (List FieldLayout) :=
  (u.childrenOf offset).map fun children =>
    ((children.filter fun c => c.tag = Tag.member).map (fieldOf sections u)).mergeSort
      fun a b => a.offset ≤ b.offset

/-- The name of the class that an entry describes, if it describes one. -/
def classNameOf (sections : Sections) (u : DebugUnit) (e : Entry) : Option String :=
  if (e.tag = Tag.structureType ∨ e.tag = Tag.classType) ∧
      e.attribute? AttributeName.declaration ≠ some (.flag true) then
    nameOf sections u e
  else none

/-- Adds the class of an entry to those found before, unless its name is taken. -/
def addClass (sections : Sections) (u : DebugUnit) (found : List ClassLayout) (e : Entry) :
    Option (List ClassLayout) :=
  match classNameOf sections u e with
  | none => some found
  | some name =>
    if found.any fun l => l.name == name then some found
    else (fieldsOf sections u e.offset).map fun fields =>
      found ++ [{ name, size := e.constantOr0 AttributeName.byteSize, fields }]

/-- The classes of debug information. There is no answer if any part of it is malformed. -/
def classLayouts (sections : Sections) : Option (List ClassLayout) := do
  let units ← ByteReader.all (readUnit sections) sections.units
  units.foldlM (fun found (u, entries) => entries.foldlM (addClass sections u) found) []

end HeapScope.DebugInfo
