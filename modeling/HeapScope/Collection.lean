import HeapScope.ChildSequence
import HeapScope.Context

/-!
# Collections on the heap

A list has a backing array, of which it uses a run of slots. A map has an array of keys, an array
of values and an array of presence words of 32 bits; a slot is live if its presence word is not
negative. A set is a map without values behind one more pointer.

The fields of these classes are found by name in their layout, and where the layout lacks a name at
the offset that follows from the width of a pointer. What is read is checked before it is believed:
the slots in use must lie inside the arrays.

## Shape of a module on collections

* `ListView`, `MapView` say where the slots are; `readList`, `readMap`, `readSet` find out.
* `listChildren`, `mapChildren` are the elements, read while they are walked.
-/

namespace HeapScope

/-- The slots of a list: its backing array, the first slot in use and how many are. -/
structure ListView where
  array : UInt64
  first : UInt64
  count : UInt64
deriving DecidableEq, Repr

/-- The slots of a map: its arrays, the number of slots in use, live or not, and the number of
entries. A set has no array of values, which is written as zero. -/
structure MapView where
  keys : UInt64
  values : UInt64
  presence : UInt64
  slots : UInt64
  size : UInt64
deriving DecidableEq, Repr

namespace Collection

/-- The offset of the first of some names that a layout has, and otherwise a default. -/
def fieldOffset (layout : Option ClassLayout) (names : List String) (default : UInt64) : UInt64 :=
  (layout.bind fun l => names.findSome? l.fieldOffset).getD default

/-- Whether a layout is known that has fields. -/
def hasFields (layout : Option ClassLayout) : Bool :=
  layout.any fun l => !l.fields.isEmpty

/-- A multiple of a pointer's width and some bytes more. -/
def pointersAnd (count width rest : UInt64) : Except Crash UInt64 := do
  addExact (← mulExact count width) rest

/-- Reads a length, which is stored as a signed number. -/
def readLength (c : Context) (address : UInt64) (what : String) : Probe UInt64 := do
  let n ← c.readInt32 address
  if n < 0 then
    Probe.fail (.malformed ("negative " ++ what ++ " (" ++ Text.signed n.toInt ++ ")"))
  else return UInt64.ofNat n.toInt.toNat

/-- The error for a list whose slots are not those of its array. -/
def listError (object : UInt64) (what : String) : InspectionError :=
  .malformed ("list at " ++ Text.hex object ++ " " ++ what)

/-- The error for a map whose slots are not those of its arrays. -/
def mapError (object : UInt64) (what : String) : InspectionError :=
  .malformed ("map at " ++ Text.hex object ++ " " ++ what)

/-- A 64-bit number in decimal. -/
def number (n : UInt64) : String := Text.decimal n.toNat

/-- Refuses a list in use whose slots leave its backing array. -/
def checkList (c : Context) (object : UInt64) (v : ListView) : Probe Unit := do
  if v.count = 0 then pure ()
  else if v.array = 0 then
    Probe.fail (listError object ("has " ++ number v.count ++ " elements but no backing array"))
  else
    let capacity := (← c.arrayCount v.array).toUInt64
    let limit ← addExact v.first v.count
    if capacity < limit then
      Probe.fail (listError object ("spans " ++ number v.first ++ ".." ++ number limit ++ " of a "
        ++ number capacity ++ "-element array"))
    else pure ()

/-- Where a list keeps the number of its first slot. A layout with fields but without this one
says that the list starts at the first slot of its array. -/
def firstOffset (layout : Option ClassLayout) (width : UInt64) :
    Except Crash (Option UInt64) :=
  if hasFields layout then .ok (layout.bind fun l => l.fieldOffset "offset")
  else (mulExact 2 width).map some

/-- Reads the slots of a list. -/
def readList (c : Context) (object : UInt64) (layout : Option ClassLayout) : Probe ListView := do
  let width := c.abi.pointerSize
  let arrayOffset := fieldOffset layout ["array", "backingArray"] width
  let lengthOffset := fieldOffset layout ["length"] (← pointersAnd 2 width 4)
  let firstOffset ← firstOffset layout width
  let array ← c.readPointer (← addExact object arrayOffset)
  let first ← match firstOffset with
    | some offset => readLength c (← addExact object offset) "list offset"
    | none => pure 0
  let count ← readLength c (← addExact object lengthOffset) "list length"
  let view : ListView := ⟨array, first, count⟩
  checkList c object view
  return view

/-- Refuses a map whose entries leave the slots in use, or whose slots leave its arrays. -/
def checkMap (c : Context) (object : UInt64) (v : MapView) : Probe Unit := do
  if v.slots < v.size then
    Probe.fail (mapError object ("has size " ++ number v.size ++ " beyond its "
      ++ number v.slots ++ " used slots"))
  else if v.slots = 0 then pure ()
  else if v.keys = 0 ∨ v.presence = 0 then
    Probe.fail (mapError object "has used slots but no key or presence array")
  else
    let keyCount := (← c.arrayCount v.keys).toUInt64
    let presenceCount := (← c.arrayCount v.presence).toUInt64
    let capacity := min keyCount presenceCount
    if capacity < v.slots then
      Probe.fail (mapError object ("uses " ++ number v.slots ++ " slots of a " ++ number capacity
        ++ "-slot table"))
    else pure ()

/-- Reads the slots of a map. -/
def readMap (c : Context) (object : UInt64) (layout : Option ClassLayout) : Probe MapView := do
  let width := c.abi.pointerSize
  let place (names : List String) (default : UInt64) : Except Crash UInt64 :=
    addExact object (fieldOffset layout names default)
  let keys ← c.readPointer (← place ["keysArray"] width)
  let values ← c.readPointer (← place ["valuesArray"] (← mulExact 2 width))
  let presence ← c.readPointer (← place ["presenceArray"] (← mulExact 3 width))
  let slots ← readLength c (← place ["length"] (← pointersAnd 5 width 4)) "map length"
  let size ← readLength c (← place ["_size", "size"] (← pointersAnd 5 width 12)) "map size"
  let view : MapView := ⟨keys, values, presence, slots, size⟩
  checkMap c object view
  return view

/-- Reads the slots of a set: those of its backing map, which has no values. -/
def readSet (c : Context) (object : UInt64) (layout : Option ClassLayout) : Probe MapView := do
  let offset := fieldOffset layout ["backing", "backingMap"] c.abi.pointerSize
  let map ← c.readPointer (← addExact object offset)
  if map = 0 then
    Probe.fail (.malformed ("set at " ++ Text.hex object ++ " has no backing map"))
  else
    let mapLayout :=
      (c.metadata.typeByName CollectionKind.hashMap.qualifiedName).bind (·.layout)
    return { ← readMap c map mapLayout with values := 0 }

/-- The number of elements of a collection. -/
def size (c : Context) (object : UInt64) (kind : CollectionKind) (layout : Option ClassLayout) :
    Probe UInt64 := do
  match kind with
  | .arrayList => return (← readList c object layout).count
  | .hashMap => return (← readMap c object layout).size
  | .hashSet => return (← readSet c object layout).size

/-- The element whose reference is stored in a slot. -/
def elementAt (c : Context) (slot : UInt64) : Value :=
  .referenceAt .anyReference slot c.stop

/-- The name of the element at an index. -/
def elementName (index : Nat) : String := "[" ++ Text.decimal index ++ "]"

/-- The elements of a list whose array has its slots at an address. -/
def listChild (c : Context) (v : ListView) (data : UInt64) (index : Nat) : Probe Child := do
  let slot ← addExact v.first (UInt64.ofNat index)
  let address ← addExact data (← mulExact slot c.abi.pointerSize)
  return ⟨elementName index, elementAt c address, none⟩

/-- The elements of a list. -/
def listChildren (c : Context) (v : ListView) : Probe ChildSequence := do
  let data ← addExact v.array (← c.abi.dataOffset)
  return .indexed v.count.toNat (listChild c v data)

/-- The address of a slot of an array. -/
def slotAddress (c : Context) (array slot : UInt64) : Except Crash UInt64 := do
  let data ← addExact array (← c.abi.dataOffset)
  addExact data (← mulExact slot c.abi.pointerSize)

/-- The first live slot from a given one, of those in use, or the error that its presence word could
not be read; and the slot behind it. -/
def nextLive (c : Context) (v : MapView) (presence : UInt64) (slot : Nat) :
    Probe (Option (Except InspectionError UInt64 × Nat)) := do
  if slot < v.slots.toNat then
    let address ← addExact presence (← mulExact (UInt64.ofNat slot) 4)
    match ← (c.readInt32 address).attempt with
    | .error e => return some (.error e, slot + 1)
    | .ok word =>
      if 0 ≤ word then return some (.ok (UInt64.ofNat slot), slot + 1)
      else nextLive c v presence (slot + 1)
  else return none
termination_by v.slots.toNat - slot

/-- The entry of a live slot: key and value, or the key alone where there are no values. -/
def mapChild (c : Context) (v : MapView) (ordinal : Nat) (slot : UInt64) : Probe Child := do
  let key := elementAt c (← slotAddress c v.keys slot)
  if v.values = 0 then return ⟨elementName ordinal, key, none⟩
  else
    let value := elementAt c (← slotAddress c v.values slot)
    return ⟨elementName ordinal, value, some key⟩

/-- The source of a map's entries; it stands at the next slot to look at. -/
def mapSource (c : Context) (v : MapView) (presence : UInt64) : ChildSource :=
  fun ordinal slot => do
    match ← nextLive c v presence slot with
    | none => return none
    | some (.error e, next) => return some (.error e, next)
    | some (.ok live, next) =>
      return some (← ChildSequence.itemOf (mapChild c v ordinal live), next)

/-- The entries of a map, or the elements of a set. -/
def mapChildren (c : Context) (v : MapView) : ChildSequence :=
  ⟨v.size.toNat, do
    let presence ← addExact v.presence (← c.abi.dataOffset)
    return mapSource c v presence⟩

/-- The elements of a collection. -/
def children (c : Context) (object : UInt64) (kind : CollectionKind)
    (layout : Option ClassLayout) : Probe ChildSequence := do
  match kind with
  | .arrayList => listChildren c (← readList c object layout)
  | .hashMap => return mapChildren c (← readMap c object layout)
  | .hashSet => return mapChildren c (← readSet c object layout)

end Collection

end HeapScope
