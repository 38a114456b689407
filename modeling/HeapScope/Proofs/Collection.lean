import HeapScope.Collection
import HeapScope.Proofs.ChildSequence
import HeapScope.Proofs.Header
import Mathlib.Data.List.Basic

/-!
# The arrays behind a collection

The elements of a list come from its backing array, the keys and the values of a map from two
arrays, and the elements of a set from the keys of its map. What is yielded as a child is a
reference to a slot. The slot of an element or of a key always lies inside its array, because the
slots in use are compared with the element count of the array before any is handed out. The count of
the values of a map is never read, so a value lies inside its array only as far as that array
happens to be long enough.

## Shape of the proof

* `hasElementAt_iff`: the slot with an index lies inside an array exactly if the index is
  below the element count.
* `ensures_readList`, `ensures_readMap`, `ensures_readSet`: the slots in use lie inside the backing
  array, or inside the arrays of keys and of presence words.
* `isAt_of_yields_list`, `isAt_of_yields_map`: a child stands for one of the slots in use, which
  `exists_arrays` puts together for all collections.
-/

namespace HeapScope

/-! ## Exact arithmetic -/

section Exact

variable {α β : Type} {a b n : UInt64}

/-- Where two exact operations in a row have a result, the first has one. -/
theorem exists_of_bind_ok {x : Except Crash α} {f : α → Except Crash β} {result : β}
    (h : x >>= f = .ok result) : ∃ first, x = .ok first ∧ f first = .ok result := by
  cases x with
  | ok first => exact ⟨first, rfl, h⟩
  | error crash => cases h

/-- A sum that does not overflow is the sum. -/
theorem toNat_of_addExact (h : addExact a b = .ok n) : n.toNat = a.toNat + b.toNat := by
  rw [addExact] at h
  split at h
  case isTrue fits =>
    cases h
    rw [UInt64.toNat_add, Nat.mod_eq_of_lt fits]
  case isFalse => cases h

/-- A product that does not overflow is the product. -/
theorem toNat_of_mulExact (h : mulExact a b = .ok n) : n.toNat = a.toNat * b.toNat := by
  rw [mulExact] at h
  split at h
  case isTrue fits =>
    cases h
    rw [UInt64.toNat_mul, Nat.mod_eq_of_lt fits]
  case isFalse => cases h

/-- A sum that fits is found. -/
theorem addExact_eq {sum : Nat} (h : a.toNat + b.toNat = sum) (fits : sum < UInt64.size) :
    addExact a b = .ok (UInt64.ofNat sum) := by
  subst h
  rw [addExact, if_pos fits, UInt64.ofNat_add, UInt64.ofNat_toNat, UInt64.ofNat_toNat]

/-- A product that fits is found. -/
theorem mulExact_eq {product : Nat} (h : a.toNat * b.toNat = product)
    (fits : product < UInt64.size) : mulExact a b = .ok (UInt64.ofNat product) := by
  subst h
  rw [mulExact, if_pos fits, UInt64.ofNat_mul, UInt64.ofNat_toNat, UInt64.ofNat_toNat]

end Exact

/-! ## Slots of an array -/

namespace Context

/-- An array has a slot with an index if the index is below the element count in its header. -/
def HasSlot (c : Context) (array slot : UInt64) : Prop :=
  ∃ count, (c.arrayCount array).outcome = .ok count ∧ slot.toNat < count.toNat

/-- A pointer at an address lies inside the elements of an array: it begins with the first one or
behind, and it ends with the last one or ahead, of as many as the header counts. -/
def HasElementAt (c : Context) (array address : UInt64) : Prop :=
  ∃ offset count, c.abi.dataOffset = .ok offset ∧ (c.arrayCount array).outcome = .ok count ∧
    array.toNat + offset.toNat ≤ address.toNat ∧
    address.toNat + c.abi.pointerSize.toNat ≤
      array.toNat + offset.toNat + count.toNat * c.abi.pointerSize.toNat

end Context

namespace Collection

variable {c : Context}

section Slot

variable {array slot address : UInt64}

/-- A slot lies as many pointers behind the first element as its index says. -/
theorem toNat_of_slotAddress (h : slotAddress c array slot = .ok address) :
    ∃ offset, c.abi.dataOffset = .ok offset ∧
      address.toNat = array.toNat + offset.toNat + slot.toNat * c.abi.pointerSize.toNat := by
  obtain ⟨offset, hoffset, h⟩ := exists_of_bind_ok h
  obtain ⟨data, hdata, h⟩ := exists_of_bind_ok h
  obtain ⟨distance, hdistance, h⟩ := exists_of_bind_ok h
  refine ⟨offset, hoffset, ?_⟩
  rw [toNat_of_addExact h, toNat_of_addExact hdata, toNat_of_mulExact hdistance]

/-- The slot with an index lies inside the elements exactly if the array has it. -/
theorem hasElementAt_iff (words : c.HasWords) (h : slotAddress c array slot = .ok address) :
    c.HasElementAt array address ↔ c.HasSlot array slot := by
  obtain ⟨offset, hoffset, place⟩ := toNat_of_slotAddress h
  have positive : 0 < c.abi.pointerSize.toNat := by
    have := words.toNat
    omega
  have fits (count : Nat) :
      address.toNat + c.abi.pointerSize.toNat ≤
        array.toNat + offset.toNat + count * c.abi.pointerSize.toNat ↔ slot.toNat < count := by
    rw [place, Nat.add_assoc (array.toNat + offset.toNat), Nat.add_le_add_iff_left,
      ← Nat.succ_mul, Nat.mul_le_mul_right_iff positive]
    exact Iff.rfl
  constructor
  · rintro ⟨offset', count, hoffset', hcount, -, inside⟩
    cases hoffset.symm.trans hoffset'
    exact ⟨count, hcount, (fits _).1 inside⟩
  · rintro ⟨count, hcount, below⟩
    refine ⟨offset, count, hoffset, hcount, ?_, (fits _).2 below⟩
    rw [place]
    exact Nat.le_add_right _ _

end Slot

end Collection

/-! ## The slots in use -/

/-- The slots of a list in use are slots of its backing array. -/
def ListView.IsWithin (c : Context) (v : ListView) : Prop :=
  ∀ slot : UInt64, v.first.toNat ≤ slot.toNat → slot.toNat < v.first.toNat + v.count.toNat →
    c.HasSlot v.array slot

/-- The slots of a map in use are slots of its keys and of its presence words. Nothing is said on
its values. -/
def MapView.IsWithin (c : Context) (v : MapView) : Prop :=
  ∀ slot : UInt64, slot.toNat < v.slots.toNat →
    c.HasSlot v.keys slot ∧ c.HasSlot v.presence slot

namespace Collection

variable {c : Context} {object : UInt64}

/-- A list in use that passes its check does not leave its backing array. -/
theorem ensures_checkList (v : ListView) :
    (checkList c object v).Ensures fun _ => v.IsWithin c := by
  rw [checkList]
  split
  case isTrue empty =>
    intro _ _ slot first last
    rw [empty] at last
    exact absurd last (Nat.not_lt_of_le first)
  case isFalse =>
    split
    case isTrue => exact Probe.ensures_fail _
    case isFalse =>
      simp only [Probe.ensures_bind]
      intro count hcount limit hlimit
      split
      case isTrue => exact Probe.ensures_fail _
      case isFalse enough =>
        intro _ _ slot _ last
        refine ⟨count, hcount, ?_⟩
        rw [← toNat_of_addExact (Probe.eq_ok_of_liftM hlimit)] at last
        exact Nat.lt_of_lt_of_le last (Nat.not_lt.1 enough)

/-- A map in use that passes its check leaves neither its keys nor its presence words. -/
theorem ensures_checkMap (v : MapView) :
    (checkMap c object v).Ensures fun _ => v.IsWithin c := by
  rw [checkMap]
  split
  case isTrue => exact Probe.ensures_fail _
  case isFalse =>
    split
    case isTrue empty =>
      intro _ _ slot below
      rw [empty] at below
      exact absurd below (Nat.not_lt_zero _)
    case isFalse =>
      split
      case isTrue => exact Probe.ensures_fail _
      case isFalse =>
        simp only [Probe.ensures_bind]
        intro keyCount hkeys presenceCount hpresence
        split
        case isTrue => exact Probe.ensures_fail _
        case isFalse enough =>
          intro _ _ slot below
          obtain ⟨keysLast, presenceLast⟩ := Std.le_min_iff.1 (UInt64.not_lt.1 enough)
          exact ⟨⟨keyCount, hkeys, Nat.lt_of_lt_of_le below keysLast⟩,
            ⟨presenceCount, hpresence, Nat.lt_of_lt_of_le below presenceLast⟩⟩

/-- Whatever the layout says, a list that is read has been checked. -/
theorem ensures_readList (c : Context) (object : UInt64) (layout : Option ClassLayout) :
    (readList c object layout).Ensures (ListView.IsWithin c) := by
  simp only [readList, Probe.ensures_bind]
  intro _ _ _ _ _ _ _ _
  split
  all_goals
    simp only [Probe.ensures_bind, Probe.ensures_pure]
    intros
    exact ensures_checkList _ _ (by assumption)

/-- Whatever the layout says, a map that is read has been checked. -/
theorem ensures_readMap (c : Context) (object : UInt64) (layout : Option ClassLayout) :
    (readMap c object layout).Ensures (MapView.IsWithin c) := by
  simp only [readMap, Probe.ensures_bind, Probe.ensures_pure]
  intros
  exact ensures_checkMap _ _ (by assumption)

/-- A set uses slots as its map does, and has no values. -/
theorem ensures_readSet (c : Context) (object : UInt64) (layout : Option ClassLayout) :
    (readSet c object layout).Ensures fun v => v.values = 0 ∧ v.IsWithin c := by
  simp only [readSet, Probe.ensures_bind]
  intro offset _ map _
  split
  case isTrue => exact Probe.ensures_fail _
  case isFalse =>
    simp only [Probe.ensures_bind, Probe.ensures_pure]
    exact fun v hv => ⟨trivial, ensures_readMap c map _ v hv⟩

/-! ## The slots of the children -/

/-- A live slot is one of the slots in use. -/
theorem ensures_nextLive (c : Context) (v : MapView) (presence : UInt64) (slot : Nat) :
    (nextLive c v presence slot).Ensures fun found =>
      ∀ live next, found = some (.ok live, next) → live.toNat < v.slots.toNat := by
  rw [nextLive]
  split
  case isTrue below =>
    simp only [Probe.ensures_bind]
    intro _ _ address _ said _
    split
    case h_1 => simp
    case h_2 =>
      split
      case isTrue =>
        rw [Probe.ensures_pure]
        rintro live next ⟨⟩
        rw [UInt64.toNat_ofNat_of_lt' (Nat.lt_trans below v.slots.toNat_lt)]
        exact below
      case isFalse => exact ensures_nextLive c v presence (slot + 1)
  case isFalse => simp
termination_by v.slots.toNat - slot

end Collection

/-- A child of a collection stands for a slot. If the collection has no values, it is the element in
the slot, and else the entry with the value and the key in the slots of that index. -/
inductive Child.IsAt (c : Context) (keys values slot : UInt64) : Child → Prop where
  | element {name : String} {address : UInt64} (alone : values = 0)
      (place : Collection.slotAddress c keys slot = .ok address) :
      Child.IsAt c keys values slot ⟨name, Collection.elementAt c address, none⟩
  | entry {name : String} {key value : UInt64} (paired : values ≠ 0)
      (keyPlace : Collection.slotAddress c keys slot = .ok key)
      (valuePlace : Collection.slotAddress c values slot = .ok value) :
      Child.IsAt c keys values slot
        ⟨name, Collection.elementAt c value, some (Collection.elementAt c key)⟩

/-- A value is a reference to a pointer inside the elements of an array. -/
def Value.IsElementOf (c : Context) (array : UInt64) (v : Value) : Prop :=
  v.kind = .reference ∧ ∃ address, v.location = .memory address ∧ c.HasElementAt array address

/-- A child lies inside the arrays it comes from: an element inside its array, and of an entry the
key inside the keys and the value inside the values. -/
def Child.IsInside (c : Context) (keys values : UInt64) (child : Child) : Prop :=
  match child.key with
  | none => child.value.IsElementOf c keys
  | some key => key.IsElementOf c keys ∧ child.value.IsElementOf c values

namespace Collection

variable {c : Context}

/-- The reference in a slot is an element of an array exactly if the array has the slot. -/
theorem isElementOf_elementAt_iff (words : c.HasWords) {array slot address : UInt64}
    (place : slotAddress c array slot = .ok address) :
    (elementAt c address).IsElementOf c array ↔ c.HasSlot array slot := by
  rw [← hasElementAt_iff words place]
  constructor
  · rintro ⟨-, _, ⟨⟩, inside⟩
    exact inside
  · exact fun inside => ⟨rfl, address, rfl, inside⟩

/-- The element or the key for a slot is the reference in the slot. -/
theorem exists_place_of_isAt {keys values slot : UInt64} {child : Child}
    (stands : child.IsAt c keys values slot) : ∃ address,
      slotAddress c keys slot = .ok address ∧ child.key.getD child.value = elementAt c address := by
  cases stands with
  | element _ place => exact ⟨_, place, rfl⟩
  | entry _ keyPlace _ => exact ⟨_, keyPlace, rfl⟩

/-- The element or the key for a slot is inside if the array has the slot, and the child as a whole
if the array of values has it too. -/
theorem isInside_iff_of_isAt (words : c.HasWords) {keys values slot : UInt64} {child : Child}
    (stands : child.IsAt c keys values slot) (has : c.HasSlot keys slot) :
    (child.key.getD child.value).IsElementOf c keys ∧
      (child.IsInside c keys values ↔ values = 0 ∨ c.HasSlot values slot) := by
  have first : (child.key.getD child.value).IsElementOf c keys := by
    obtain ⟨address, place, same⟩ := exists_place_of_isAt stands
    rw [same]
    exact (isElementOf_elementAt_iff words place).2 has
  refine ⟨first, ?_⟩
  cases stands with
  | element alone _ => exact iff_of_true first (.inl alone)
  | entry paired _ valuePlace =>
    rw [or_iff_right paired, ← isElementOf_elementAt_iff words valuePlace]
    exact and_iff_right first

/-- What is yielded for a list stands for a slot in use. -/
theorem isAt_of_yields_list {v : ListView} {s : ChildSequence} {child : Child}
    (h : (listChildren c v).outcome = .ok s) (yields : s.Yields child) :
    ∃ slot : UInt64, child.IsAt c v.array 0 slot ∧ v.first.toNat ≤ slot.toNat ∧
      slot.toNat < v.first.toNat + v.count.toNat := by
  obtain ⟨offset, hoffset, h⟩ := Probe.exists_of_bind_ok h
  obtain ⟨data, hdata, h⟩ := Probe.exists_of_bind_ok h
  cases h
  obtain ⟨index, below, made⟩ := ChildSequence.exists_of_yields_indexed yields
  obtain ⟨slot, hslot, made⟩ := Probe.exists_of_bind_ok made
  obtain ⟨distance, hdistance, made⟩ := Probe.exists_of_bind_ok made
  obtain ⟨address, haddress, made⟩ := Probe.exists_of_bind_ok made
  cases made
  have place : slotAddress c v.array slot = .ok address := by
    simp only [slotAddress, Probe.eq_ok_of_liftM hoffset, Probe.eq_ok_of_liftM hdata,
      Probe.eq_ok_of_liftM hdistance, bind, Except.bind]
    exact Probe.eq_ok_of_liftM haddress
  refine ⟨slot, .element rfl place, ?_⟩
  rw [toNat_of_addExact (Probe.eq_ok_of_liftM hslot),
    UInt64.toNat_ofNat_of_lt' (Nat.lt_trans below v.count.toNat_lt)]
  omega

/-- The child made for a live slot stands for the slot. -/
theorem isAt_of_mapChild {v : MapView} {ordinal : Nat} {slot : UInt64} {child : Child}
    (h : (mapChild c v ordinal slot).outcome = .ok child) : child.IsAt c v.keys v.values slot := by
  obtain ⟨key, hkey, h⟩ := Probe.exists_of_bind_ok h
  split at h
  case isTrue alone =>
    cases h
    exact .element alone (Probe.eq_ok_of_liftM hkey)
  case isFalse paired =>
    obtain ⟨value, hvalue, h⟩ := Probe.exists_of_bind_ok h
    cases h
    exact .entry paired (Probe.eq_ok_of_liftM hkey) (Probe.eq_ok_of_liftM hvalue)

/-- What is yielded for a map or a set stands for a slot in use. -/
theorem isAt_of_yields_map {v : MapView} {child : Child}
    (yields : (mapChildren c v).Yields child) :
    ∃ slot : UInt64, child.IsAt c v.keys v.values slot ∧ slot.toNat < v.slots.toNat := by
  obtain ⟨source, ordinal, cursor, cursor', started, answer⟩ :=
    ChildSequence.exists_of_yields yields
  obtain ⟨offset, -, started⟩ := Probe.exists_of_bind_ok started
  obtain ⟨presence, -, started⟩ := Probe.exists_of_bind_ok started
  cases started
  obtain ⟨found, hfound, answer⟩ := Probe.exists_of_bind_ok answer
  split at answer
  case h_1 => cases answer
  case h_2 => cases answer
  case h_3 slot next =>
    obtain ⟨item, hitem, answer⟩ := Probe.exists_of_bind_ok answer
    cases answer
    exact ⟨slot, isAt_of_mapChild (Probe.outcome_of_attempt hitem),
      ensures_nextLive c v presence cursor _ hfound slot _ rfl⟩

/-- The arrays of a collection: that of its elements or keys, and that of its values, zero if there
is none. -/
def arrays (c : Context) (object : UInt64) (kind : CollectionKind)
    (layout : Option ClassLayout) : Probe (UInt64 × UInt64) :=
  match kind with
  | .arrayList => (fun v => (v.array, 0)) <$> readList c object layout
  | .hashMap => (fun v => (v.keys, v.values)) <$> readMap c object layout
  | .hashSet => (fun v => (v.keys, v.values)) <$> readSet c object layout

/-- Whatever a collection yields stands for a slot of its arrays, and that of the elements or keys
has the slot. -/
theorem exists_arrays {object : UInt64} {kind : CollectionKind} {layout : Option ClassLayout}
    {s : ChildSequence} (h : (children c object kind layout).outcome = .ok s) :
    ∃ keys values, (arrays c object kind layout).outcome = .ok (keys, values) ∧
      (kind ≠ .hashMap → values = 0) ∧
      ∀ child, s.Yields child → ∃ slot, child.IsAt c keys values slot ∧ c.HasSlot keys slot := by
  cases kind with
  | arrayList =>
    obtain ⟨v, hv, h⟩ := Probe.exists_of_bind_ok h
    refine ⟨v.array, 0, Probe.outcome_map_of_ok hv _, fun _ => rfl, fun child yields => ?_⟩
    obtain ⟨slot, stands, first, last⟩ := isAt_of_yields_list h yields
    exact ⟨slot, stands, ensures_readList c object layout v hv slot first last⟩
  | hashMap =>
    obtain ⟨v, hv, h⟩ := Probe.exists_of_bind_ok h
    cases h
    refine ⟨v.keys, v.values, Probe.outcome_map_of_ok hv _, fun other => absurd rfl other,
      fun child yields => ?_⟩
    obtain ⟨slot, stands, below⟩ := isAt_of_yields_map yields
    exact ⟨slot, stands, (ensures_readMap c object layout v hv slot below).1⟩
  | hashSet =>
    obtain ⟨v, hv, h⟩ := Probe.exists_of_bind_ok h
    cases h
    obtain ⟨alone, within⟩ := ensures_readSet c object layout v hv
    refine ⟨v.keys, v.values, Probe.outcome_map_of_ok hv _, fun _ => alone,
      fun child yields => ?_⟩
    obtain ⟨slot, stands, below⟩ := isAt_of_yields_map yields
    exact ⟨slot, stands, (within slot below).1⟩

/-- Every element and every key that a collection yields is a reference inside its array. A child
as a whole lies inside the arrays it comes from exactly if the collection has no values, as lists
and sets have none, or if the array of values has the slot of the child. -/
theorem children_inside_iff (words : c.HasWords) {object : UInt64} {kind : CollectionKind}
    {layout : Option ClassLayout} {s : ChildSequence}
    (h : (children c object kind layout).outcome = .ok s) :
    ∃ keys values, (arrays c object kind layout).outcome = .ok (keys, values) ∧
      (kind ≠ .hashMap → values = 0) ∧
      ∀ child, s.Yields child → ∃ slot, child.IsAt c keys values slot ∧
        (child.key.getD child.value).IsElementOf c keys ∧
        (child.IsInside c keys values ↔ values = 0 ∨ c.HasSlot values slot) := by
  obtain ⟨keys, values, harrays, alone, yielded⟩ := exists_arrays h
  refine ⟨keys, values, harrays, alone, fun child yields => ?_⟩
  obtain ⟨slot, stands, has⟩ := yielded child yields
  exact ⟨slot, stands, isInside_iff_of_isAt words stands has⟩

/-- A map of one entry lies inside its arrays if its array of values has a slot. -/
theorem children_inside_iff_entry :
    let word (address : UInt64) : Nat :=
      if address = 0x1008 then 0x2000 else if address = 0x1010 then 0x3000
      else if address = 0x1018 then 0x4000 else 1
    let c : Context :=
      { memory := fun address size => .ok (toLittleEndian size (word address))
        metadata := ⟨fun _ => none, fun _ => none⟩ }
    let child : Child := ⟨"[0]", elementAt c 0x3010, some (elementAt c 0x2010)⟩
    ∃ s, (children c 0x1000 .hashMap none).outcome = .ok s ∧ s.Yields child ∧
      child.IsInside c 0x2000 0x3000 := by
  intro word c child
  let v : MapView := ⟨0x2000, 0x3000, 0x4000, 1, 1⟩
  have hv : (readMap c 0x1000 none).outcome = .ok v := by decide +kernel
  have counted : (c.arrayCount 0x3000).outcome = .ok 1 := by decide +kernel
  have data : c.abi.dataOffset = .ok 16 := by decide +kernel
  have yields : (mapChildren c v).Yields child := ⟨1, by decide +kernel⟩
  have ok : (children c 0x1000 .hashMap none).outcome = .ok (mapChildren c v) :=
    Probe.outcome_bind_of_ok hv _
  refine ⟨mapChildren c v, ok, yields, ?_⟩
  obtain ⟨keys, values, harrays, -, all⟩ := children_inside_iff (.inr rfl) ok
  have same : (arrays c 0x1000 .hashMap none).outcome = .ok (0x2000, 0x3000) :=
    Probe.outcome_map_of_ok hv _
  cases same.symm.trans harrays
  obtain ⟨slot, stands, -, inside⟩ := all child yields
  refine inside.2 (.inr ⟨1, counted, ?_⟩)
  -- the key lies in the first slot
  obtain ⟨address, keyPlace, key⟩ := exists_place_of_isAt stands
  obtain ⟨offset, hoffset, place⟩ := toNat_of_slotAddress keyPlace
  cases data.symm.trans hoffset
  cases key
  have first : (0x2010 : Nat) = 0x2000 + 16 + slot.toNat * 8 := place
  show slot.toNat < 1
  omega

/-- The value of a map lies outside an array of values that has no slots. -/
theorem children_outside_values :
    let word (address : UInt64) : Nat :=
      if address = 0x1008 then 0x2000 else if address = 0x1010 then 0x3000
      else if address = 0x1018 then 0x4000 else if address = 0x3008 then 0 else 1
    let c : Context :=
      { memory := fun address size => .ok (toLittleEndian size (word address))
        metadata := ⟨fun _ => none, fun _ => none⟩ }
    let child : Child := ⟨"[0]", elementAt c 0x3010, some (elementAt c 0x2010)⟩
    ∃ s, (children c 0x1000 .hashMap none).outcome = .ok s ∧ s.Yields child ∧
      (arrays c 0x1000 .hashMap none).outcome = .ok (0x2000, 0x3000) ∧
      (c.arrayCount 0x3000).outcome = .ok 0 ∧ ¬ child.IsInside c 0x2000 0x3000 := by
  intro word c child
  let v : MapView := ⟨0x2000, 0x3000, 0x4000, 1, 1⟩
  have hv : (readMap c 0x1000 none).outcome = .ok v := by decide +kernel
  have counted : (c.arrayCount 0x3000).outcome = .ok 0 := by decide +kernel
  have yields : (mapChildren c v).Yields child := ⟨1, by decide +kernel⟩
  have place : slotAddress c 0x3000 0 = .ok 0x3010 := by decide +kernel
  refine ⟨mapChildren c v, Probe.outcome_bind_of_ok hv _, yields, Probe.outcome_map_of_ok hv _,
    counted, ?_⟩
  rintro ⟨-, inside⟩
  obtain ⟨count, hcount, below⟩ := (isElementOf_elementAt_iff (.inr rfl) place).1 inside
  cases counted.symm.trans hcount
  exact absurd below (Nat.not_lt_zero _)

end Collection

end HeapScope
