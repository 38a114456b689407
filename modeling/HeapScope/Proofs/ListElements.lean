import HeapScope.Proofs.LiveSlots

/-!
# The elements of a list

A list names its backing array, the slot of the array that its elements begin with, and how many
they are. Where it keeps these three depends on the layout of its class, as far as one is known.
What is read there is believed if it fits together: neither number is below zero, and the elements
are slots that the array has. Then the children of the list are the slots, from the first one on;
and otherwise there are none.

## Shape of the argument

* `ListFields.ofLayout` says where the three fields lie, and `toNat_fieldOffset_array`,
  `toNat_fieldOffset_length` and `firstOffset_eq` that this is where they are read.
* `ListHeader.IsAt` says what they hold and `ListHeader.IsMalformed` which of it does not fit.
  `outcome_readList` is what reading the list comes to in either case.
* `outcome_listChild` is one element, and `children_list_iff` puts all together.
-/

namespace HeapScope

/-! ## Where the fields of a list are -/

/-- Where the fields of a list lie, counted from the list: the reference to its backing array, the
number of its first slot, if it keeps one, and its length. -/
structure ListFields where
  array : Nat
  first : Option Nat
  length : Nat
deriving DecidableEq, Repr

/-- The fields of a list lie where its layout says that they do. A field that the layout does not
name has a place that follows from the width of a pointer; but a layout that names fields and not
the one for the first slot says that there is no such field. -/
def ListFields.ofLayout (layout : Option ClassLayout) (width : Nat) : ListFields where
  array := ((layout.bind (·.fieldOffset "array")).or
    (layout.bind (·.fieldOffset "backingArray"))).elim width UInt64.toNat
  first := match layout with
    | none => some (2 * width)
    | some l =>
      if l.fields = [] then some (2 * width) else (l.fieldOffset "offset").map UInt64.toNat
  length := (layout.bind (·.fieldOffset "length")).elim (2 * width + 4) UInt64.toNat

namespace Collection

variable {c : Context} (layout : Option ClassLayout)

/-- The array of a list lies where its layout says, or behind the header. -/
theorem toNat_fieldOffset_array (width : UInt64) :
    (fieldOffset layout ["array", "backingArray"] width).toNat =
      (ListFields.ofLayout layout width.toNat).array := by
  cases layout with
  | none => rfl
  | some l =>
    simp only [fieldOffset, ListFields.ofLayout, Option.bind_some, List.findSome?_cons,
      List.findSome?_nil]
    cases l.fieldOffset "array" with
    | some offset => rfl
    | none => cases l.fieldOffset "backingArray" <;> rfl

/-- A list without a layout keeps its length behind two pointers and the number of its first
slot. -/
theorem pointersAnd_eq (words : c.HasWords) :
    ∃ place, pointersAnd 2 c.abi.pointerSize 4 = .ok place ∧
      place.toNat = 2 * c.abi.pointerSize.toNat + 4 := by
  rcases words with width | width <;> rw [width] <;> exact ⟨_, rfl, rfl⟩

/-- The length of a list lies where its layout says, or behind the array and the start. -/
theorem toNat_fieldOffset_length {place width : UInt64} (h : place.toNat = 2 * width.toNat + 4) :
    (fieldOffset layout ["length"] place).toNat =
      (ListFields.ofLayout layout width.toNat).length := by
  cases layout with
  | none => exact h
  | some l =>
    simp only [fieldOffset, ListFields.ofLayout, Option.bind_some, List.findSome?_cons,
      List.findSome?_nil]
    cases l.fieldOffset "length" with
    | some offset => rfl
    | none => exact h

/-- A layout has fields unless it has none. -/
theorem hasFields_eq_false_iff (l : ClassLayout) : hasFields (some l) = false ↔ l.fields = [] := by
  simp [hasFields]

/-- The start of a list is a field where its layout has one, and is found without overflow. -/
theorem firstOffset_eq (words : c.HasWords) :
    ∃ offset, firstOffset layout c.abi.pointerSize = .ok offset ∧
      offset.map UInt64.toNat = (ListFields.ofLayout layout c.abi.pointerSize.toNat).first := by
  have behind : ∃ offset, (mulExact 2 c.abi.pointerSize).map some = .ok offset ∧
      offset.map UInt64.toNat = some (2 * c.abi.pointerSize.toNat) := by
    rcases words with width | width <;> rw [width] <;> exact ⟨_, rfl, rfl⟩
  cases layout with
  | none => exact behind
  | some l =>
    rw [firstOffset, ListFields.ofLayout]
    cases known : hasFields (some l) with
    | false =>
      simp only [(hasFields_eq_false_iff l).1 known, if_true]
      exact behind
    | true =>
      have some_field : l.fields ≠ [] := fun none => by
        rw [(hasFields_eq_false_iff l).2 none] at known
        cases known
      simp only [if_neg some_field, if_true]
      exact ⟨_, rfl, rfl⟩

end Collection

/-! ## What the fields of a list hold -/

/-- What the fields of a list hold. -/
structure ListHeader where
  array : UInt64
  first : Int32
  length : Int32
deriving DecidableEq, Repr

/-- At some bytes behind an address, where 64 bits have an address for that, lies what `holds` is
about. -/
def HoldsBehind (holds : UInt64 → Prop) (object : UInt64) (offset : Nat) : Prop :=
  object.toNat + offset < UInt64.size ∧ holds (UInt64.ofNat (object.toNat + offset))

/-- The place behind an address is found. -/
theorem HoldsBehind.addExact {holds : UInt64 → Prop} {object offset : UInt64} {n : Nat}
    (h : HoldsBehind holds object n) (same : offset.toNat = n) :
    ∃ address, addExact object offset = .ok address ∧ holds address :=
  ⟨_, addExact_eq (congrArg _ same) h.1, h.2⟩

namespace ListHeader

/-- The fields of the list at an address can be read and hold what the header says. A list without
a field for its first slot begins with the first one of its array. -/
structure IsAt (c : Context) (object : UInt64) (fields : ListFields) (h : ListHeader) : Prop where
  array : HoldsBehind (c.HoldsWord · h.array) object fields.array
  first : fields.first.elim (h.first = 0) (HoldsBehind (c.HoldsInt32 · h.first) object)
  length : HoldsBehind (c.HoldsInt32 · h.length) object fields.length

/-- What the header says does not fit an array of so many elements: a number is below zero, or the
list has elements which are not those of the array. -/
def IsMalformed (h : ListHeader) (count : UInt32) : Prop :=
  h.first < 0 ∨ h.length < 0 ∨
    0 < h.length ∧ (h.array = 0 ∨ (count.toNat : Int) < h.first.toInt + h.length.toInt)

instance (h : ListHeader) (count : UInt32) : Decidable (h.IsMalformed count) :=
  inferInstanceAs (Decidable (_ ∨ _ ∨ _ ∧ (_ ∨ _)))

/-- The slots of a list with the header. -/
def view (h : ListHeader) : ListView :=
  ⟨h.array, UInt64.ofNat h.first.toInt.toNat, UInt64.ofNat h.length.toInt.toNat⟩

/-- 64 bits have an address for every element of a list with the header, and for where the elements
of its array begin. -/
def Fits (c : Context) (h : ListHeader) : Prop :=
  h.array.toNat + c.abi.elementsBegin < UInt64.size ∧
    ∀ i < h.length.toInt.toNat, c.slotAt h.array (h.first.toInt.toNat + i) < UInt64.size

end ListHeader

/-- A number of 31 bits is kept by 64. -/
theorem toNat_ofNat_toInt (n : Int32) :
    (UInt64.ofNat n.toInt.toNat).toNat = n.toInt.toNat := by
  have below := n.toInt_lt
  have size : UInt64.size = 2 ^ 64 := rfl
  exact UInt64.toNat_ofNat_of_lt' (by omega)

namespace Collection

variable {c : Context} {object : UInt64} {layout : Option ClassLayout} {h : ListHeader}

/-! ## Reading a list -/

/-- A length below zero is refused. -/
theorem outcome_readLength_of_neg {address : UInt64} {n : Int32} (holds : c.HoldsInt32 address n)
    (negative : n < 0) (what : String) :
    ∃ message, (readLength c address what).outcome = .error (.failed (.malformed message)) := by
  rw [readLength, Probe.outcome_bind_of_ok (Context.outcome_readInt32_of_holds holds),
    if_pos negative]
  exact ⟨_, rfl⟩

/-- Any other length is read. -/
theorem outcome_readLength_of_nonneg {address : UInt64} {n : Int32}
    (holds : c.HoldsInt32 address n) (natural : ¬ n < 0) (what : String) :
    (readLength c address what).outcome = .ok (UInt64.ofNat n.toInt.toNat) := by
  rw [readLength, Probe.outcome_bind_of_ok (Context.outcome_readInt32_of_holds holds),
    if_neg natural]
  rfl

/-- The number of the first slot of a list, from the field that it may have for it. -/
def readFirst (c : Context) (object : UInt64) : Option UInt64 → Probe UInt64
  | some offset => do readLength c (← addExact object offset) "list offset"
  | none => pure 0

/-- A list is read field by field, and what was read is checked. -/
theorem readList_eq {place : UInt64} {offset : Option UInt64}
    (behind : pointersAnd 2 c.abi.pointerSize 4 = .ok place)
    (first : firstOffset layout c.abi.pointerSize = .ok offset) :
    readList c object layout = (do
      let array ← c.readPointer
        (← addExact object (fieldOffset layout ["array", "backingArray"] c.abi.pointerSize))
      let first ← readFirst c object offset
      let count ← readLength c (← addExact object (fieldOffset layout ["length"] place))
        "list length"
      checkList c object ⟨array, first, count⟩
      return ⟨array, first, count⟩) := by
  rw [readList, behind, first, Probe.liftM_ok_bind, Probe.liftM_ok_bind]
  refine bind_congr fun _ => bind_congr fun _ => ?_
  cases offset with
  | none => rfl
  | some offset => exact (bind_assoc _ _ _).symm

section Read

variable (words : c.HasWords) (header : h.IsAt c object (.ofLayout layout c.abi.pointerSize.toNat))
include words header

/-- The first slot is read, unless its number is below zero. -/
theorem outcome_readFirst {offset : Option UInt64}
    (first : firstOffset layout c.abi.pointerSize = .ok offset) :
    (h.first < 0 → ∃ message, (readFirst c object offset).outcome =
        .error (.failed (.malformed message))) ∧
      (¬ h.first < 0 → (readFirst c object offset).outcome = .ok h.view.first) := by
  obtain ⟨offset', found, same⟩ := firstOffset_eq layout words
  cases first.symm.trans found
  have holds := header.first
  rw [← same] at holds
  cases offset with
  | none =>
    have zero : h.first = 0 := holds
    refine ⟨fun negative => ?_, fun _ => ?_⟩
    · rw [zero] at negative
      exact absurd negative (by decide)
    · rw [ListHeader.view, zero]
      rfl
  | some offset =>
    have behind : HoldsBehind (c.HoldsInt32 · h.first) object offset.toNat := holds
    obtain ⟨address, place, holds⟩ := behind.addExact rfl
    rw [readFirst, place, Probe.liftM_ok_bind]
    exact ⟨fun negative => outcome_readLength_of_neg holds negative _,
      fun natural => outcome_readLength_of_nonneg holds natural _⟩

/-- Behind the reference to its array, a list is read by reading its two numbers and checking what
was read. -/
theorem exists_outcome_readList :
    ∃ offset place, firstOffset layout c.abi.pointerSize = .ok offset ∧
      c.HoldsInt32 place h.length ∧
      (readList c object layout).outcome = Probe.outcome (do
        let first ← readFirst c object offset
        let count ← readLength c place "list length"
        checkList c object ⟨h.array, first, count⟩
        return ⟨h.array, first, count⟩) := by
  obtain ⟨behind, hbehind, same⟩ := pointersAnd_eq words
  obtain ⟨offset, hoffset, -⟩ := firstOffset_eq layout words
  obtain ⟨arrayPlace, arrayAt, array⟩ :=
    header.array.addExact (toNat_fieldOffset_array layout _)
  obtain ⟨place, lengthAt, length⟩ := header.length.addExact (toNat_fieldOffset_length layout same)
  refine ⟨offset, place, hoffset, length, ?_⟩
  rw [readList_eq hbehind hoffset, arrayAt, Probe.liftM_ok_bind,
    Probe.outcome_bind_of_ok (Context.outcome_readPointer_of_holds words array), lengthAt]
  rfl

/-- A list whose numbers are not below zero is read and checked. -/
theorem outcome_readList_of_nonneg (first : ¬ h.first < 0) (length : ¬ h.length < 0) :
    (readList c object layout).outcome =
      (checkList c object h.view).outcome.map fun _ => h.view := by
  obtain ⟨offset, place, hoffset, count, read⟩ := exists_outcome_readList words header
  rw [read, Probe.outcome_bind_of_ok ((outcome_readFirst words header hoffset).2 first),
    Probe.outcome_bind_of_ok (outcome_readLength_of_nonneg count length _), ← map_eq_pure_bind,
    Probe.outcome_map]
  rfl

/-- A list with a number below zero is refused. -/
theorem outcome_readList_of_neg (negative : h.first < 0 ∨ h.length < 0) :
    ∃ message, (readList c object layout).outcome = .error (.failed (.malformed message)) := by
  obtain ⟨offset, place, hoffset, count, read⟩ := exists_outcome_readList words header
  obtain ⟨refused, found⟩ := outcome_readFirst words header hoffset
  rw [read]
  by_cases first : h.first < 0
  · obtain ⟨message, failed⟩ := refused first
    exact ⟨message, Probe.outcome_bind_of_error failed _⟩
  · obtain ⟨message, failed⟩ :=
      outcome_readLength_of_neg count (negative.resolve_left first) "list length"
    refine ⟨message, ?_⟩
    rw [Probe.outcome_bind_of_ok (found first)]
    exact Probe.outcome_bind_of_error failed _

end Read

/-- A list is refused exactly if it is in use and its slots are not those of its array. -/
theorem outcome_checkList (object : UInt64) {v : ListView} {count : UInt32}
    (small : v.first.toNat + v.count.toNat < UInt64.size)
    (counted : v.count ≠ 0 → v.array ≠ 0 → (c.arrayCount v.array).outcome = .ok count) :
    let outside := v.count ≠ 0 ∧ (v.array = 0 ∨ count.toNat < v.first.toNat + v.count.toNat)
    (outside → ∃ message, (checkList c object v).outcome = .error (.failed (.malformed message))) ∧
      (¬ outside → (checkList c object v).outcome = .ok ()) := by
  intro outside
  rw [checkList]
  by_cases empty : v.count = 0
  · rw [if_pos empty]
    exact ⟨fun bad => absurd empty bad.1, fun _ => rfl⟩
  · rw [if_neg empty]
    by_cases none : v.array = 0
    · rw [if_pos none]
      exact ⟨fun _ => ⟨_, rfl⟩, fun good => absurd ⟨empty, .inl none⟩ good⟩
    · have beyond : outside ↔ count.toUInt64 < v.first + v.count := by
        rw [UInt64.lt_iff_toNat_lt, UInt32.toNat_toUInt64, UInt64.toNat_add,
          Nat.mod_eq_of_lt small]
        exact ⟨fun bad => bad.2.resolve_left none, fun past => ⟨empty, .inr past⟩⟩
      have limit : addExact v.first v.count = .ok (v.first + v.count) := if_pos small
      rw [if_neg none, Probe.outcome_bind_of_ok (counted empty none), limit, Probe.liftM_ok_bind,
        beyond]
      by_cases past : count.toUInt64 < v.first + v.count
      · rw [if_pos past]
        exact ⟨fun _ => ⟨_, rfl⟩, fun good => absurd past good⟩
      · rw [if_neg past]
        exact ⟨fun bad => absurd bad past, fun _ => rfl⟩

section View

variable {count : UInt32} (first : ¬ h.first < 0) (length : ¬ h.length < 0)
include first length

/-- Where both numbers of a header are natural, what fails to fit is what the check looks for. -/
theorem isMalformed_iff : h.IsMalformed count ↔
    h.view.count ≠ 0 ∧
      (h.view.array = 0 ∨ count.toNat < h.view.first.toNat + h.view.count.toNat) := by
  have firstNat : h.view.first.toNat = h.first.toInt.toNat := toNat_ofNat_toInt h.first
  have countNat : h.view.count.toNat = h.length.toInt.toNat := toNat_ofNat_toInt h.length
  rw [Int32.lt_iff_toInt_lt, Int32.toInt_zero] at first length
  have used : 0 < h.length ↔ h.view.count ≠ 0 := by
    rw [Int32.lt_iff_toInt_lt, Int32.toInt_zero, Ne, ← UInt64.toNat_inj, countNat,
      UInt64.toNat_zero]
    omega
  have beyond : (count.toNat : Int) < h.first.toInt + h.length.toInt ↔
      count.toNat < h.view.first.toNat + h.view.count.toNat := by
    rw [firstNat, countNat]
    omega
  rw [ListHeader.IsMalformed, Int32.lt_iff_toInt_lt (x := h.first),
    Int32.lt_iff_toInt_lt (x := h.length), Int32.toInt_zero, or_iff_right first,
    or_iff_right length, used, beyond]
  rfl

end View

section Read

variable (words : c.HasWords) (header : h.IsAt c object (.ofLayout layout c.abi.pointerSize.toNat))
  {count : UInt32} (counted : 0 ≤ h.first → 0 < h.length → h.array ≠ 0 →
    (c.arrayCount h.array).outcome = .ok count)
include words header counted

/-- A list is read unless its header does not fit. -/
theorem outcome_readList :
    (h.IsMalformed count → ∃ message, (readList c object layout).outcome =
        .error (.failed (.malformed message))) ∧
      (¬ h.IsMalformed count → (readList c object layout).outcome = .ok h.view) := by
  by_cases first : h.first < 0
  · exact ⟨fun _ => outcome_readList_of_neg words header (.inl first),
      fun good => absurd (.inl first) good⟩
  by_cases length : h.length < 0
  · exact ⟨fun _ => outcome_readList_of_neg words header (.inr length),
      fun good => absurd (.inr (.inl length)) good⟩
  have firstNat : h.view.first.toNat = h.first.toInt.toNat := toNat_ofNat_toInt h.first
  have countNat : h.view.count.toNat = h.length.toInt.toNat := toNat_ofNat_toInt h.length
  have small : h.view.first.toNat + h.view.count.toNat < UInt64.size := by
    have := h.first.toInt_lt
    have := h.length.toInt_lt
    have size : UInt64.size = 2 ^ 64 := rfl
    omega
  have counted' : h.view.count ≠ 0 → h.view.array ≠ 0 →
      (c.arrayCount h.view.array).outcome = .ok count := fun used some => by
    refine counted (Int32.not_lt.1 first) ?_ some
    rw [Int32.lt_iff_toInt_lt, Int32.toInt_zero]
    rw [Ne, ← UInt64.toNat_inj, countNat, UInt64.toNat_zero] at used
    omega
  rw [isMalformed_iff first length, outcome_readList_of_nonneg words header first length]
  obtain ⟨refused, passed⟩ := outcome_checkList object small counted'
  refine ⟨fun bad => ?_, fun good => ?_⟩
  · obtain ⟨message, failed⟩ := refused bad
    exact ⟨message, by rw [failed]; rfl⟩
  · rw [passed good]
    rfl

end Read

/-! ## The elements -/

/-- The elements of a list are set up, if there is an address for where those of its array begin,
and otherwise this crashes. -/
theorem outcome_listChildren (words : c.HasWords) (v : ListView) :
    (listChildren c v).outcome =
      if v.array.toNat + c.abi.elementsBegin < UInt64.size then
        .ok (.indexed v.count.toNat
          (listChild c v (UInt64.ofNat (v.array.toNat + c.abi.elementsBegin))))
      else .error (.crashed .addOverflow) := by
  have begins := Context.toNat_elementsBegin words
  rw [listChildren, Context.dataOffset_eq words, Probe.liftM_ok_bind]
  by_cases fits : v.array.toNat + c.abi.elementsBegin < UInt64.size
  · rw [if_pos fits, addExact_eq (congrArg _ begins) fits]
    rfl
  · rw [if_neg fits, addExact, begins, if_neg fits]
    rfl

/-- The element at an index is the reference in the slot so far behind the first one. -/
theorem outcome_listChild (words : c.HasWords) (fits : h.Fits c) {i : Nat}
    (below : i < h.length.toInt.toNat) :
    (listChild c h.view (UInt64.ofNat (h.array.toNat + c.abi.elementsBegin)) i).outcome =
      .ok ⟨elementName i,
        elementAt c (UInt64.ofNat (c.slotAt h.array (h.first.toInt.toNat + i))), none⟩ := by
  have firstNat : h.view.first.toNat = h.first.toInt.toNat := toNat_ofNat_toInt h.first
  have place := fits.2 i below
  have := h.first.toInt_lt
  have := h.length.toInt_lt
  have size : UInt64.size = 2 ^ 64 := rfl
  have slot : addExact h.view.first (UInt64.ofNat i) =
      .ok (UInt64.ofNat (h.first.toInt.toNat + i)) :=
    addExact_eq (by rw [firstNat, UInt64.toNat_ofNat_of_lt' (by omega)]) (by omega)
  have begins : addExact h.array (UInt64.ofNat c.abi.elementsBegin) =
      .ok (UInt64.ofNat (h.array.toNat + c.abi.elementsBegin)) :=
    addExact_eq (congrArg _ (Context.toNat_elementsBegin words)) fits.1
  -- the address is found as that of a slot of an array is
  obtain ⟨offset, hoffset, found⟩ := exists_of_bind_ok (slotAddress_eq words (by omega) place)
  cases (Context.dataOffset_eq words).symm.trans hoffset
  obtain ⟨data, hdata, found⟩ := exists_of_bind_ok found
  cases begins.symm.trans hdata
  obtain ⟨distance, hdistance, haddress⟩ := exists_of_bind_ok found
  rw [listChild, slot, Probe.liftM_ok_bind, hdistance, Probe.liftM_ok_bind, haddress,
    Probe.liftM_ok_bind]
  rfl

/-- A list whose fields can be read is refused as malformed exactly if its header does not fit its
array. Else, if 64 bits have an address for each element, it has as many children as its length
says, in order: the child at an index has the index in brackets for a name, and is the reference in
the slot of the array that lies so far behind the first one. -/
theorem children_list_iff (words : c.HasWords)
    (header : h.IsAt c object (.ofLayout layout c.abi.pointerSize.toNat)) {count : UInt32}
    (counted : 0 ≤ h.first → 0 < h.length → h.array ≠ 0 →
      (c.arrayCount h.array).outcome = .ok count) :
    ((∃ message, (children c object .arrayList layout).outcome =
        .error (.failed (.malformed message))) ↔ h.IsMalformed count) ∧
      (¬ h.IsMalformed count → h.Fits c →
        ∃ s, (children c object .arrayList layout).outcome = .ok s ∧
          s.count = h.length.toInt.toNat ∧
          ∀ limit, (s.items limit).value = (List.range (min limit s.count)).map fun i =>
            .ok ⟨"[" ++ Text.decimal i ++ "]",
              .referenceAt .anyReference
                (UInt64.ofNat (c.slotAt h.array (h.first.toInt.toNat + i))) c.stop, none⟩) := by
  obtain ⟨refused, read⟩ := outcome_readList words header counted
  have passed (good : ¬ h.IsMalformed count) :
      (children c object .arrayList layout).outcome = (listChildren c h.view).outcome :=
    Probe.outcome_bind_of_ok (read good) _
  refine ⟨⟨fun ⟨message, failed⟩ => ?_, fun bad => ?_⟩, fun good fits => ?_⟩
  · -- setting up the elements of a list that was read ends well or crashes
    by_contra good
    rw [passed good, outcome_listChildren words] at failed
    split at failed <;> cases failed
  · obtain ⟨message, failed⟩ := refused bad
    exact ⟨message, Probe.outcome_bind_of_error failed _⟩
  · have begins : h.view.array.toNat + c.abi.elementsBegin < UInt64.size := fits.1
    rw [passed good, outcome_listChildren words, if_pos begins]
    have length : h.view.count.toNat = h.length.toInt.toNat := toNat_ofNat_toInt h.length
    refine ⟨_, rfl, length, ChildSequence.value_items_indexed fun i below => ?_⟩
    exact outcome_listChild words fits (length ▸ below)

/-- A list of two elements that begin with the second slot of an array of four, under a layout that
calls the array by its other name. -/
theorem children_list_iff_sublist :
    let word (address : UInt64) : Nat :=
      if address = 0x1008 then 0x2000 else if address = 0x1020 then 1
      else if address = 0x1024 then 2 else 4
    let c : Context :=
      { memory := fun address size => .ok (toLittleEndian size (word address))
        metadata := ⟨fun _ => none, fun _ => none⟩ }
    let layout : ClassLayout :=
      ⟨"kotlin.collections.ArrayList", 0x28,
        [⟨"backingArray", 8, none⟩, ⟨"offset", 0x20, none⟩, ⟨"length", 0x24, none⟩]⟩
    let h : ListHeader := ⟨0x2000, 1, 2⟩
    h.IsAt c 0x1000 (.ofLayout (some layout) 8) ∧ (c.arrayCount 0x2000).outcome = .ok 4 ∧
      ¬ h.IsMalformed 4 ∧ h.Fits c ∧
      ∃ s, (children c 0x1000 .arrayList (some layout)).outcome = .ok s ∧
        (s.items 5).value = [.ok ⟨"[0]", .referenceAt .anyReference 0x2018 1, none⟩,
          .ok ⟨"[1]", .referenceAt .anyReference 0x2020 1, none⟩] := by
  intro word c layout h
  have header : h.IsAt c 0x1000 (.ofLayout (some layout) 8) := by
    refine ⟨⟨by decide, by decide, _, rfl, ?_, ?_⟩, ⟨by decide, _, rfl, ?_, ?_⟩,
      ⟨by decide, _, rfl, ?_, ?_⟩⟩
    all_goals decide +kernel
  have counted : (c.arrayCount 0x2000).outcome = .ok 4 := by decide +kernel
  have fits : h.Fits c := by
    refine ⟨by decide, fun i below => ?_⟩
    have two : i < 2 := below
    obtain rfl | rfl : i = 0 ∨ i = 1 := by omega
    all_goals decide
  obtain ⟨s, found, length, items⟩ :=
    (@children_list_iff c 0x1000 (some layout) h (.inr rfl) header 4 fun _ _ _ => counted).2
      (by decide) fits
  refine ⟨header, counted, by decide, fits, s, found, ?_⟩
  rw [items, length]
  decide +kernel

end Collection

end HeapScope
