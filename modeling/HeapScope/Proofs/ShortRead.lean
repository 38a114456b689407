import HeapScope.Proofs.Alike
import HeapScope.Proofs.Formatter.Recursion

/-!
# Reads of the wrong number of bytes

A memory may give fewer or more bytes than it is asked for. Each way of reading has a check of its
own against that: plain bytes, pointers, and numbers of 32 bits, from which everything else is read.
So such a memory is as good as one that refuses these reads, its strict form. All that is done with
a value ends alike on both: no text and no child is made of bytes that are too few or too many.

## Shape of the argument

* `IsStrictForm` relates the two memories, and `alike_read`, `alike_readPointer` and
  `alike_readUInt32` are the three checks.
* Every function above them has a lemma of its own, by the rules of `Probe.Alike` along its text.
* `alike_summaryOf` goes by induction along the summaries that are asked for, `alike_children` by
  induction on the wrappers of the type.
-/

namespace HeapScope

/-- The strict form of a reader refuses, for some reason, where the reader gives fewer or more bytes
than were asked for, and agrees with the reader elsewhere. -/
structure IsStrictForm (memory strict : MemoryReader) : Prop where
  refused : ∀ address size bytes, memory address size = .ok bytes → bytes.length ≠ size →
    ∃ reason, strict address size = .error reason
  agrees : ∀ address size, (∀ bytes, memory address size = .ok bytes → bytes.length = size) →
    strict address size = memory address size

namespace IsStrictForm

variable {memory strict : MemoryReader} (form : IsStrictForm memory strict)
include form

/-- A number is read in the strict form if it is read, and it is the same one. -/
theorem toOption_readNumber (address : UInt64) (size : Nat) :
    (Memory.readNumber memory address size).toOption =
      (Memory.readNumber strict address size).toOption := by
  by_cases full : ∀ bytes, memory address size = .ok bytes → bytes.length = size
  · rw [Memory.readNumber, Memory.readNumber, form.agrees address size full]
  · push Not at full
    obtain ⟨bytes, read, short⟩ := full
    obtain ⟨reason, refused⟩ := form.refused address size bytes read short
    rw [Memory.readNumber, Memory.readNumber, read, refused]
    show (if bytes.length = size then _ else _ : Except String Nat).toOption = none
    rw [if_neg short]
    rfl

/-- A number of a strict form, turned into something else, is still the same one. -/
theorem toOption_map_readNumber {α : Type} (f : Nat → α) (address : UInt64) (size : Nat) :
    ((Memory.readNumber memory address size).map f).toOption =
      ((Memory.readNumber strict address size).map f).toOption := by
  have same := form.toOption_readNumber address size
  generalize Memory.readNumber memory address size = x, Memory.readNumber strict address size = y
    at same
  cases x <;> cases y <;> cases same <;> rfl

end IsStrictForm

namespace Context

/-- A context whose memory is read in another way. -/
abbrev withMemory (c : Context) (memory : MemoryReader) : Context := { c with memory }

open Probe (Alike)

variable {c : Context} {strict : MemoryReader}

/-- Two reads that give the same or both fail are recorded alike. -/
theorem alike_recordRead {α : Type} {x y : Except String α} (h : x.toOption = y.toOption)
    (address : UInt64) (size : Nat) :
    Alike Eq (recordRead address size x) (recordRead address size y) := by
  refine .andThen (.same _) fun _ _ => ?_
  cases x <;> cases y <;> cases h
  · exact .fail rfl
  · exact .pure rfl

variable (form : IsStrictForm c.memory strict)
include form

/-- Plain bytes are counted after they were read, which refuses what the strict form refuses. -/
theorem alike_read (address : UInt64) (size : Nat) :
    Alike Eq (c.read address size) ((c.withMemory strict).read address size) := by
  rw [read, read]
  dsimp only
  by_cases full : ∀ bytes, c.memory address size = .ok bytes → bytes.length = size
  · rw [form.agrees address size full]
    exact .same _
  · -- one memory gives too few or too many bytes, which is refused afterwards
    push Not at full
    obtain ⟨bytes, read, short⟩ := full
    obtain ⟨reason, refused⟩ := form.refused address size bytes read short
    rw [read, refused, recordRead, recordRead]
    show Alike Eq (if bytes.length = size then _ else _) _
    rw [if_neg short]
    exact .fail rfl

/-- A pointer is made of as many bytes as its width says, or it is refused. -/
theorem alike_readPointer (address : UInt64) :
    Alike Eq (c.readPointer address) ((c.withMemory strict).readPointer address) := by
  refine .andThen (.same _) fun rest _ => ?_
  split
  · exact .fail rfl
  · split
    · refine alike_recordRead ?_ _ _
      rw [Memory.readPointer, Memory.readPointer]
      by_cases width : c.abi.pointerSize.toNat = 4 ∨ c.abi.pointerSize.toNat = 8
      · rw [if_pos width, if_pos width]
        exact form.toOption_map_readNumber _ _ _
      · rw [if_neg width, if_neg width]
    · exact .fail rfl

/-- A number of 32 bits is made of four bytes, or it is refused. -/
theorem alike_readUInt32 (address : UInt64) :
    Alike Eq (c.readUInt32 address) ((c.withMemory strict).readUInt32 address) := by
  exact alike_recordRead (form.toOption_map_readNumber _ _ _) _ _

/-- A signed number is an unsigned one, read otherwise. -/
theorem alike_readInt32 (address : UInt64) :
    Alike Eq (c.readInt32 address) ((c.withMemory strict).readInt32 address) :=
  .andThen (alike_readUInt32 form address) fun _ _ => .same _

/-- An object is found through a pointer, or without reading memory. -/
theorem alike_objectAddress (v : Value) :
    Alike Eq (c.objectAddress v) ((c.withMemory strict).objectAddress v) := by
  rw [objectAddress.eq_def, objectAddress.eq_def]
  split
  · exact alike_readPointer form _
  all_goals exact .same _

/-- A primitive in memory is decoded from plain bytes, and one in a register needs no memory. -/
theorem alike_readScalar (location : ValueLocation) (k : PrimitiveKind) :
    Alike Eq (c.readScalar location k) ((c.withMemory strict).readScalar location k) := by
  cases location with
  | memory address => exact .andThen (alike_read form _ _) fun _ _ => .same _
  | register r => exact .same _

/-- The count of an array is a number of 32 bits. -/
theorem alike_arrayCount (object : UInt64) :
    Alike Eq (c.arrayCount object) ((c.withMemory strict).arrayCount object) :=
  .andThen (.same _) fun _ _ => alike_readUInt32 form _

/-- A tag is found through up to three pointers, and failing at the last one is no error. -/
theorem alike_readTag (object : UInt64) :
    Alike Eq (c.readTag object) ((c.withMemory strict).readTag object) := by
  refine .andThen (alike_readPointer form _) fun header _ => ?_
  dsimp only
  split
  · exact .fail rfl
  · refine .andThen (alike_readPointer form _) fun first _ => ?_
    split
    · exact .same _
    · refine .bind (alike_readPointer form _).attempt fun x y _ same => ?_
      cases same with
      | ok values => exact values ▸ .same _
      | error failures => exact .same _

/-- What a tag is looked up as does not depend on memory. -/
theorem alike_runtimeType (object : UInt64) :
    Alike Eq (c.runtimeType object) ((c.withMemory strict).runtimeType object) :=
  .andThen (alike_readTag form _) fun _ _ => .same _

/-- A class is found by the tag of an object, so it is found alike. -/
theorem alike_findClass (v : Value) (p : Preference) :
    Alike Eq (c.findClass v p) ((c.withMemory strict).findClass v p) := by
  refine .andThen (.same _) fun _ _ => ?_
  split
  · exact .same _
  · refine .andThen (alike_objectAddress form v) fun object _ => ?_
    split
    · exact .same _
    · refine .andThen (alike_runtimeType form object) fun record _ => ?_
      cases p <;> exact .same _

/-- A class that is found alike is missed alike. -/
theorem alike_findClassIfAny (v : Value) (p : Preference) :
    Alike Eq (c.findClassIfAny v p) ((c.withMemory strict).findClassIfAny v p) := by
  refine .bind (alike_findClass form v p).attempt fun x y _ same => ?_
  cases same with
  | ok values => exact .pure values
  | error failures => exact .pure rfl

/-- A value is resolved by its class. -/
theorem alike_resolve (v : Value) (p : Preference) :
    Alike Eq (c.resolve v p) ((c.withMemory strict).resolve v p) :=
  .andThen (alike_findClass form v p) fun _ _ => .same _

/-- A value without a class keeps its static type, with either memory. -/
theorem alike_resolveOrStatic (v : Value) (p : Preference) :
    Alike Eq (c.resolveOrStatic v p) ((c.withMemory strict).resolveOrStatic v p) :=
  .andThen (alike_findClassIfAny form v p) fun _ _ => .same _

/-- A line on an object is made of its address and its class. -/
theorem alike_describe (v : Value) :
    Alike Eq (c.describe v) ((c.withMemory strict).describe v) := by
  refine .andThen (.same _) fun _ _ => .andThen (alike_objectAddress form v) fun object _ => ?_
  split
  · exact .same _
  · exact .andThen (alike_runtimeType form object) fun _ _ => .same _

/-- A truth value is read as a primitive of the resolved type. -/
theorem alike_isTrue (v : Value) : Alike Eq (c.isTrue v) ((c.withMemory strict).isTrue v) := by
  refine .andThen (alike_resolve form v _) fun d _ => ?_
  dsimp only
  split
  · exact .andThen (alike_readScalar form _ _) fun _ _ => .same _
  · exact .andThen (alike_readScalar form _ _) fun _ _ => .same _
  · exact .same _

/-- What a nullable value holds is found through its object and its class. -/
theorem alike_unwrap (v : Value) (inner : TypeDescriptor) :
    Alike Eq (c.unwrap v inner) ((c.withMemory strict).unwrap v inner) := by
  rw [unwrap, unwrap]
  split
  · exact .same _
  · refine .andThen (alike_objectAddress form v) fun object _ => ?_
    split
    · exact .same _
    · exact .andThen (alike_findClassIfAny form _ _) fun _ _ => .same _

end Context

/-! ## Collections -/

namespace Collection

open Probe (Alike)

variable {c : Context} {strict : MemoryReader} (form : IsStrictForm c.memory strict)
include form

/-- A length is a signed number that must not be negative. -/
theorem alike_readLength (address : UInt64) (what : String) :
    Alike Eq (readLength c address what) (readLength (c.withMemory strict) address what) :=
  .andThen (Context.alike_readInt32 form _) fun _ _ => .same _

/-- A list is checked against the count of its array. -/
theorem alike_checkList (object : UInt64) (v : ListView) :
    Alike Eq (checkList c object v) (checkList (c.withMemory strict) object v) := by
  rw [checkList, checkList]
  split
  · exact .same _
  · split
    · exact .same _
    · exact .andThen (Context.alike_arrayCount form _) fun _ _ => .same _

/-- The fields of a list are a pointer and one or two lengths. -/
theorem alike_readList (object : UInt64) (layout : Option ClassLayout) :
    Alike Eq (readList c object layout) (readList (c.withMemory strict) object layout) := by
  have rest := fun array first place => Alike.andThen (alike_readLength form place "list length")
    fun count _ => Alike.andThen (alike_checkList form object ⟨array, first, count⟩)
      fun _ _ => Alike.same (pure (⟨array, first, count⟩ : ListView))
  refine .andThen (.same _) fun _ _ => .andThen (.same _) fun first? _ => ?_
  refine .andThen (.same _) fun _ _ => .andThen (Context.alike_readPointer form _) fun array _ => ?_
  cases first? with
  | none => exact .andThen (.same _) fun _ _ => .andThen (.same _) fun place _ => rest array _ place
  | some offset =>
    refine .andThen (.same _) fun _ _ => .andThen (alike_readLength form _ _) fun first _ => ?_
    exact .andThen (.same _) fun place _ => rest array first place

/-- A map is checked against the counts of its arrays. -/
theorem alike_checkMap (object : UInt64) (v : MapView) :
    Alike Eq (checkMap c object v) (checkMap (c.withMemory strict) object v) := by
  rw [checkMap, checkMap]
  split
  · exact .same _
  · split
    · exact .same _
    · split
      · exact .same _
      · exact .andThen (Context.alike_arrayCount form _) fun _ _ =>
          .andThen (Context.alike_arrayCount form _) fun _ _ => .same _

/-- The fields of a map are three pointers and two lengths. -/
theorem alike_readMap (object : UInt64) (layout : Option ClassLayout) :
    Alike Eq (readMap c object layout) (readMap (c.withMemory strict) object layout) := by
  have pointer := fun address => Context.alike_readPointer form address
  refine .andThen (.same _) fun _ _ => .andThen (pointer _) fun keys _ => ?_
  refine .andThen (.same _) fun _ _ => .andThen (.same _) fun _ _ =>
    .andThen (pointer _) fun values _ => ?_
  refine .andThen (.same _) fun _ _ => .andThen (.same _) fun _ _ =>
    .andThen (pointer _) fun presence _ => ?_
  refine .andThen (.same _) fun _ _ => .andThen (.same _) fun _ _ =>
    .andThen (alike_readLength form _ _) fun slots _ => ?_
  refine .andThen (.same _) fun _ _ => .andThen (.same _) fun _ _ =>
    .andThen (alike_readLength form _ _) fun size _ => ?_
  exact .andThen (alike_checkMap form _ _) fun _ _ => .same _

/-- A set is read through the map behind it. -/
theorem alike_readSet (object : UInt64) (layout : Option ClassLayout) :
    Alike Eq (readSet c object layout) (readSet (c.withMemory strict) object layout) := by
  refine .andThen (.same _) fun _ _ => .andThen (Context.alike_readPointer form _) fun map _ => ?_
  split
  · exact .same _
  · exact .andThen (alike_readMap form _ _) fun _ _ => .same _

/-- The size of a collection is among the fields that were read. -/
theorem alike_size (object : UInt64) (kind : CollectionKind) (layout : Option ClassLayout) :
    Alike Eq (size c object kind layout) (size (c.withMemory strict) object kind layout) := by
  cases kind with
  | arrayList => exact .andThen (alike_readList form _ _) fun _ _ => .same _
  | hashMap => exact .andThen (alike_readMap form _ _) fun _ _ => .same _
  | hashSet => exact .andThen (alike_readSet form _ _) fun _ _ => .same _

/-- Looking for a live slot ends alike, also where a presence word cannot be read. -/
theorem alike_nextLive (v : MapView) (presence : UInt64) (slot : Nat) :
    Alike AnswersAlike (nextLive c v presence slot)
      (nextLive (c.withMemory strict) v presence slot) := by
  induction h : v.slots.toNat - slot generalizing slot with
  | zero =>
    rw [nextLive.eq_def c, nextLive.eq_def (c.withMemory strict), if_neg (by omega),
      if_neg (by omega)]
    exact .pure .none
  | succ left ih =>
    rw [nextLive.eq_def c, nextLive.eq_def (c.withMemory strict), if_pos (by omega),
      if_pos (by omega)]
    refine .andThen (.same _) fun offset _ => .andThen (.same _) fun address _ => ?_
    refine .bind (Context.alike_readInt32 form _).attempt fun x y _ same => ?_
    cases same with
    | error failures => exact .pure (.some (.error failures) _)
    | @ok word _ values =>
      subst values
      dsimp only
      split
      · exact .pure (.some (.ok rfl) _)
      · exact ih _ (by omega)

/-- The entries of a map come up alike, one live slot after the other. -/
theorem alike_mapSource (v : MapView) (presence : UInt64) :
    (mapSource c v presence).Alike (mapSource (c.withMemory strict) v presence) := by
  intro ordinal slot
  refine .bind (alike_nextLive form v presence slot) fun x y _ answers => ?_
  cases answers with
  | none => exact .pure .none
  | some found next =>
    cases found with
    | error failures => exact .pure (.some (.error failures) _)
    | @ok live _ values =>
      subst values
      -- the entry of a live slot is known without a further read
      exact .andThen (.same _) fun item _ => .pure (.refl _)

/-- The children of a collection are alike, whatever its kind. -/
theorem alike_children (object : UInt64) (kind : CollectionKind) (layout : Option ClassLayout) :
    Alike ChildSequence.Alike (children c object kind layout)
      (children (c.withMemory strict) object kind layout) := by
  have map (v : MapView) : (mapChildren c v).Alike (mapChildren (c.withMemory strict) v) :=
    ⟨rfl, .andThen (.same _) fun presence _ => .andThen (.same _) fun _ _ =>
      .pure (alike_mapSource form v _)⟩
  cases kind with
  | arrayList =>
    exact .andThen (alike_readList form _ _) fun _ _ => .refl ChildSequence.Alike.refl _
  | hashMap => exact .andThen (alike_readMap form _ _) fun v _ => .pure (map v)
  | hashSet => exact .andThen (alike_readSet form _ _) fun v _ => .pure (map v)

end Collection

/-! ## What is built in -/

namespace Builtin

open Probe (Alike)

variable {c : Context} {strict : MemoryReader} (form : IsStrictForm c.memory strict)
include form

/-- What is done with the object of a value is alike if it is alike for every object. -/
theorem alike_withObject {α : Type} {R : α → α → Prop} {ifNull : α} {p q : UInt64 → Probe α}
    (null : R ifNull ifNull) (h : ∀ object, Alike R (p object) (q object)) (v : Value) :
    Alike R (withObject c v ifNull p) (withObject (c.withMemory strict) v ifNull q) := by
  refine .andThen (Context.alike_objectAddress form v) fun object _ => ?_
  split
  · exact .pure null
  · exact h object

/-- A primitive is shown as it is read. -/
theorem alike_primitiveText (location : ValueLocation) (k : PrimitiveKind) :
    Alike Eq (primitiveText c location k) (primitiveText (c.withMemory strict) location k) :=
  .andThen (Context.alike_readScalar form _ _) fun _ _ => .same _

/-- A scalar is shown by the primitive at its location. -/
theorem alike_scalarText (v : Value) (k : PrimitiveKind) :
    Alike Eq (scalarText c v k) (scalarText (c.withMemory strict) v k) := by
  rw [scalarText, scalarText]
  split
  · exact alike_primitiveText form _ _
  · exact .same _

/-- A box is shown by the primitive that it holds. -/
theorem alike_boxedText (v : Value) (k : PrimitiveKind) :
    Alike Eq (boxedText c v k) (boxedText (c.withMemory strict) v k) := by
  rw [boxedText, boxedText]
  split
  · exact alike_primitiveText form _ _
  · refine alike_withObject form rfl (fun object => ?_) v
    exact .andThen (.same _) fun _ _ => .andThen (.same _) fun _ _ => alike_primitiveText form _ _

/-- A string is shown by its units, which are plain bytes. -/
theorem alike_stringText (config : FormatterConfig) (v : Value) :
    Alike Eq (stringText config c v) (stringText config (c.withMemory strict) v) := by
  refine alike_withObject form rfl (fun object => ?_) v
  refine .andThen (Context.alike_arrayCount form _) fun count _ => .andThen ?_ fun _ _ => .same _
  rw [stringUnits, stringUnits]
  split
  · exact .same _
  · exact .andThen (.same _) fun _ _ => .andThen (.same _) fun _ _ =>
      .andThen (Context.alike_read form _ _) fun _ _ => .same _

/-- An element of a primitive array is shown by the primitive in its place. -/
theorem alike_primitiveElementText (k : PrimitiveKind) (data : UInt64) (index : Nat) :
    Alike Eq (primitiveElementText c k data index)
      (primitiveElementText (c.withMemory strict) k data index) :=
  .andThen (.same _) fun _ _ => alike_primitiveText form _ _

omit form in
/-- Texts in a row are alike if each of them is. -/
theorem alike_tabulate {f g : Nat → Probe String} {n i : Nat}
    (h : ∀ j, i ≤ j → j < i + n → Alike Eq (f j) (g j)) :
    Alike Eq (tabulate f n i) (tabulate g n i) := by
  induction n generalizing i with
  | zero => exact .pure rfl
  | succ n ih =>
    refine .andThen (h i (Nat.le_refl i) (by omega)) fun text _ => ?_
    exact .andThen (ih fun j hij hj => h j (by omega) (by omega)) fun _ _ => .same _

/-- The head of an array is its object and its count. -/
theorem alike_arrayHead (v : Value) :
    Alike Eq (arrayHead c v) (arrayHead (c.withMemory strict) v) := by
  refine alike_withObject form rfl (fun object => ?_) v
  exact .andThen (Context.alike_arrayCount form _) fun _ _ => .same _

/-- The texts of arrays are alike if those of the elements that they show are. -/
theorem alike_arrayText {config : FormatterConfig} {v : Value}
    {item item' : UInt64 → Nat → Probe String}
    (h : ∀ count data index, (arrayHead c v).outcome = .ok (some (count, data)) →
      index < shownCount config count → Alike Eq (item data index) (item' data index)) :
    Alike Eq (arrayText config c v item) (arrayText config (c.withMemory strict) v item') := by
  rw [arrayText_eq, arrayText_eq]
  refine .andThen (alike_arrayHead form v) fun found head => ?_
  cases found with
  | none => exact .same _
  | some shape =>
    refine .andThen (alike_tabulate fun index _ shown => ?_) fun _ _ => .same _
    exact h _ _ index head (by omega)

/-- A collection is shown by its size. -/
theorem alike_collectionText (v : Value) (t : TypeDescriptor) (kind : CollectionKind) :
    Alike Eq (collectionText c v t kind) (collectionText (c.withMemory strict) v t kind) :=
  alike_withObject form rfl
    (fun _ => .andThen (Collection.alike_size form _ _ _) fun _ _ => .same _) v

/-- The summary of last resort shows an address if there is one, with either memory. -/
theorem alike_genericSummary (v : Value) (t : TypeDescriptor) :
    Alike Eq (FormatterRegistry.genericSummary c v t)
      (FormatterRegistry.genericSummary (c.withMemory strict) v t) := by
  have fresh : (c.withMemory strict).isFresh v = c.isFresh v := rfl
  rw [FormatterRegistry.genericSummary, FormatterRegistry.genericSummary, fresh]
  split
  · split
    · refine .bind (Context.alike_objectAddress form v).attempt fun x y _ same => ?_
      cases same with
      | ok values => exact values ▸ .same _
      | error failures => exact .same _
    · exact .same _
  · exact .same _

/-- An element is described, or shown by the summary of last resort. -/
theorem alike_describeElement (v : Value) :
    Alike Eq (FormatterRegistry.describeElement c v)
      (FormatterRegistry.describeElement (c.withMemory strict) v) := by
  refine .bind (Context.alike_describe form v).attempt fun x y _ same => ?_
  cases same with
  | ok values => exact .pure values
  | error failures => exact alike_genericSummary form v _

/-- What is built in for a summary is alike if the summaries are that it asks for. -/
theorem alike_summaryWith {config : FormatterConfig} {next next' : SummaryCall → Probe String}
    {call : SummaryCall}
    (h : ∀ b, SummaryCall.Asks config c call b → Alike Eq (next b) (next' b)) :
    Alike Eq (summaryWith config c next call)
      (summaryWith config (c.withMemory strict) next' call) := by
  obtain ⟨v, t, depth⟩ := call
  rw [summaryWith, summaryWith]
  split
  case h_1 => exact .andThen (alike_scalarText form _ _) fun _ _ => .same _
  case h_2 => exact .andThen (alike_boxedText form _ _) fun _ _ => .same _
  case h_3 => exact .andThen (alike_stringText form _ _) fun _ _ => .same _
  case h_6 head k ht =>
    refine .andThen (alike_arrayText form fun _ data index _ _ => ?_) fun _ _ => .same _
    exact alike_primitiveElementText form k data index
  case h_7 head ht =>
    cases ht
    refine .andThen (alike_arrayText form fun count data index found shown => ?_) fun _ _ => .same _
    refine .andThen (.same _) fun element slot => ?_
    split
    · rename_i deeper
      refine .andThen (Context.alike_resolveOrStatic form _ _) fun d resolved => h _ ?_
      exact .element found shown slot deeper resolved
    · exact alike_describeElement form element
  case h_8 => exact .andThen (alike_collectionText form _ _ _) fun _ _ => .same _
  case h_9 head inner ht =>
    cases ht
    refine .andThen (Context.alike_unwrap form v inner) fun found unwrapped => ?_
    cases found with
    | none => exact .same _
    | some content => exact .andThen (h _ (.content unwrapped)) fun _ _ => .same _
  all_goals exact .same _

/-- The children of an array are known from its count. -/
theorem alike_arrayChildren (v : Value) (element : ArrayElement) :
    Alike ChildSequence.Alike (arrayChildren c v element)
      (arrayChildren (c.withMemory strict) v element) := by
  refine alike_withObject form (.refl _) (fun object => ?_) v
  exact .andThen (Context.alike_arrayCount form _) fun _ _ => .refl ChildSequence.Alike.refl _

/-- The children of a value of a collection type are those of its object. -/
theorem alike_collectionChildren (v : Value) (t : TypeDescriptor) (kind : CollectionKind) :
    Alike ChildSequence.Alike (collectionChildren c v t kind)
      (collectionChildren (c.withMemory strict) v t kind) :=
  alike_withObject form (.refl _) (fun _ => Collection.alike_children form _ _ _) v

/-- The fields of an object are known from its layout, which is not in memory. -/
theorem alike_fieldChildren (v : Value) (t : TypeDescriptor) :
    Alike ChildSequence.Alike (fieldChildren c v t) (fieldChildren (c.withMemory strict) v t) := by
  have same : layoutOf (c.withMemory strict) t = layoutOf c t := rfl
  rw [fieldChildren, fieldChildren, same]
  cases layoutOf c t with
  | none => exact .refl ChildSequence.Alike.refl _
  | some layout =>
    exact alike_withObject form (.refl _) (fun _ => .refl ChildSequence.Alike.refl _) v

end Builtin

/-! ## Summaries and children -/

namespace FormatterRegistry

open Probe (Alike)

variable {r : FormatterRegistry} {c : Context} {strict : MemoryReader}

section Form

variable (form : IsStrictForm c.memory strict)
include form

/-- The children that are built in are alike if those of what a nullable value holds are. -/
theorem alike_builtinChildrenWith {v : Value} {t : TypeDescriptor}
    {next next' : Value → TypeDescriptor → Probe ChildSequence}
    (h : ∀ v' t', t'.nesting < t.nesting → Alike ChildSequence.Alike (next v' t') (next' v' t')) :
    Alike ChildSequence.Alike (builtinChildrenWith c next v t)
      (builtinChildrenWith (c.withMemory strict) next' v t) := by
  cases t with
  | plain head kind =>
    cases kind with
    | primitive | boxed | string => exact .pure (.refl _)
    | object isFinal => exact Builtin.alike_fieldChildren form v _
    | interface => exact Builtin.alike_fieldChildren form v _
    | array element => exact Builtin.alike_arrayChildren form v element
    | collection kind => exact Builtin.alike_collectionChildren form v _ kind
  | nullable head inner =>
    refine .andThen (Context.alike_unwrap form v inner) fun found _ => ?_
    cases found with
    | none => exact .pure (.refl _)
    | some content => exact h _ _ (Nat.lt_succ_of_le content.nesting_le)

variable (empty : r.entries = [])
include empty

/-- A summary is alike if what is built in for it is. -/
theorem alike_summaryFrom {builtin builtin' : Probe (Option String)} (h : Alike Eq builtin builtin')
    (v : Value) (t : TypeDescriptor) :
    Alike Eq (r.summaryFrom c v t builtin) (r.summaryFrom (c.withMemory strict) v t builtin') := by
  have plain := Builtin.alike_genericSummary form v t
  have fresh : (c.withMemory strict).isFresh v = c.isFresh v := rfl
  have nobody : r.summaryEntries t = [] := matching_of_entries_nil empty t _
  rw [summaryFrom, summaryFrom, fresh, nobody, consult, consult, pure_bind, pure_bind]
  split
  · exact plain
  · -- there is nobody to consult, so what is built in has the only turn
    refine .bind h.guarded.attempt fun x y _ same => ?_
    cases same with
    | error failures => exact plain
    | @ok said _ values =>
      subst values
      cases said with
      | some text => exact .same _
      | none => exact plain

/-- Every summary is alike, by induction on those that it asks for. -/
theorem alike_summaryOf (call : SummaryCall) :
    Alike Eq (r.summaryOf c call) (r.summaryOf (c.withMemory strict) call) := by
  induction call using (SummaryCall.Asks.wellFounded r.config c).induction with
  | _ call ih =>
    rw [summaryOf_eq, summaryOf_eq]
    refine .andThen (.same _) fun _ _ => alike_summaryFrom form empty ?_ _ _
    exact Builtin.alike_summaryWith form ih

/-- What is built in for a summary is alike, as the summaries are that it asks for. -/
theorem alike_builtinSummary (v : Value) (t : TypeDescriptor) (depth : Nat) :
    Alike Eq (r.builtinSummary c v t depth) (r.builtinSummary (c.withMemory strict) v t depth) := by
  rw [builtinSummary_eq, builtinSummary_eq]
  exact Builtin.alike_summaryWith form fun b _ => alike_summaryOf form empty b

/-- Children are alike, by induction on the wrappers of the type. -/
theorem alike_children (v : Value) (t : TypeDescriptor) :
    Alike ChildSequence.Alike (r.children c v t) (r.children (c.withMemory strict) v t) := by
  induction depth : t.nesting using Nat.strong_induction_on generalizing v t with
  | _ n ih =>
    subst depth
    have fresh : (c.withMemory strict).isFresh v = c.isFresh v := rfl
    have nobody : r.childrenEntries t = [] := matching_of_entries_nil empty t _
    rw [children_eq, children_eq, childrenFrom, childrenFrom, provider, provider, fresh, nobody]
    split
    · exact .pure (.refl _)
    · rw [builtinChildren_eq, builtinChildren_eq]
      have built : Alike ChildSequence.Alike (builtinChildrenWith c (r.children c) v t)
          (builtinChildrenWith (c.withMemory strict) (r.children (c.withMemory strict)) v t) :=
        alike_builtinChildrenWith form fun v' t' less => ih _ less v' t' rfl
      refine .bind built.guarded.attempt fun x y _ same => ?_
      cases same with
      | ok sequences => exact .pure sequences
      | error failures => exact .pure (.refl _)

/-- What is built in for children is alike, as the children are of what a nullable value holds. -/
theorem alike_builtinChildren (v : Value) (t : TypeDescriptor) :
    Alike ChildSequence.Alike (r.builtinChildren c v t)
      (r.builtinChildren (c.withMemory strict) v t) := by
  rw [builtinChildren_eq, builtinChildren_eq]
  exact alike_builtinChildrenWith form fun v' t' _ => alike_children form empty v' t'

end Form

/-- Giving the wrong number of bytes is refusing to read. Without formatters of the host, everything
that is done with a value ends in the same way, but for the wording of errors, if a reader refuses
where it gave fewer or more bytes than it was asked for. -/
theorem short_reads_refused (form : IsStrictForm c.memory strict) (empty : r.entries = [])
    (v : Value) (t : TypeDescriptor) (p : Preference) :
    let c' := c.withMemory strict
    Alike Eq (c.resolve v p) (c'.resolve v p) ∧
      Alike Eq (c.resolveOrStatic v p) (c'.resolveOrStatic v p) ∧
      Alike Eq (c.describe v) (c'.describe v) ∧
      Alike Eq (c.isTrue v) (c'.isTrue v) ∧
      Alike Eq (r.summarize c v t) (r.summarize c' v t) ∧
      Alike Eq (r.hardcodedSummary c v t) (r.hardcodedSummary c' v t) ∧
      Alike ChildSequence.ShowsLike (r.children c v t) (r.children c' v t) ∧
      Alike ChildSequence.ShowsLike (r.hardcodedChildren c v t) (r.hardcodedChildren c' v t) := by
  intro c'
  have shown : ∀ s s' : ChildSequence, s.Alike s' → s.ShowsLike s' := fun _ _ h => h.showsLike
  refine ⟨Context.alike_resolve form v p, Context.alike_resolveOrStatic form v p,
    Context.alike_describe form v, Context.alike_isTrue form v,
    alike_summaryOf form empty ⟨v, t, 0⟩, ?_, (alike_children form empty v t).mono shown, ?_⟩
  · exact .andThen (.same _) fun _ _ => (alike_builtinSummary form empty v t 0).guarded
  · exact .andThen (.same _) fun _ _ => ((alike_builtinChildren form empty v t).mono shown).guarded

/-- A memory that gives four bytes at most has no header to describe an object by, like one that
refuses to give more. -/
theorem short_reads_refused_header :
    let memory : MemoryReader := fun _ size => .ok (List.replicate (min size 4) 0)
    let strict : MemoryReader := fun address size =>
      if size ≤ 4 then memory address size else .error "out of reach"
    let c : Context := { memory, metadata := ⟨fun _ => none, fun _ => none⟩ }
    let v : Value := .objectAt .anyReference 0x1000 1
    IsStrictForm c.memory strict ∧
      ((c.withMemory strict).describe v).outcome =
        .error (.failed (.inaccessible 0x1000 "out of reach")) ∧
      Alike Eq (c.describe v) ((c.withMemory strict).describe v) ∧
      (c.describe v).outcome ≠ ((c.withMemory strict).describe v).outcome := by
  intro memory strict c v
  have form : IsStrictForm c.memory strict := by
    refine ⟨fun address size bytes read short => ⟨"out of reach", if_neg fun few => ?_⟩,
      fun address size full => if_pos ?_⟩
    · cases read
      rw [List.length_replicate] at short
      omega
    · have := full _ rfl
      rw [List.length_replicate] at this
      omega
  obtain ⟨-, -, describe, -⟩ :=
    short_reads_refused form (r := {}) rfl v .anyReference .preferDynamic
  exact ⟨form, by decide +kernel, describe, by decide +kernel⟩

end FormatterRegistry

end HeapScope
