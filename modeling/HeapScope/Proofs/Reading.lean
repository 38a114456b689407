import HeapScope.Formatter.Summary
import HeapScope.Proofs.Probe

/-!
# What looking at a value leaves in the trace

Resolving, describing and formatting a value reads memory and registers and does nothing else, as
long as no formatter of the host and no further summary comes into play.
-/

namespace HeapScope

/-- Whether an event is a read of memory or of a register. -/
def Event.isRead : Event → Bool
  | .memory _ _ => true
  | .register _ => true
  | _ => false

namespace Probe

variable {α β : Type} {P : Event → Prop}

/-- Whether all that a probe leaves in the trace is of some kind. -/
def Leaves (P : Event → Prop) (p : Probe α) : Prop := ∀ e ∈ p.events, P e

/-- A value by itself leaves nothing in the trace. -/
@[simp] theorem leaves_pure (a : α) : (pure a : Probe α).Leaves P := nofun

/-- Nor does an inspection error. -/
@[simp] theorem leaves_fail (e : InspectionError) : (fail e : Probe α).Leaves P := nofun

/-- An event that is recorded is all that is left. -/
@[simp] theorem leaves_note (e : Event) : (note e).Leaves P ↔ P e := List.forall_mem_singleton

/-- A step without a trace leaves nothing, however it ends. -/
@[simp] theorem leaves_ofExcept (x : Except InspectionError α) : (ofExcept x).Leaves P := by
  cases x <;> nofun

/-- Exact arithmetic leaves nothing, also if it crashes. -/
@[simp] theorem leaves_liftM (x : Except Crash α) : (liftM x : Probe α).Leaves P := by
  cases x <;> nofun

/-- Two probes in a row leave what each of them does; the second one counts only if it is reached.
-/
@[simp] theorem leaves_bind (p : Probe α) (f : α → Probe β) :
    (p >>= f).Leaves P ↔ p.Leaves P ∧ ∀ a, p.outcome = .ok a → (f a).Leaves P := by
  cases h : p.outcome with
  | ok a => simp [Leaves, events_bind_of_ok h, or_imp, forall_and]
  | error s => simp [Leaves, events_bind_of_error h]

/-- A change of the value leaves the trace as it is. -/
@[simp] theorem leaves_map (f : α → β) (p : Probe α) : (f <$> p).Leaves P ↔ p.Leaves P := by
  rw [map_eq_pure_bind, leaves_bind]
  simp

/-- An attempt leaves what the probe leaves. -/
@[simp] theorem leaves_attempt (p : Probe α) : p.attempt.Leaves P ↔ p.Leaves P := by
  simp [Leaves]

/-- Under guard a probe leaves what it leaves without. -/
@[simp] theorem leaves_guarded (p : Probe α) : p.guarded.Leaves P ↔ p.Leaves P := by
  simp [Leaves]

/-- What is of some kind is of every wider one. -/
theorem Leaves.mono {Q : Event → Prop} {p : Probe α} (h : p.Leaves P) (hPQ : ∀ e, P e → Q e) :
    p.Leaves Q :=
  fun e he => hPQ e (h e he)

/-- A probe that looks and does nothing else. -/
abbrev OnlyReads (p : Probe α) : Prop := p.Leaves fun e => e.isRead = true

end Probe

namespace Context

variable (c : Context)

/-- A recorded read of memory is a read. -/
@[simp] theorem onlyReads_recordRead {α : Type} (address : UInt64) (size : Nat)
    (result : Except String α) : (recordRead address size result).OnlyReads := by
  simp [recordRead, Event.isRead]

/-- Comparing a value with the stop does not even read. -/
@[simp] theorem onlyReads_validate (v : Value) : (c.validate v).OnlyReads := by
  rw [validate]
  split <;> simp

/-- Reading bytes leaves a read, and nothing else if they are too few. -/
@[simp] theorem onlyReads_read (address : UInt64) (size : Nat) :
    (c.read address size).OnlyReads := by
  simp only [read, Probe.leaves_bind, onlyReads_recordRead, true_and]
  intro bytes _
  split <;> simp

/-- A pointer is checked, and then read. -/
@[simp] theorem onlyReads_readPointer (address : UInt64) : (c.readPointer address).OnlyReads := by
  simp only [readPointer, Probe.leaves_bind, Probe.leaves_liftM, true_and]
  intro rest _
  split
  · simp
  · split <;> simp

/-- Reading an unsigned word only reads. -/
@[simp] theorem onlyReads_readUInt32 (address : UInt64) : (c.readUInt32 address).OnlyReads := by
  simp [readUInt32]

/-- Reading a signed word only reads. -/
@[simp] theorem onlyReads_readInt32 (address : UInt64) : (c.readInt32 address).OnlyReads := by
  simp [readInt32]

/-- Reading a register leaves its read, or nothing if there are no registers. -/
@[simp] theorem onlyReads_readRegister (register : Register) :
    (c.readRegister register).OnlyReads := by
  rw [readRegister]
  split <;> simp [Event.isRead]

/-- Finding the object of a value reads a pointer or a register at most. -/
@[simp] theorem onlyReads_objectAddress (v : Value) : (c.objectAddress v).OnlyReads := by
  rw [objectAddress.eq_def]
  split <;> simp

/-- Reading a primitive only reads, from memory or from a register. -/
@[simp] theorem onlyReads_readScalar (location : ValueLocation) (k : PrimitiveKind) :
    (c.readScalar location k).OnlyReads := by
  cases location <;> simp [readScalar]

/-- Counting the elements of an array only reads. -/
@[simp] theorem onlyReads_arrayCount (object : UInt64) : (c.arrayCount object).OnlyReads := by
  simp [arrayCount]

/-- Each word on the way from an object to its tag is only read. -/
@[simp] theorem onlyReads_readTag (object : UInt64) : (c.readTag object).OnlyReads := by
  simp only [readTag, Probe.leaves_bind, onlyReads_readPointer, true_and]
  intro header _
  split
  · simp
  · simp only [Probe.leaves_bind, onlyReads_readPointer, true_and]
    intro first _
    split
    · simp
    · simp only [Probe.leaves_bind, Probe.leaves_attempt, onlyReads_readPointer, true_and]
      intro info _
      split
      · split <;> simp
      · simp

/-- Looking a tag up adds nothing to the reads that find it. -/
@[simp] theorem onlyReads_runtimeType (object : UInt64) : (c.runtimeType object).OnlyReads := by
  simp only [runtimeType, Probe.leaves_bind, onlyReads_readTag, true_and]
  intro tag _
  split <;> simp

/-- Finding what a box holds needs no read. -/
@[simp] theorem onlyReads_contents (object : UInt64) (record : TypeRecord) :
    (c.contents object record).OnlyReads := by
  rw [contents]
  split <;> simp

/-- Finding the class of a value only reads, whatever is preferred. -/
@[simp] theorem onlyReads_findClass (v : Value) (p : Preference) :
    (c.findClass v p).OnlyReads := by
  simp only [findClass, Probe.leaves_bind, onlyReads_validate, true_and]
  intro _ _
  split
  · simp
  · simp only [Probe.leaves_bind, onlyReads_objectAddress, true_and]
    intro object _
    split
    · simp
    · cases p <;> simp

/-- Resolving a value only reads. -/
@[simp] theorem onlyReads_resolveOrStatic (v : Value) (p : Preference) :
    (c.resolveOrStatic v p).OnlyReads := by
  simp only [resolveOrStatic, findClassIfAny, Probe.leaves_bind, Probe.leaves_attempt,
    onlyReads_findClass, true_and]
  refine ⟨fun found _ => ?_, by simp⟩
  split <;> simp

/-- A line on the object of a value only reads. -/
@[simp] theorem onlyReads_describe (v : Value) : (c.describe v).OnlyReads := by
  simp only [describe, Probe.leaves_bind, onlyReads_validate, onlyReads_objectAddress, true_and]
  intro _ _ object _
  split <;> simp

/-- Taking a value out of a nullable type only reads. -/
@[simp] theorem onlyReads_unwrap (v : Value) (inner : TypeDescriptor) :
    (c.unwrap v inner).OnlyReads := by
  rw [unwrap]
  split
  · simp
  · simp only [Probe.leaves_bind, onlyReads_objectAddress, true_and]
    intro object _
    split
    · simp
    · simp only [findClassIfAny, Probe.leaves_bind, Probe.leaves_attempt, onlyReads_findClass,
        true_and]
      refine ⟨fun found _ => ?_, by simp⟩
      split <;> simp

/-! ## Finding the object of a value -/

variable {c}

/-- A read of memory does not crash, whatever it finds. -/
theorem completes_recordRead {α : Type} (address : UInt64) (size : Nat)
    (result : Except String α) : (recordRead address size result).Completes :=
  (Probe.Completes.note _).bind fun _ => .ofExcept _

/-- Reading a pointer crashes on no target whose pointers have a width. -/
theorem completes_readPointer (width : c.abi.pointerSize ≠ 0) (address : UInt64) :
    (c.readPointer address).Completes := by
  have rest : modExact address c.abi.pointerSize = .ok (address % c.abi.pointerSize) :=
    if_neg width
  rw [readPointer, rest]
  refine Probe.Completes.bind (.pure _) fun rest => ?_
  split
  · exact .fail _
  · split
    · exact completes_recordRead _ _ _
    · exact .fail _

/-- Reading a register does not crash. -/
theorem completes_readRegister (register : Register) : (c.readRegister register).Completes := by
  rw [readRegister]
  split
  · exact .fail _
  · exact (Probe.Completes.note _).bind fun _ => .ofExcept _

/-- Reading a primitive does not crash. -/
theorem completes_readScalar (location : ValueLocation) (k : PrimitiveKind) :
    (c.readScalar location k).Completes := by
  cases location with
  | memory address =>
    refine Probe.Completes.bind ?_ fun bytes => .ofExcept _
    refine (completes_recordRead _ _ _).bind fun bytes => ?_
    split
    · exact .pure _
    · exact .fail _
  | register register => exact (completes_readRegister register).bind fun word => .ofExcept _

/-- Following a value to its object crashes on no target whose pointers have a width. -/
theorem completes_objectAddress (width : c.abi.pointerSize ≠ 0) (v : Value) :
    (c.objectAddress v).Completes := by
  rw [objectAddress.eq_def]
  split
  · exact completes_readPointer width _
  · exact completes_readRegister _
  · exact .pure _
  · exact .fail _
  · exact .fail _

end Context

namespace Collection

variable (c : Context) (object : UInt64) (layout : Option ClassLayout)

/-- Reading the length of a collection only reads. -/
@[simp] theorem onlyReads_readLength (address : UInt64) (what : String) :
    (readLength c address what).OnlyReads := by
  simp only [readLength, Probe.leaves_bind, Context.onlyReads_readInt32, true_and]
  intro n _
  split <;> simp

/-- Checking a list against its array only reads. -/
@[simp] theorem onlyReads_checkList (v : ListView) : (checkList c object v).OnlyReads := by
  rw [checkList]
  split
  · simp
  · split
    · simp
    · simp only [Probe.leaves_bind, Probe.leaves_liftM, Context.onlyReads_arrayCount, true_and]
      intro capacity _ limit _
      split <;> simp

/-- Reading the fields of a list only reads. -/
@[simp] theorem onlyReads_readList : (readList c object layout).OnlyReads := by
  simp only [readList, Probe.leaves_bind, Probe.leaves_liftM, Context.onlyReads_readPointer,
    true_and]
  intro length _ first _ place _ array _
  cases first <;> simp

/-- Checking a map against its arrays only reads. -/
@[simp] theorem onlyReads_checkMap (v : MapView) : (checkMap c object v).OnlyReads := by
  rw [checkMap]
  split
  · simp
  · split
    · simp
    · split
      · simp
      · simp only [Probe.leaves_bind, Context.onlyReads_arrayCount, true_and]
        intro keys _ presence _
        split <;> simp

/-- Reading the fields of a map only reads. -/
@[simp] theorem onlyReads_readMap : (readMap c object layout).OnlyReads := by
  simp [readMap]

/-- Reading the map behind a set only reads. -/
@[simp] theorem onlyReads_readSet : (readSet c object layout).OnlyReads := by
  simp only [readSet, Probe.leaves_bind, Probe.leaves_liftM, Context.onlyReads_readPointer,
    true_and]
  intro place _ map _
  split <;> simp

/-- Finding the size of a collection only reads, whatever its kind. -/
@[simp] theorem onlyReads_size (kind : CollectionKind) :
    (size c object kind layout).OnlyReads := by
  cases kind <;> simp [size]

end Collection

namespace Builtin

variable (config : FormatterConfig) (c : Context) (v : Value)

/-- What is done with the object of a value only reads if it only reads for every object. -/
@[simp] theorem onlyReads_withObject {α : Type} {ifNull : α} {p : UInt64 → Probe α}
    (h : ∀ object, (p object).OnlyReads) : (withObject c v ifNull p).OnlyReads := by
  simp only [withObject, Probe.leaves_bind, Context.onlyReads_objectAddress, true_and]
  intro object _
  split
  · simp
  · exact h object

/-- Showing a primitive at a location only reads. -/
@[simp] theorem onlyReads_primitiveText (location : ValueLocation) (k : PrimitiveKind) :
    (primitiveText c location k).OnlyReads := by
  simp [primitiveText]

/-- Showing a scalar only reads. -/
@[simp] theorem onlyReads_scalarText (k : PrimitiveKind) : (scalarText c v k).OnlyReads := by
  rw [scalarText]
  split <;> simp

/-- Showing what a box holds only reads. -/
@[simp] theorem onlyReads_boxedText (k : PrimitiveKind) : (boxedText c v k).OnlyReads := by
  rw [boxedText]
  split <;> simp

/-- Reading the units of a string only reads. -/
@[simp] theorem onlyReads_stringUnits (object : UInt64) (count : Nat) :
    (stringUnits c object count).OnlyReads := by
  rw [stringUnits]
  split <;> simp

/-- Showing a string only reads. -/
@[simp] theorem onlyReads_stringText : (stringText config c v).OnlyReads := by
  simp [stringText]

/-- Showing an element of a primitive array only reads. -/
@[simp] theorem onlyReads_primitiveElementText (k : PrimitiveKind) (data : UInt64) (index : Nat) :
    (primitiveElementText c k data index).OnlyReads := by
  simp [primitiveElementText]

/-- Finding the object of a slot only reads. -/
@[simp] theorem onlyReads_slotValue (data : UInt64) (index : Nat) :
    (slotValue c data index).OnlyReads := by
  simp [slotValue]

/-- Showing the size of a collection only reads. -/
@[simp] theorem onlyReads_collectionText (t : TypeDescriptor) (kind : CollectionKind) :
    (collectionText c v t kind).OnlyReads := by
  simp [collectionText]

end Builtin

namespace FormatterRegistry

variable (c : Context) (v : Value)

/-- The summary of last resort only reads. -/
@[simp] theorem onlyReads_genericSummary (t : TypeDescriptor) :
    (genericSummary c v t).OnlyReads := by
  rw [genericSummary]
  split
  · split
    · simp only [Probe.leaves_bind, Probe.leaves_attempt, Context.onlyReads_objectAddress, true_and]
      intro found _
      split <;> simp
    · simp
  · simp

/-- Describing an element of an array only reads. -/
@[simp] theorem onlyReads_describeElement : (describeElement c v).OnlyReads := by
  simp only [describeElement, Probe.leaves_bind, Probe.leaves_attempt, Context.onlyReads_describe,
    true_and]
  intro said _
  split <;> simp

end FormatterRegistry

end HeapScope
