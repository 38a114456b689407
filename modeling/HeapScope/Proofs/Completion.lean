import HeapScope.Image
import HeapScope.Memory.Snapshot
import HeapScope.Proofs.Header

/-!
# When resolving a value crashes

Resolving and describing run without a guard, so a crash of theirs ends the whole inspection. They
read words, look a tag up and, for a box, add the offset of its contents to its address. A read ends
with a word or with an error, whatever the address, and so does a lookup; the sum need not fit.

So there is one way to crash: the value is moved into a box that lies so close to the end of the
address space that its contents would lie beyond it. `inspection_completes_iff` says that there is
no other.
-/

namespace HeapScope.Context

variable {c : Context} {v : Value}

/-! ## What always completes -/

/-- Comparing a value with the stop does not crash. -/
theorem completes_validate (c : Context) (v : Value) : (c.validate v).Completes := by
  rw [validate]
  split
  · exact .pure _
  · exact .fail _

section Words

variable (words : c.HasWords)
include words

/-- Finding the tag behind a header does not crash. -/
theorem completes_tagAt (object pointer : UInt64) : (c.tagAt object pointer).Completes := by
  have read := fun address => completes_readPointer words.pointerSize_ne_zero address
  rw [tagAt]
  split
  · exact .fail _
  · refine (read pointer).bind fun first => ?_
    split
    · exact .pure _
    · refine (read first).attempt.bind fun found => ?_
      split
      · split
        · exact .pure _
        · exact .fail _
      · exact .fail _

/-- Finding the tag of an object does not crash. -/
theorem completes_readTag (object : UInt64) : (c.readTag object).Completes := by
  rw [readTag_eq]
  exact (completes_readPointer words.pointerSize_ne_zero object).bind fun _ =>
    completes_tagAt words object _

/-- Looking up the type of an object does not crash. -/
theorem completes_runtimeType (object : UInt64) : (c.runtimeType object).Completes := by
  refine (completes_readTag words object).bind fun tag => ?_
  split
  · exact .pure _
  · exact .fail _

/-- Finding the class of a value does not crash. -/
theorem completes_classOf (v : Value) : (c.classOf v).Completes := by
  refine (completes_validate c v).bind fun _ => ?_
  split
  · exact .pure _
  · refine (completes_objectAddress words.pointerSize_ne_zero v).bind fun object => ?_
    split
    · exact .pure _
    · exact (completes_runtimeType words object).bind fun _ => .pure _

/-- Describing a value does not crash. -/
theorem completes_describe (v : Value) : (c.describe v).Completes := by
  refine (completes_validate c v).bind fun _ => ?_
  refine (completes_objectAddress words.pointerSize_ne_zero v).bind fun object => ?_
  split
  · exact .pure _
  · exact (completes_runtimeType words object).bind fun _ => .pure _

/-! ## The place inside a box -/

/-- The contents of a box lie behind a word of header, or at their own size if that is more. -/
theorem boxedOffset_eq (k : PrimitiveKind) :
    c.abi.boxedOffset (UInt64.ofNat k.size) =
      .ok (UInt64.ofNat (max c.abi.pointerSize.toNat k.size)) := by
  rw [Abi.boxedOffset, Abi.headerSize]
  rcases words with width | width <;> rw [width] <;> cases k <;> rfl

end Words

/-- A class is that of a box, and in a box at the given address the contents would lie beyond the
end of the address space. -/
def BoxPastEnd (c : Context) (object : UInt64) (record : TypeRecord) : Prop :=
  ∃ k, TypeKind.ofRuntimeName record.name = .boxed k ∧
    UInt64.size ≤ object.toNat + max c.abi.pointerSize.toNat k.size

/-- A value stands for a box, and the contents of the box would lie beyond the end of the address
space. -/
def IsBoxPastEnd (c : Context) (v : Value) : Prop :=
  ∃ object record, (c.classOf v).outcome = .ok (some (object, record)) ∧
    c.BoxPastEnd object record

/-- The offset of what a box holds is small. -/
theorem toNat_boxedOffset (words : c.HasWords) (k : PrimitiveKind) :
    (UInt64.ofNat (max c.abi.pointerSize.toNat k.size)).toNat =
      max c.abi.pointerSize.toNat k.size := by
  rcases words with width | width <;> rw [width] <;> cases k <;> rfl

/-- The contents of an object have a place unless they lie in a box, beyond the end. -/
theorem completes_contents_iff (words : c.HasWords) (object : UInt64) (record : TypeRecord) :
    (c.contents object record).Completes ↔ ¬ c.BoxPastEnd object record := by
  rw [contents]
  split
  case h_1 k boxed =>
    have past : c.BoxPastEnd object record ↔
        UInt64.size ≤ object.toNat + max c.abi.pointerSize.toNat k.size := by
      constructor
      · rintro ⟨k', boxed', beyond⟩
        cases boxed.symm.trans boxed'
        exact beyond
      · exact fun beyond => ⟨k, boxed, beyond⟩
    rw [boxedOffset_eq words, Probe.liftM_ok_bind, addExact, toNat_boxedOffset words, past,
      Nat.not_le]
    by_cases fits : object.toNat + max c.abi.pointerSize.toNat k.size < UInt64.size
    · rw [if_pos fits, Probe.liftM_ok_bind]
      exact ⟨fun _ => fits, fun _ => .pure _⟩
    · rw [if_neg fits, Probe.liftM_error_bind]
      exact ⟨fun h => absurd rfl (h .addOverflow), fun h => absurd h fits⟩
  case h_2 unboxed =>
    refine ⟨fun _ => ?_, fun _ => .pure _⟩
    rintro ⟨k, boxed, -⟩
    exact unboxed k boxed

/-! ## Resolving -/

/-- Placing a value completes unless the value is moved into a box, beyond the end. -/
theorem completes_place_iff (words : c.HasWords) (v : Value) (object : UInt64) (record : TypeRecord)
    (p : Preference) :
    (c.place v object record p).Completes ↔
      ¬ (p = .preferDynamic ∧ c.BoxPastEnd object record) := by
  cases p with
  | preferStatic => exact ⟨fun _ h => Preference.noConfusion h.1, fun _ => .pure _⟩
  | preferDynamic =>
    rw [place, completes_contents_iff words]
    simp

/-- Resolving completes unless the value is moved into a box, beyond the end. -/
theorem completes_resolve_iff (words : c.HasWords) (v : Value) (p : Preference) :
    (c.resolve v p).Completes ↔ ¬ (p = .preferDynamic ∧ c.IsBoxPastEnd v) := by
  rcases (completes_classOf words v).cases with ⟨class?, found⟩ | ⟨e, failed⟩
  · cases class? with
    | none =>
      refine iff_of_true (.of_ok (outcome_resolve_of_none found p)) ?_
      rintro ⟨-, object, record, hit, -⟩
      cases found.symm.trans hit
    | some hit =>
      obtain ⟨object, record⟩ := hit
      have box : c.IsBoxPastEnd v ↔ c.BoxPastEnd object record := by
        constructor
        · rintro ⟨object', record', hit, past⟩
          cases found.symm.trans hit
          exact past
        · exact fun past => ⟨object, record, found, past⟩
      rw [box, ← completes_place_iff words v, Probe.Completes, Probe.Completes,
        outcome_resolve_of_some found p]
      cases (c.place v object record p).outcome <;> simp [Except.map]
  · refine iff_of_true (fun crash crashed => ?_) ?_
    · cases (outcome_resolve_of_error failed p).symm.trans crashed
    · rintro ⟨-, object, record, hit, -⟩
      cases failed.symm.trans hit

/-- Falling back on the static type gives a value exactly where resolving completes. -/
theorem exists_resolveOrStatic_iff (c : Context) (v : Value) (p : Preference) :
    (∃ d, (c.resolveOrStatic v p).outcome = .ok d) ↔ (c.resolve v p).Completes := by
  rw [Probe.Completes, outcome_resolveOrStatic]
  rcases (c.resolve v p).outcome with (e | crash) | d <;> simp

/-- On a target with pointers of four or eight bytes, describing a value never crashes. Resolving it
ends with a value or with an error, and falling back on the static type with a value, unless the
value is moved to the contents of a box and these would lie beyond the end of the address space. -/
theorem inspection_completes_iff (words : c.HasWords) (v : Value) (p : Preference) :
    (c.describe v).Completes ∧
      ((c.resolve v p).Completes ↔ ¬ (p = .preferDynamic ∧ c.IsBoxPastEnd v)) ∧
      ((∃ d, (c.resolveOrStatic v p).outcome = .ok d) ↔
        ¬ (p = .preferDynamic ∧ c.IsBoxPastEnd v)) := by
  refine ⟨completes_describe words v, completes_resolve_iff words v p, ?_⟩
  rw [exists_resolveOrStatic_iff]
  exact completes_resolve_iff words v p

/-- The contents of a box may be the last word of the address space. -/
theorem inspection_completes_last_box :
    let memory : MemorySnapshot := ⟨[⟨0x2000, toLittleEndian 8 0x2000⟩,
      ⟨0xfffffffffffffff0, toLittleEndian 8 0x2000⟩]⟩
    let images := ImageTable.add {}
      { name := "app", symbols := ⟨[⟨"ktype:kotlin.Int", 0x2000, 0⟩], false⟩ }
    let c : Context := { memory := memory.read, metadata := images.metadata }
    let v : Value := .objectAt .anyReference 0xfffffffffffffff0 1
    let d : DynamicValue :=
      ⟨.ofRecord ⟨"kotlin.Int", 0x2000, none⟩, .memory 0xfffffffffffffff8, .scalar .int⟩
    c.HasWords ∧ (c.resolve v .preferDynamic).outcome = .ok d ∧ ¬ c.IsBoxPastEnd v ∧
      (c.resolveOrStatic v .preferDynamic).outcome = .ok d := by
  intro memory images c v d
  have words : c.HasWords := .inr rfl
  have moves : (c.resolve v .preferDynamic).outcome = .ok d := by decide +kernel
  obtain ⟨-, resolves, -⟩ := inspection_completes_iff words v .preferDynamic
  refine ⟨words, moves, fun past => resolves.1 (.of_ok moves) ⟨rfl, past⟩, ?_⟩
  rw [outcome_resolveOrStatic, moves]

/-- A box in the last word of the address space has no contents: resolving a value that stands for
it crashes, and so does falling back on the static type. -/
theorem resolve_box_past_end :
    let memory : MemorySnapshot := ⟨[⟨0x2000, toLittleEndian 8 0x2000⟩,
      ⟨0xfffffffffffffff8, toLittleEndian 8 0x2000⟩]⟩
    let images := ImageTable.add {}
      { name := "app", symbols := ⟨[⟨"ktype:kotlin.Int", 0x2000, 0⟩], false⟩ }
    let c : Context := { memory := memory.read, metadata := images.metadata }
    let v : Value := .objectAt .anyReference 0xfffffffffffffff8 1
    (c.resolve v .preferDynamic).outcome = .error (.crashed .addOverflow) ∧
      (c.resolveOrStatic v .preferDynamic).outcome = .error (.crashed .addOverflow) := by
  intro memory images c v
  have crashes : (c.resolve v .preferDynamic).outcome = .error (.crashed .addOverflow) := by
    decide +kernel
  refine ⟨crashes, ?_⟩
  rw [outcome_resolveOrStatic, crashes]

end HeapScope.Context
