import HeapScope.Proofs.Formatter.Hardcoded
import HeapScope.Proofs.Resolution

/-!
# Formatting under either preference

A value whose class is found on the heap can stay where it is, or it can be moved to the contents of
the object: to the object itself, or to the primitive inside a box. What is built in for the class
finds the same contents from both places, so neither its text nor its children depend on the
preference under which a value was resolved.
-/

namespace HeapScope

namespace Builtin

variable {c : Context} {s d : Value} {h : TypeHead}

/-! ## Two values that stand for one object -/

/-- What is done with the object of a value depends on the value through its object alone. -/
theorem outcome_withObject_congr {α : Type}
    (same : (c.objectAddress s).outcome = (c.objectAddress d).outcome) (ifNull : α)
    (p : UInt64 → Probe α) :
    (withObject c s ifNull p).outcome = (withObject c d ifNull p).outcome := by
  rw [withObject, withObject, Probe.outcome_bind, Probe.outcome_bind, same]

/-- Two values that stand for one object have the same text, unless their type says that they are
primitives or boxes. -/
theorem outcome_summaryWith_congr (config : FormatterConfig) (next : SummaryCall → Probe String)
    {k : TypeKind} (depth : Nat)
    (same : (c.objectAddress s).outcome = (c.objectAddress d).outcome)
    (primitive : ∀ p, k ≠ .primitive p) (boxed : ∀ p, k ≠ .boxed p) :
    (summaryWith config c next ⟨s, .plain h k, depth⟩).outcome
      = (summaryWith config c next ⟨d, .plain h k, depth⟩).outcome := by
  have text : ∀ p : UInt64 → Probe String,
      (some <$> withObject c s nullText p).outcome
        = (some <$> withObject c d nullText p).outcome := fun p => by
    rw [Probe.outcome_map, Probe.outcome_map, outcome_withObject_congr same]
  cases k with
  | primitive p => exact absurd rfl (primitive p)
  | boxed p => exact absurd rfl (boxed p)
  | string => exact text _
  | object isFinal => rfl
  | interface => rfl
  | array element => cases element <;> exact text _
  | collection kind => exact text _

/-- Two values that stand for one object have the same children. -/
theorem outcome_builtinChildrenWith_congr (next : Value → TypeDescriptor → Probe ChildSequence)
    (k : TypeKind) (same : (c.objectAddress s).outcome = (c.objectAddress d).outcome) :
    (FormatterRegistry.builtinChildrenWith c next s (.plain h k)).outcome
      = (FormatterRegistry.builtinChildrenWith c next d (.plain h k)).outcome := by
  have fields : ∀ t, (fieldChildren c s t).outcome = (fieldChildren c d t).outcome := fun t => by
    rw [fieldChildren, fieldChildren]
    split
    · rfl
    · exact outcome_withObject_congr same _ _
  cases k with
  | primitive p => rfl
  | boxed p => rfl
  | string => rfl
  | object isFinal => exact fields _
  | interface => exact fields _
  | array element => exact outcome_withObject_congr same _ _
  | collection kind => exact outcome_withObject_congr same _ _

/-- The text of a box is that of what is inside. -/
theorem outcome_boxedText {k : PrimitiveKind} {object offset address : UInt64}
    (found : (c.objectAddress s).outcome = .ok object) (nonzero : object ≠ 0)
    (inside : c.abi.boxedOffset (UInt64.ofNat k.size) = .ok offset)
    (sum : addExact object offset = .ok address) :
    (boxedText c s k).outcome = (primitiveText c (.memory address) k).outcome := by
  rw [boxedText]
  split
  case h_1 stored scalar =>
    -- a scalar stands for no object
    rw [Context.objectAddress, scalar] at found
    cases found
  case h_2 =>
    rw [withObject, Probe.outcome_bind_of_ok found, if_neg nonzero, inside, Probe.liftM_ok_bind,
      sum, Probe.liftM_ok_bind]

/-- What is built in for the class of an object has the same text for a value that stands for the
object and for the contents of the object. -/
theorem outcome_summaryWith_ofRecord (config : FormatterConfig)
    (next : SummaryCall → Probe String) (depth : Nat) (stop : UInt64) {object : UInt64}
    {record : TypeRecord} {found : FoundClass}
    (stands : (c.objectAddress s).outcome = .ok object) (nonzero : object ≠ 0)
    (inside : (c.contents object record).outcome = .ok found) :
    let t := TypeDescriptor.ofRecord record
    (summaryWith config c next ⟨s, t, depth⟩).outcome
      = (summaryWith config c next ⟨⟨t, found.location, found.kind, stop⟩, t, depth⟩).outcome := by
  intro t
  obtain ⟨k, offset, address, boxed, hoffset, sum, rfl⟩ | ⟨unboxed, rfl⟩ :=
    Context.contents_cases inside
  · have text := outcome_boxedText stands nonzero hoffset sum
    rw [show t = _ from TypeDescriptor.ofRecord_of_boxed boxed]
    show (some <$> boxedText c s k).outcome = (some <$> primitiveText c (.memory address) k).outcome
    rw [Probe.outcome_map, Probe.outcome_map, text]
  · exact outcome_summaryWith_congr config next depth stands
      (TypeKind.ofRuntimeName_ne_primitive record.name) unboxed

/-- What is built in for the class of an object has the same children for a value that stands for
the object and for the contents of the object. -/
theorem outcome_builtinChildrenWith_ofRecord
    (next : Value → TypeDescriptor → Probe ChildSequence) (stop : UInt64) {object : UInt64}
    {record : TypeRecord} {found : FoundClass}
    (stands : (c.objectAddress s).outcome = .ok object)
    (inside : (c.contents object record).outcome = .ok found) :
    let t := TypeDescriptor.ofRecord record
    (FormatterRegistry.builtinChildrenWith c next s t).outcome
      = (FormatterRegistry.builtinChildrenWith c next
          ⟨t, found.location, found.kind, stop⟩ t).outcome := by
  intro t
  obtain ⟨k, offset, address, boxed, -, -, rfl⟩ | ⟨-, rfl⟩ := Context.contents_cases inside
  · rw [show t = _ from TypeDescriptor.ofRecord_of_boxed boxed]
    rfl
  · exact outcome_builtinChildrenWith_congr next _ stands

end Builtin

namespace FormatterRegistry

variable {c : Context} {v : Value}

/-- What is built in for a class finds the same in an object from where a value lies and from where
the contents of the object lie. -/
theorem hardcoded_congr (r : FormatterRegistry) {object : UInt64} {record : TypeRecord}
    {found : FoundClass} (stands : (c.objectAddress v).outcome = .ok object) (nonzero : object ≠ 0)
    (inside : (c.contents object record).outcome = .ok found) :
    let t := TypeDescriptor.ofRecord record
    let s : Value := ⟨t, v.location, v.kind, c.stop⟩
    let d : Value := ⟨t, found.location, found.kind, c.stop⟩
    (r.hardcodedSummary c s t).outcome = (r.hardcodedSummary c d t).outcome ∧
      (r.hardcodedChildren c s t).outcome = (r.hardcodedChildren c d t).outcome := by
  intro t s d
  have freshS : c.isFresh s = true := beq_self_eq_true _
  have freshD : c.isFresh d = true := beq_self_eq_true _
  rw [hardcodedSummary_of_fresh freshS, hardcodedSummary_of_fresh freshD,
    hardcodedChildren_of_fresh freshS, hardcodedChildren_of_fresh freshD,
    builtinSummary_eq, builtinSummary_eq, builtinChildren_eq, builtinChildren_eq]
  have text := Builtin.outcome_summaryWith_ofRecord (s := s) r.config (r.summaryOf c) 0 c.stop
    stands nonzero inside
  have children := Builtin.outcome_builtinChildrenWith_ofRecord (s := s) (r.children c) c.stop
    stands inside
  exact ⟨Probe.outcome_guarded_congr text, Probe.outcome_guarded_congr children⟩

/-- Under either preference a value resolves to the same type, or fails in the same way, and what is
built in has the same text and the same children for both results. -/
theorem resolve_preferences_agree (r : FormatterRegistry) (c : Context) (v : Value)
    (stays : (c.resolve v .preferStatic).Completes)
    (moves : (c.resolve v .preferDynamic).Completes) :
    (∃ e, (c.resolve v .preferStatic).outcome = .error (.failed e) ∧
        (c.resolve v .preferDynamic).outcome = .error (.failed e)) ∨
      ∃ s d, (c.resolve v .preferStatic).outcome = .ok s ∧
        (c.resolve v .preferDynamic).outcome = .ok d ∧ s.type = d.type ∧
        (r.hardcodedSummary c (s.toValue c.stop) s.type).outcome
          = (r.hardcodedSummary c (d.toValue c.stop) d.type).outcome ∧
        (r.hardcodedChildren c (s.toValue c.stop) s.type).outcome
          = (r.hardcodedChildren c (d.toValue c.stop) d.type).outcome := by
  cases hclass : (c.classOf v).outcome with
  | error stop =>
    have ends := Context.outcome_resolve_of_error hclass
    cases stop with
    | failed e => exact .inl ⟨e, ends _, ends _⟩
    | crashed crash => exact absurd (ends _) (stays crash)
  | ok class? =>
    cases class? with
    | none =>
      -- both results are the value as it is declared
      have ends := Context.outcome_resolve_of_none hclass
      exact .inr ⟨_, _, ends _, ends _, rfl, rfl, rfl⟩
    | some hit =>
      obtain ⟨object, record⟩ := hit
      have ends := Context.outcome_resolve_of_some hclass
      obtain ⟨stands, nonzero⟩ := Context.objectAddress_of_classOf hclass
      have inside : (c.contents object record).Completes := fun crash crashed => by
        refine moves crash ((ends _).trans ?_)
        rw [Context.place, crashed]
        rfl
      obtain ⟨found, hfound, rfl⟩ := Context.exists_of_completes_contents inside
      obtain ⟨text, children⟩ := r.hardcoded_congr stands nonzero hfound
      refine .inr ⟨⟨.ofRecord found.record, v.location, v.kind⟩,
        ⟨.ofRecord found.record, found.location, found.kind⟩,
        ends .preferStatic, (ends .preferDynamic).trans ?_, rfl, text, children⟩
      rw [Context.place, hfound]
      rfl

/-- A number in a box has the same text from the slot that refers to the box and from inside. -/
theorem resolve_preferences_agree_boxed :
    let word (address : UInt64) : Nat :=
      if address = 0x1000 then 0x1010 else if address = 0x1018 then 42 else 0x1020
    let c : Context :=
      { memory := fun address size => .ok (toLittleEndian size (word address))
        metadata := ⟨fun tag => some ⟨"kotlin.Int", tag, none⟩, fun _ => none⟩ }
    let v : Value := .referenceAt .anyReference 0x1000 1
    let t : TypeDescriptor := .ofRecord ⟨"kotlin.Int", 0x1020, none⟩
    let s : DynamicValue := ⟨t, .memory 0x1000, .reference⟩
    let d : DynamicValue := ⟨t, .memory 0x1018, .scalar .int⟩
    let r : FormatterRegistry := {}
    (c.resolve v .preferStatic).outcome = .ok s ∧ (c.resolve v .preferDynamic).outcome = .ok d ∧
      (r.hardcodedSummary c (s.toValue 1) t).outcome
        = (r.hardcodedSummary c (d.toValue 1) t).outcome ∧
      (r.hardcodedChildren c (s.toValue 1) t).outcome
        = (r.hardcodedChildren c (d.toValue 1) t).outcome := by
  intro word c v t s d r
  have stays : (c.resolve v .preferStatic).outcome = .ok s := by decide +kernel
  have moves : (c.resolve v .preferDynamic).outcome = .ok d := by decide +kernel
  obtain ⟨e, failed, -⟩ | ⟨s', d', hs', hd', -, text, children⟩ :=
    resolve_preferences_agree r c v (.of_ok stays) (.of_ok moves)
  · rw [stays] at failed
    cases failed
  · obtain rfl : s = s' := Except.ok.inj (stays.symm.trans hs')
    obtain rfl : d = d' := Except.ok.inj (moves.symm.trans hd')
    exact ⟨stays, moves, text, children⟩

end FormatterRegistry

end HeapScope
