import HeapScope.DynamicType
import HeapScope.Proofs.Probe
import Mathlib.Data.List.Basic

/-!
# Resolving the class of a value

Resolving a value finds its class first, whatever the preference, and only then decides where the
value lies. The class is found in the object's header or not at all: a settled type, a null
reference and a failed read all leave the value as it is declared.

A class found on the heap is never open. So a resolved value is settled, and `resolve_stable` shows
that resolving it again, under the same preference or the other one, gives it back.
-/

namespace HeapScope

/-- The class of an object is one that the runtime represents in a way of its own, a box, or a class
that is final. -/
theorem TypeKind.ofRuntimeName_cases (name : String) :
    (name, ofRuntimeName name) ∈ runtimeKinds ∨
      (∃ k, ofRuntimeName name = .boxed k) ∨ ofRuntimeName name = .object true := by
  rw [ofRuntimeName]
  split
  case h_1 kind hkind =>
    obtain ⟨ahead, behind, parts, -⟩ := List.lookup_eq_some_iff.1 hkind
    rw [parts]
    exact .inl (List.mem_append_right _ List.mem_cons_self)
  case h_2 =>
    -- here the name of a primitive means its boxed form
    split
    · exact .inr (.inl ⟨_, rfl⟩)
    · exact .inr (.inr rfl)

/-- The class of an object is never that of primitives stored in place. -/
theorem TypeKind.ofRuntimeName_ne_primitive (name : String) (k : PrimitiveKind) :
    TypeKind.ofRuntimeName name ≠ .primitive k := by
  intro h
  rcases ofRuntimeName_cases name with listed | ⟨boxed, hboxed⟩ | hobject
  · rw [h] at listed
    simp [runtimeKinds] at listed
  · rw [h] at hboxed
    cases hboxed
  · rw [h] at hobject
    cases hobject

/-- The record of a box gives the type of a box. -/
theorem TypeDescriptor.ofRecord_of_boxed {record : TypeRecord} {k : PrimitiveKind}
    (boxed : TypeKind.ofRuntimeName record.name = .boxed k) :
    ofRecord record = .plain ⟨record.name, record.layout, some record.tag⟩ (.boxed k) := by
  rw [ofRecord, boxed]

/-- No object has a more concrete class than the one in its header. -/
theorem TypeDescriptor.isFinal_ofRecord (record : TypeRecord) :
    (ofRecord record).isFinal = true := by
  have kinds : ∀ e ∈ runtimeKinds, ∀ head, (plain head e.2).isFinal = true := by
    simp [runtimeKinds, isFinal]
  rcases TypeKind.ofRuntimeName_cases record.name with listed | ⟨k, boxed⟩ | object
  · exact kinds _ listed _
  · rw [ofRecord_of_boxed boxed]
    rfl
  · rw [ofRecord, object]
    rfl

namespace Context

variable {c : Context} {v : Value}

/-! ## The class and the place of a value -/

/-- The object that a value stands for and its class. There is none to be found where the static
type settles the class or where the value is null. -/
def classOf (c : Context) (v : Value) : Probe (Option (UInt64 × TypeRecord)) := do
  c.validate v
  if !couldBeDynamic v.staticType || v.staticType.isFinal then pure none
  else
    let object ← c.objectAddress v
    if object = 0 then pure none
    else return some (object, ← c.runtimeType object)

/-- Where a value of a class lies under a preference. -/
def place (c : Context) (v : Value) (object : UInt64) (record : TypeRecord) :
    Preference → Probe FoundClass
  | .preferStatic => pure ⟨record, v.location, v.kind⟩
  | .preferDynamic => c.contents object record

/-- Whatever the preference, the class is found first. -/
theorem findClass_eq (c : Context) (v : Value) (p : Preference) :
    c.findClass v p = (do
      match ← c.classOf v with
      | none => pure none
      | some (object, record) => some <$> c.place v object record p) := by
  rw [findClass, classOf, bind_assoc]
  refine bind_congr fun _ => ?_
  split
  · -- the static type settles the class
    rfl
  · rw [bind_assoc]
    refine bind_congr fun object => ?_
    split
    · -- the value is null
      rfl
    · rw [bind_assoc]
      refine bind_congr fun record => ?_
      cases p <;> rfl

/-- What fails to find a class fails to resolve. -/
theorem outcome_resolve_of_error {stop : Stop} (h : (c.classOf v).outcome = .error stop)
    (p : Preference) : (c.resolve v p).outcome = .error stop := by
  rw [resolve, findClass_eq, bind_assoc]
  exact Probe.outcome_bind_of_error h _

/-- A value without a class is left as it is. -/
theorem outcome_resolve_of_none (h : (c.classOf v).outcome = .ok none) (p : Preference) :
    (c.resolve v p).outcome = .ok (.unchanged v) := by
  rw [resolve, findClass_eq, bind_assoc]
  exact Probe.outcome_bind_of_ok h _

/-- A value whose class is found resolves to the class, at its place. -/
theorem outcome_resolve_of_some {object : UInt64} {record : TypeRecord}
    (h : (c.classOf v).outcome = .ok (some (object, record))) (p : Preference) :
    (c.resolve v p).outcome = (c.place v object record p).outcome.map fun f =>
      ⟨.ofRecord f.record, f.location, f.kind⟩ := by
  rw [resolve, findClass_eq, bind_assoc, Probe.outcome_bind_of_ok h, ← Probe.outcome_map]
  simp only [map_eq_pure_bind, bind_assoc, pure_bind]
  rfl

/-- A value whose class is found stands for an object. -/
theorem objectAddress_of_classOf {object : UInt64} {record : TypeRecord}
    (h : (c.classOf v).outcome = .ok (some (object, record))) :
    (c.objectAddress v).outcome = .ok object ∧ object ≠ 0 := by
  obtain ⟨_, -, found⟩ := Probe.exists_of_bind_ok h
  split at found
  · cases found
  · obtain ⟨address, haddress, found⟩ := Probe.exists_of_bind_ok found
    split at found
    case isTrue => cases found
    case isFalse nonzero =>
      obtain ⟨record', -, same⟩ := Probe.exists_of_bind_ok found
      cases same
      exact ⟨haddress, nonzero⟩

/-- The contents of an object lie inside it if its class is that of a box, and else they are the
object. -/
theorem contents_cases {object : UInt64} {record : TypeRecord} {found : FoundClass}
    (h : (c.contents object record).outcome = .ok found) :
    (∃ k offset address, TypeKind.ofRuntimeName record.name = .boxed k ∧
        c.abi.boxedOffset (UInt64.ofNat k.size) = .ok offset ∧
        addExact object offset = .ok address ∧ found = ⟨record, .memory address, .scalar k⟩) ∨
      (∀ k, TypeKind.ofRuntimeName record.name ≠ .boxed k) ∧
        found = ⟨record, .memory object, .object⟩ := by
  rw [contents] at h
  split at h
  case h_1 k boxed =>
    obtain ⟨offset, hoffset, h⟩ := Probe.exists_of_bind_ok h
    obtain ⟨address, haddress, h⟩ := Probe.exists_of_bind_ok h
    cases h
    exact .inl ⟨k, offset, address, boxed, Probe.eq_ok_of_liftM hoffset,
      Probe.eq_ok_of_liftM haddress, rfl⟩
  case h_2 unboxed =>
    cases h
    exact .inr ⟨unboxed, rfl⟩

/-- Finding the contents of an object fails in no other way than by a crash. -/
theorem exists_of_completes_contents {object : UInt64} {record : TypeRecord}
    (h : (c.contents object record).Completes) :
    ∃ found, (c.contents object record).outcome = .ok found ∧ found.record = record := by
  obtain ⟨found, ok⟩ | ⟨error, failed⟩ := h.cases
  · refine ⟨found, ok, ?_⟩
    obtain ⟨k, offset, address, -, -, -, rfl⟩ | ⟨-, rfl⟩ := contents_cases ok <;> rfl
  · -- inside a box two sums are made, which have a value or crash
    rw [contents] at failed
    split at failed
    case h_1 k _ =>
      cases hoffset : c.abi.boxedOffset (UInt64.ofNat k.size) with
      | error crash =>
        rw [hoffset, Probe.liftM_error_bind] at failed
        cases failed
      | ok offset =>
        rw [hoffset, Probe.liftM_ok_bind] at failed
        cases haddress : addExact object offset with
        | error crash =>
          rw [haddress, Probe.liftM_error_bind] at failed
          cases failed
        | ok address =>
          rw [haddress] at failed
          cases failed
    case h_2 => cases failed

/-! ## Resolving again -/

/-- A value is refused unless it belongs to the current stop. -/
theorem stop_eq_of_classOf {class? : Option (UInt64 × TypeRecord)}
    (h : (c.classOf v).outcome = .ok class?) : v.stop = c.stop := by
  obtain ⟨_, valid, -⟩ := Probe.exists_of_bind_ok h
  rw [validate] at valid
  split at valid
  · rename_i fresh
    exact beq_iff_eq.1 fresh
  · cases valid

/-- A value of the current stop that did not change is the value again. -/
theorem toValue_unchanged (fresh : v.stop = c.stop) :
    (DynamicValue.unchanged v).toValue c.stop = v := by
  rw [← fresh]
  rfl

/-- No class is looked up for a value of a settled type. -/
theorem classOf_of_isFinal (fresh : v.stop = c.stop) (final : v.staticType.isFinal = true) :
    c.classOf v = pure none := by
  have valid : c.validate v = pure () := if_pos (beq_iff_eq.2 fresh)
  rw [classOf, valid, pure_bind, final, Bool.or_true]
  rfl

/-- Only looking for the class of a value fails, not placing the value. -/
theorem classOf_of_failed {p : Preference} {e : InspectionError}
    (h : (c.resolve v p).outcome = .error (.failed e)) :
    (c.classOf v).outcome = .error (.failed e) := by
  cases hclass : (c.classOf v).outcome with
  | error stop =>
    have failed := (outcome_resolve_of_error hclass p).symm.trans h
    cases failed
    rfl
  | ok class? =>
    cases class? with
    | none =>
      rw [outcome_resolve_of_none hclass p] at h
      cases h
    | some hit =>
      rw [outcome_resolve_of_some hclass p] at h
      cases p with
      | preferStatic => cases h
      | preferDynamic =>
        have inside : (c.contents hit.1 hit.2).Completes := fun crash crashed => by
          rw [place, crashed] at h
          cases h
        obtain ⟨found, ok, -⟩ := exists_of_completes_contents inside
        rw [place, ok] at h
        cases h

/-- A value resolves as declared or to the class of an object; in either case it is resolved under
every preference from then on. -/
theorem resolve_toValue {p : Preference} {d : DynamicValue}
    (h : (c.resolve v p).outcome = .ok d) (q : Preference) :
    (c.resolve (d.toValue c.stop) q).outcome = .ok d := by
  cases hclass : (c.classOf v).outcome with
  | error stop =>
    rw [outcome_resolve_of_error hclass p] at h
    cases h
  | ok class? =>
    have fresh := stop_eq_of_classOf hclass
    cases class? with
    | none =>
      -- the value has not changed, so its class is not found again
      rw [outcome_resolve_of_none hclass p] at h
      cases h
      rw [toValue_unchanged fresh]
      exact outcome_resolve_of_none hclass q
    | some hit =>
      obtain ⟨object, record⟩ := hit
      rw [outcome_resolve_of_some hclass p] at h
      cases hplace : (c.place v object record p).outcome with
      | error stop =>
        rw [hplace] at h
        cases h
      | ok found =>
        rw [hplace] at h
        cases h
        -- the class of an object settles the type
        let d : DynamicValue := ⟨.ofRecord found.record, found.location, found.kind⟩
        have settled := classOf_of_isFinal (c := c) (v := d.toValue c.stop) rfl
          (TypeDescriptor.isFinal_ofRecord found.record)
        exact outcome_resolve_of_none (congrArg Probe.outcome settled) q

/-- Falling back on the static type replaces a failure by the value as it is declared. -/
theorem outcome_resolveOrStatic (c : Context) (v : Value) (p : Preference) :
    (c.resolveOrStatic v p).outcome = match (c.resolve v p).outcome with
      | .error (.failed _) => .ok (.unchanged v)
      | r => r := by
  rw [resolveOrStatic, resolve, findClassIfAny, bind_assoc, Probe.outcome_bind,
    Probe.outcome_attempt, Probe.outcome_bind]
  rcases (c.findClass v p).outcome with (_ | _) | _ <;> rfl

/-- What a value resolves to resolves to itself, under the same preference and the other one. For a
value of the current stop the same holds where failures fall back on the static type. -/
theorem resolve_stable (c : Context) (v : Value) (p : Preference) :
    (∀ d, (c.resolve v p).outcome = .ok d →
      ∀ q, (c.resolve (d.toValue c.stop) q).outcome = .ok d) ∧
    (v.stop = c.stop → (c.resolve v p).Completes →
      ∃ d, (c.resolveOrStatic v p).outcome = .ok d ∧
        ∀ q, (c.resolveOrStatic (d.toValue c.stop) q).outcome = .ok d) := by
  refine ⟨fun d => resolve_toValue, fun fresh completes => ?_⟩
  rcases completes.cases with ⟨d, ok⟩ | ⟨e, failed⟩
  · refine ⟨d, ?_, fun q => ?_⟩
    · rw [outcome_resolveOrStatic, ok]
    · rw [outcome_resolveOrStatic, resolve_toValue ok q]
  · -- the value stays as it is, and its class is not found under any preference
    refine ⟨.unchanged v, ?_, fun q => ?_⟩
    · rw [outcome_resolveOrStatic, failed]
    · rw [toValue_unchanged fresh, outcome_resolveOrStatic,
        outcome_resolve_of_error (classOf_of_failed failed) q]

/-- A number in a box resolves to its place inside the box, and stays there. -/
theorem resolve_stable_boxed :
    let word (address : UInt64) : Nat := if address = 0x1000 then 0x1010 else 0x1020
    let c : Context :=
      { memory := fun address size => .ok (toLittleEndian size (word address))
        metadata := ⟨fun tag => some ⟨"kotlin.Int", tag, none⟩, fun _ => none⟩ }
    let v : Value := .referenceAt .anyReference 0x1000 1
    let d : DynamicValue := ⟨.ofRecord ⟨"kotlin.Int", 0x1020, none⟩, .memory 0x1018, .scalar .int⟩
    (c.resolve v .preferDynamic).outcome = .ok d ∧
      (c.resolve (d.toValue 1) .preferStatic).outcome = .ok d ∧
      (c.resolveOrStatic v .preferDynamic).outcome = .ok d ∧
      (c.resolveOrStatic (d.toValue 1) .preferStatic).outcome = .ok d := by
  intro word c v d
  have moves : (c.resolve v .preferDynamic).outcome = .ok d := by decide +kernel
  obtain ⟨again, falls⟩ := resolve_stable c v .preferDynamic
  obtain ⟨d', first, second⟩ := falls rfl (.of_ok moves)
  have same : d' = d := by
    rw [outcome_resolveOrStatic, moves] at first
    exact (Except.ok.inj first).symm
  subst same
  exact ⟨moves, again _ moves .preferStatic, first, second .preferStatic⟩

end Context

end HeapScope
