import HeapScope.Proofs.Formatter.Nullable
import HeapScope.Proofs.Formatter.Preference
import HeapScope.Proofs.Primitive
import HeapScope.Proofs.Staleness

/-!
# Reading truth values

Whether a Boolean is true can be asked for, or it can be read off the text of the value. Both
resolve the value first. A resolved value that is stored in place is read alike by both, and so is
null, which neither takes for a truth value.

They part where the declared type of a value is that of boxed Booleans. Such a type is settled, so
the value is not moved into its box. The text looks into the box all the same, but the truth value
is asked of values in place only. `isTrue_asShown_iff` says that there is no other difference.
-/

namespace HeapScope

open Builtin

/-- Whether a type is, inside its wrappers, that of Booleans in place or of boxed ones. -/
def TypeDescriptor.IsBoolean (t : TypeDescriptor) : Prop :=
  t.wrapped.kind? = some (.primitive .boolean) ∨ t.wrapped.kind? = some (.boxed .boolean)

namespace Context

variable {c : Context} {v : Value} {d : DynamicValue} {h : TypeHead} {b : Bool}

/-! ## Reading a resolved value -/

/-- Whether a resolved value is true. -/
def truthOf (c : Context) (d : DynamicValue) : Probe Bool :=
  let notBoolean := InspectionError.malformed (d.type.name ++ " is not a Boolean")
  match d.type.wrapped, d.kind with
  | .plain _ (.primitive .boolean), .scalar k
  | .plain _ (.boxed .boolean), .scalar k => do
    match (← c.readScalar d.location k).asBool with
    | some b => pure b
    | none => Probe.fail notBoolean
  | _, _ => Probe.fail notBoolean

/-- The truth of a value is that of what it is resolved to. -/
theorem outcome_isTrue (resolved : (c.resolve v .preferDynamic).outcome = .ok d) :
    (c.isTrue v).outcome = (c.truthOf d).outcome :=
  Probe.outcome_bind_of_ok resolved _

/-- Reading a truth value does not crash. -/
theorem completes_truthOf (c : Context) (d : DynamicValue) : (c.truthOf d).Completes := by
  rw [truthOf]
  split
  case h_1 | h_2 =>
    refine (completes_readScalar _ _).bind fun value => ?_
    split
    · exact .pure _
    · exact .fail _
  case h_3 => exact .fail _

/-- What is read as a Boolean is true or false. -/
theorem exists_boolean_of_readScalar {location : ValueLocation} {value : PrimitiveValue}
    (read : (c.readScalar location .boolean).outcome = .ok value) : ∃ b, value = .boolean b := by
  have decoded {bytes : List UInt8}
      (h : (Probe.ofExcept (PrimitiveKind.boolean.decode bytes)).outcome = .ok value) :
      ∃ b, value = .boolean b := by
    rw [PrimitiveKind.decode] at h
    split at h
    · cases h
    · cases h
      exact ⟨_, rfl⟩
  cases location <;> exact decoded (Probe.exists_of_bind_ok read).choose_spec.2

/-- Only values in place whose type is that of Booleans are read as truth values. -/
theorem outcome_truthOf_of_not (other : ¬ d.type.IsBoolean ∨ ∀ k, d.kind ≠ .scalar k) :
    (c.truthOf d).outcome = .error (.failed (.malformed (d.type.name ++ " is not a Boolean"))) := by
  rw [truthOf]
  split
  case h_1 type kind | h_2 type kind =>
    refine absurd other (not_or.2 ⟨not_not.2 ?_, fun none => none _ kind⟩)
    rw [TypeDescriptor.IsBoolean, type]
    simp [TypeDescriptor.kind?]
  case h_3 => rfl

/-- The truth of a scalar is read where it lies. -/
theorem truthOf_of_scalar {k : PrimitiveKind} (boolean : d.type.IsBoolean)
    (scalar : d.kind = .scalar k) :
    c.truthOf d = (do
      match (← c.readScalar d.location k).asBool with
      | some b => pure b
      | none => Probe.fail (.malformed (d.type.name ++ " is not a Boolean"))) := by
  rw [truthOf]
  split
  case h_1 type kind | h_2 type kind =>
    cases scalar.symm.trans kind
    rfl
  case h_3 first second =>
    cases type : d.type.wrapped with
    | nullable =>
      rw [TypeDescriptor.IsBoolean, type] at boolean
      simp [TypeDescriptor.kind?] at boolean
    | plain head kind =>
      rw [TypeDescriptor.IsBoolean, type] at boolean
      obtain same | same := boolean <;> cases same
      · exact absurd scalar (first _ _ type)
      · exact absurd scalar (second _ _ type)

/-- The truth value and the text of a primitive in place say the same. -/
theorem outcome_truthOf_iff {k : PrimitiveKind} (boolean : d.type.IsBoolean)
    (scalar : d.kind = .scalar k) :
    (c.truthOf d).outcome = .ok b ↔
      (primitiveText c d.location k).outcome = .ok (PrimitiveValue.boolean b).text := by
  have truth (value : PrimitiveValue) : (match value.asBool with
      | some b => (pure b : Probe Bool)
      | none => Probe.fail (.malformed (d.type.name ++ " is not a Boolean"))).outcome = .ok b ↔
        value.text = (PrimitiveValue.boolean b).text := by
    rw [← PrimitiveValue.asBool_eq_some_iff]
    cases value.asBool <;> simp
  rw [truthOf_of_scalar boolean scalar, primitiveText, Probe.bind_ok_iff, Probe.bind_ok_iff]
  simp only [truth, Probe.outcome_pure, Except.ok.injEq]

/-! ## Values that are not in place -/

/-- No class is found for a value of a nullable type only if the value is null. -/
theorem objectAddress_of_classOf_none (nullable : v.staticType.isNullable = true)
    (unfound : (c.classOf v).outcome = .ok none) : (c.objectAddress v).outcome = .ok 0 := by
  have unsettled : v.staticType.isFinal = false := by
    cases type : v.staticType with
    | plain => rw [type] at nullable; cases nullable
    | nullable => rfl
  rw [classOf_of_open (isFresh_iff.2 (stop_eq_of_classOf unfound)) unsettled] at unfound
  obtain ⟨object, address, found⟩ := Probe.exists_of_bind_ok unfound
  split at found
  case isTrue zero => rw [address, zero]
  case isFalse =>
    obtain ⟨record, -, same⟩ := Probe.exists_of_bind_ok found
    cases same

/-- What resolves to a nullable type is null. -/
theorem objectAddress_of_isNullable (resolved : (c.resolve v .preferDynamic).outcome = .ok d)
    (nullable : d.type.isNullable = true) :
    (c.objectAddress (d.toValue c.stop)).outcome = .ok 0 := by
  cases hclass : (c.classOf v).outcome with
  | error stop =>
    rw [outcome_resolve_of_error hclass] at resolved
    cases resolved
  | ok class? =>
    cases class? with
    | none =>
      rw [outcome_resolve_of_none hclass] at resolved
      cases resolved
      rw [toValue_unchanged (stop_eq_of_classOf hclass)]
      exact objectAddress_of_classOf_none nullable hclass
    | some hit =>
      -- the class of an object is never nullable
      rw [outcome_resolve_of_some hclass] at resolved
      cases hplace : (c.place v hit.1 hit.2 .preferDynamic).outcome with
      | error stop =>
        rw [hplace] at resolved
        cases resolved
      | ok found =>
        rw [hplace] at resolved
        cases resolved
        cases nullable

/-- A resolved value still stands for a box, with a Boolean inside that can be read. -/
def IsClosedBox (c : Context) (d : DynamicValue) : Prop :=
  (∃ h, d.type = .plain h (.boxed .boolean)) ∧
    ∃ object address value, (c.objectAddress (d.toValue c.stop)).outcome = .ok object ∧
      object ≠ 0 ∧ addExact object c.abi.headerSize = .ok address ∧
      (c.readScalar (.memory address) .boolean).outcome = .ok value

/-- A value that is not in place shows a truth value exactly if it stands for a box with a Boolean
that can be read. -/
theorem boxedText_truth_iff (apart : ∀ k, v.kind ≠ .scalar k) :
    (∃ b, (boxedText c v .boolean).outcome = .ok (PrimitiveValue.boolean b).text) ↔
      ∃ object address value, (c.objectAddress v).outcome = .ok object ∧ object ≠ 0 ∧
        addExact object c.abi.headerSize = .ok address ∧
        (c.readScalar (.memory address) .boolean).outcome = .ok value := by
  have behindHeader : c.abi.boxedOffset (UInt64.ofNat PrimitiveKind.boolean.size)
      = .ok c.abi.headerSize := by
    rw [Abi.boxedOffset, alignUp, if_pos (by decide)]
  constructor
  · rintro ⟨b, shown⟩
    rw [boxedText] at shown
    split at shown
    case h_1 k scalar => exact absurd scalar (apart k)
    case h_2 =>
      obtain ⟨object, stands, shown⟩ := Probe.exists_of_bind_ok shown
      split at shown
      case isTrue =>
        -- null has a text of its own
        exact absurd (Except.ok.inj shown) (by cases b <;> decide)
      case isFalse nonzero =>
        obtain ⟨offset, inside, shown⟩ := Probe.exists_of_bind_ok shown
        obtain ⟨address, sum, shown⟩ := Probe.exists_of_bind_ok shown
        obtain ⟨value, read, -⟩ := Probe.exists_of_bind_ok shown
        rw [behindHeader] at inside
        cases inside
        exact ⟨object, address, value, stands, nonzero, Probe.eq_ok_of_liftM sum, read⟩
  · rintro ⟨object, address, value, stands, nonzero, sum, read⟩
    obtain ⟨b, rfl⟩ := exists_boolean_of_readScalar read
    refine ⟨b, ?_⟩
    rw [outcome_boxedText stands nonzero behindHeader sum, primitiveText,
      Probe.outcome_bind_of_ok read, Probe.outcome_pure]

end Context

namespace Builtin

variable {c : Context} {v : Value} {stored : PrimitiveKind}

/-- A scalar is shown as one of the kind that it is stored as. -/
theorem scalarText_of_scalar (scalar : v.kind = .scalar stored) (k : PrimitiveKind) :
    scalarText c v k = primitiveText c v.location stored := by
  rw [scalarText, scalar]

/-- So is a box whose content has been read already. -/
theorem boxedText_of_scalar (scalar : v.kind = .scalar stored) (k : PrimitiveKind) :
    boxedText c v k = primitiveText c v.location stored := by
  rw [boxedText, scalar]

end Builtin

namespace FormatterRegistry

variable {r : FormatterRegistry} {c : Context} {v : Value} {d : DynamicValue} {h : TypeHead}
  {b : Bool}

/-- The text that is built in for a resolved value is that of a truth value. -/
structure ShowsTruth (r : FormatterRegistry) (c : Context) (d : DynamicValue) (b : Bool) :
    Prop where
  type : d.type.IsBoolean
  text : (r.hardcodedSummary c (d.toValue c.stop) d.type).outcome
    = .ok (some (PrimitiveValue.boolean b).text)

/-- A value is read as the truth value that the text of what it resolves to shows, and it is refused
if the text shows none. -/
def ReadsTruthAsShown (r : FormatterRegistry) (c : Context) (v : Value) (d : DynamicValue) : Prop :=
  (∀ b, (c.isTrue v).outcome = .ok b ↔ r.ShowsTruth c d b) ∧
    ((∀ b, ¬ r.ShowsTruth c d b) → ∃ e, (c.isTrue v).outcome = .error (.failed e))

/-- What is built in for a value of this stop is shown exactly if it is found. -/
theorem hardcodedSummary_ok_iff {t : TypeDescriptor} {p : Probe String} {text : String}
    (fresh : c.isFresh v = true)
    (built : Builtin.summaryWith r.config c (r.summaryOf c) ⟨v, t, 0⟩ = some <$> p) :
    (r.hardcodedSummary c v t).outcome = .ok (some text) ↔ p.outcome = .ok text := by
  rw [hardcodedSummary_of_fresh fresh, Probe.guarded_ok_iff, builtinSummary_eq, built,
    map_eq_pure_bind, Probe.bind_ok_iff]
  simp

/-- The summary of a nullable value that is null says so. -/
theorem hardcodedSummary_of_null {h : TypeHead} {inner : TypeDescriptor}
    (fresh : c.isFresh v = true) (null : (c.objectAddress v).outcome = .ok 0) :
    (r.hardcodedSummary c v (.nullable h inner)).outcome = .ok (some nullText) := by
  refine outcome_hardcodedSummary fresh ?_
  rw [Builtin.summaryWith, Probe.outcome_bind_of_ok (Context.outcome_unwrap_of_null null inner)]
  rfl

/-- The summary of a Boolean that is in place is the text of the primitive there. -/
theorem hardcodedSummary_scalar_iff {k : PrimitiveKind} {text : String}
    (boolean : d.type = .plain h (.primitive .boolean) ∨ d.type = .plain h (.boxed .boolean))
    (scalar : d.kind = .scalar k) :
    (r.hardcodedSummary c (d.toValue c.stop) d.type).outcome = .ok (some text) ↔
      (primitiveText c d.location k).outcome = .ok text := by
  have fresh : c.isFresh (d.toValue c.stop) = true := beq_self_eq_true _
  obtain type | type := boolean
  · rw [type, hardcodedSummary_ok_iff fresh rfl, scalarText_of_scalar scalar]
    rfl
  · rw [type, hardcodedSummary_ok_iff fresh rfl, boxedText_of_scalar scalar]
    rfl

/-- Of a value in place, the text shows the truth value that is read. -/
theorem outcome_truthOf_iff_of_scalar {k : PrimitiveKind}
    (resolved : (c.resolve v .preferDynamic).outcome = .ok d) (scalar : d.kind = .scalar k) :
    (c.truthOf d).outcome = .ok b ↔ r.ShowsTruth c d b := by
  by_cases boolean : d.type.IsBoolean
  case pos =>
    obtain ⟨h, type⟩ : ∃ h, d.type = .plain h (.primitive .boolean) ∨
        d.type = .plain h (.boxed .boolean) := by
      cases type : d.type with
      | plain h kind =>
        rw [type] at boolean
        obtain same | same := boolean <;> cases same
        · exact ⟨h, .inl rfl⟩
        · exact ⟨h, .inr rfl⟩
      | nullable h inner =>
        -- a value of a nullable type would be null, which is not in place
        have null := Context.objectAddress_of_isNullable resolved (by rw [type]; rfl)
        rw [Context.objectAddress, DynamicValue.toValue, scalar] at null
        cases null
    rw [Context.outcome_truthOf_iff boolean scalar,
      ← hardcodedSummary_scalar_iff (r := r) type scalar]
    exact ⟨fun text => ⟨boolean, text⟩, fun shows => shows.text⟩
  case neg =>
    rw [Context.outcome_truthOf_of_not (.inl boolean)]
    refine ⟨fun truth => ?_, fun shows => absurd shows.type boolean⟩
    cases truth

/-- Of a value that is not in place, the text shows a truth value only if the value is a box. -/
theorem exists_showsTruth_iff (resolved : (c.resolve v .preferDynamic).outcome = .ok d)
    (apart : ∀ k, d.kind ≠ .scalar k) : (∃ b, r.ShowsTruth c d b) ↔ c.IsClosedBox d := by
  have fresh : c.isFresh (d.toValue c.stop) = true := beq_self_eq_true _
  rw [Context.IsClosedBox, ← Context.boxedText_truth_iff (v := d.toValue c.stop) apart]
  constructor
  · rintro ⟨b, boolean, text⟩
    cases type : d.type with
    | nullable h inner =>
      have null := Context.objectAddress_of_isNullable resolved (by rw [type]; rfl)
      rw [type, hardcodedSummary_of_null fresh null] at text
      exact absurd (Except.ok.inj text) (by cases b <;> decide)
    | plain h kind =>
      rw [type] at boolean text
      obtain same | same := boolean <;> cases same
      · rw [hardcodedSummary_ok_iff fresh rfl, scalarText] at text
        split at text
        case h_1 k scalar => exact absurd scalar (apart k)
        case h_2 => cases text
      · exact ⟨⟨h, rfl⟩, b, (hardcodedSummary_ok_iff fresh rfl).1 text⟩
  · rintro ⟨⟨h, type⟩, b, text⟩
    refine ⟨b, ?_, ?_⟩
    · rw [type]
      exact .inr rfl
    · rw [type]
      exact (hardcodedSummary_ok_iff fresh rfl).2 text

/-- A value is read as the truth value that its text shows, and is refused if the text shows none,
exactly if it is not left in a box with a Boolean. -/
theorem isTrue_asShown_iff (r : FormatterRegistry)
    (resolved : (c.resolve v .preferDynamic).outcome = .ok d) :
    r.ReadsTruthAsShown c v d ↔ ¬ c.IsClosedBox d := by
  rw [ReadsTruthAsShown, Context.outcome_isTrue resolved]
  have refused (none : ∀ b, ¬ (c.truthOf d).outcome = .ok b) :
      ∃ e, (c.truthOf d).outcome = .error (.failed e) :=
    (c.completes_truthOf d).cases.resolve_left (not_exists.2 none)
  by_cases inPlace : ∃ k, d.kind = .scalar k
  case pos =>
    obtain ⟨k, scalar⟩ := inPlace
    have same b := outcome_truthOf_iff_of_scalar (r := r) (b := b) resolved scalar
    refine iff_of_true ⟨same, fun none => refused fun b ok => none b ((same b).1 ok)⟩ ?_
    rintro ⟨-, object, address, value, stands, -⟩
    rw [Context.objectAddress, DynamicValue.toValue, scalar] at stands
    cases stands
  case neg =>
    have apart : ∀ k, d.kind ≠ .scalar k := not_exists.1 inPlace
    have fails := Context.outcome_truthOf_of_not (c := c) (.inr apart)
    rw [← exists_showsTruth_iff (r := r) resolved apart, fails]
    constructor
    · rintro ⟨same, -⟩ ⟨b, shows⟩
      cases (same b).2 shows
    · intro none
      refine ⟨fun b => ⟨fun truth => ?_, fun shows => absurd ⟨b, shows⟩ none⟩, fun _ => ⟨_, rfl⟩⟩
      cases truth

/-- A boxed `true` behind a nullable reference is moved out of its box. -/
theorem isTrue_asShown_boxed :
    let word (address : UInt64) : Nat := if address = 0x1000 then 0x1010 else 0x1020
    let c : Context :=
      { memory := fun address size => .ok (toLittleEndian size (word address))
        metadata := ⟨fun tag => some ⟨"kotlin.Boolean", tag, none⟩, fun _ => none⟩ }
    let v : Value := .referenceAt (.ofName "kotlin.Boolean?") 0x1000 1
    let d : DynamicValue :=
      ⟨.ofRecord ⟨"kotlin.Boolean", 0x1020, none⟩, .memory 0x1018, .scalar .boolean⟩
    (c.resolve v .preferDynamic).outcome = .ok d ∧ ¬ c.IsClosedBox d ∧
      (c.isTrue v).outcome = .ok true ∧ ShowsTruth {} c d true := by
  intro word c v d
  have moves : (c.resolve v .preferDynamic).outcome = .ok d := by decide +kernel
  have opened : ¬ c.IsClosedBox d := by
    rintro ⟨-, object, address, value, stands, -⟩
    cases stands
  have truth : (c.isTrue v).outcome = .ok true := by decide +kernel
  obtain ⟨same, -⟩ := (isTrue_asShown_iff {} moves).2 opened
  exact ⟨moves, opened, truth, (same true).1 truth⟩

/-- A box that is declared as one shows `true` and is refused. -/
theorem isTrue_declared_box :
    let c : Context :=
      { memory := fun _ size => .ok (toLittleEndian size 1)
        metadata := ⟨fun _ => none, fun _ => none⟩ }
    let v : Value := .objectAt (.boxed .boolean) 0x1000 1
    (c.resolve v .preferDynamic).outcome = .ok (.unchanged v) ∧
      ShowsTruth {} c (.unchanged v) true ∧
      (c.isTrue v).outcome
        = .error (.failed (.malformed "kotlin.Boolean is not a Boolean")) := by
  intro c v
  have shown : (boxedText c v .boolean).outcome = .ok "true" := by decide +kernel
  refine ⟨by decide +kernel, ⟨.inr rfl, ?_⟩, by decide +kernel⟩
  exact (hardcodedSummary_ok_iff (beq_self_eq_true _) rfl).2 shown

end FormatterRegistry

end HeapScope
