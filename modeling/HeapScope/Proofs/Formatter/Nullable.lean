import HeapScope.Proofs.Formatter.Recursion
import HeapScope.Proofs.Resolution

/-!
# Nullable values

There are two ways to the object behind a nullable value. The resolver follows the reference and
reads the class in the header. The formatter takes the wrapper off, follows the reference too, and
has what is inside resolved under the inner type. Each way has its own check for null and its own
exit where a read fails. Without a formatter of the host for the wrapper, the two lead to the same
text and the same children.

## Shape of the proof

* Where a static type leaves the class open, the class is looked for at the object alone
  (`outcome_classOf_congr`), so it is the same for all such values of one object.
* `unwrap_spec` carries this over to the two ways: either they end in one place, or the value stays
  as it is declared and what is inside keeps the inner type.
* `outcome_summaryAt_nullable` and `outcome_children_nullable` say that the wrapper adds nothing to
  the text and the children of what it holds.
-/

namespace HeapScope

/-- Only types of references leave the class open. -/
theorem TypeDescriptor.isReference_of_isFinal_eq_false {t : TypeDescriptor}
    (unsettled : t.isFinal = false) : t.isReference = true := by
  cases t with
  | nullable => rfl
  | plain h k =>
    cases k with
    | primitive => cases unsettled
    | _ => rfl

namespace Context

variable {c : Context} {v w : Value} {d : DynamicValue} {f : FoundClass} {object : UInt64}
  {inner : TypeDescriptor}

/-! ## Two values that stand for one object -/

/-- The class of a value whose static type leaves it open is looked for at the object. -/
theorem classOf_of_open (fresh : c.isFresh v = true) (unsettled : v.staticType.isFinal = false) :
    c.classOf v = c.objectAddress v >>= fun object =>
      if object = 0 then pure none else return some (object, ← c.runtimeType object) := by
  have dynamic : couldBeDynamic v.staticType = true :=
    TypeDescriptor.isReference_of_isFinal_eq_false unsettled
  rw [classOf, validate, if_pos fresh, pure_bind, dynamic, unsettled]
  rfl

/-- Where the static types leave the class open, it depends on a value through its object alone. -/
theorem outcome_classOf_congr (freshV : c.isFresh v = true) (freshW : c.isFresh w = true)
    (openV : v.staticType.isFinal = false) (openW : w.staticType.isFinal = false)
    (same : (c.objectAddress v).outcome = (c.objectAddress w).outcome) :
    (c.classOf v).outcome = (c.classOf w).outcome := by
  rw [classOf_of_open freshV openV, classOf_of_open freshW openW, Probe.outcome_bind,
    Probe.outcome_bind, same]

/-- With the class of two values the contents of their objects are the same. -/
theorem outcome_findClassIfAny_congr (same : (c.classOf v).outcome = (c.classOf w).outcome) :
    (c.findClassIfAny v .preferDynamic).outcome
      = (c.findClassIfAny w .preferDynamic).outcome := by
  have found : (c.findClass v .preferDynamic).outcome = (c.findClass w .preferDynamic).outcome := by
    rw [findClass_eq, findClass_eq, Probe.outcome_bind, Probe.outcome_bind, same]
    rfl
  rw [findClassIfAny, findClassIfAny, Probe.outcome_bind, Probe.outcome_bind,
    Probe.outcome_attempt, Probe.outcome_attempt, found]

/-- The class of a value is the one that the header of its object leads to. -/
theorem runtimeType_of_classOf {record : TypeRecord}
    (h : (c.classOf v).outcome = .ok (some (object, record))) :
    (c.runtimeType object).outcome = .ok record := by
  obtain ⟨_, -, found⟩ := Probe.exists_of_bind_ok h
  split at found
  case isTrue => cases found
  case isFalse =>
    obtain ⟨address, -, found⟩ := Probe.exists_of_bind_ok found
    split at found
    case isTrue => cases found
    case isFalse =>
      obtain ⟨record', read, same⟩ := Probe.exists_of_bind_ok found
      cases same
      exact read

/-- The header of an object is only read where pointers have a width. -/
theorem pointerSize_ne_zero_of_runtimeType {record : TypeRecord}
    (read : (c.runtimeType object).outcome = .ok record) : c.abi.pointerSize ≠ 0 := by
  intro zero
  rw [runtimeType, readTag, readPointer, zero] at read
  cases read

/-- The class that was found for a value is that of an object, whose header was read. -/
theorem object_of_findClassIfAny
    (h : (c.findClassIfAny v .preferDynamic).outcome = .ok (some f)) :
    ∃ object, (c.objectAddress v).outcome = .ok object ∧ object ≠ 0 ∧ c.abi.pointerSize ≠ 0 := by
  obtain ⟨tried, htried, h⟩ := Probe.exists_of_bind_ok h
  cases tried with
  | error => cases h
  | ok found =>
    cases h
    have hfound := Probe.outcome_of_attempt htried
    rw [findClass_eq] at hfound
    obtain ⟨class?, hclass, hfound⟩ := Probe.exists_of_bind_ok hfound
    cases class? with
    | none => cases hfound
    | some hit =>
      obtain ⟨stands, nonzero⟩ := objectAddress_of_classOf hclass
      exact ⟨hit.1, stands, nonzero,
        pointerSize_ne_zero_of_runtimeType (runtimeType_of_classOf hclass)⟩

/-! ## Below the wrapper -/

/-- Nothing is inside null. -/
theorem outcome_unwrap_of_null (null : (c.objectAddress v).outcome = .ok 0)
    (inner : TypeDescriptor) : (c.unwrap v inner).outcome = .ok none := by
  rw [unwrap.eq_def]
  split
  case h_1 k scalar =>
    -- a scalar stands for no object, not even for null
    rw [objectAddress, scalar] at null
    cases null
  case h_2 => exact Probe.outcome_bind_of_ok null _

/-- What a nullable value holds has the inner type where it is stored in place, and otherwise it is
what the class of the object says, if one is found. -/
theorem unwrap_cases {content : Unwrapped inner}
    (h : (c.unwrap v inner).outcome = .ok (some content)) :
    content.resolved.type = inner ∨ ∃ object found, (c.objectAddress v).outcome = .ok object ∧
      (c.findClassIfAny (insideNullable v object inner) .preferDynamic).outcome = .ok found ∧
      content.resolved = .ofFound (insideNullable v object inner) found := by
  rw [unwrap.eq_def] at h
  split at h
  case h_1 =>
    cases h
    exact .inl rfl
  case h_2 =>
    obtain ⟨object, stands, h⟩ := Probe.exists_of_bind_ok h
    split at h
    case isTrue => cases h
    case isFalse =>
      obtain ⟨found, hfound, h⟩ := Probe.exists_of_bind_ok h
      cases h
      exact .inr ⟨object, found, stands, hfound, rfl⟩

/-- A nullable value that stands for an object holds what the class of the object says. -/
theorem exists_unwrap_of_object {found : Option FoundClass}
    (stands : (c.objectAddress v).outcome = .ok object) (nonzero : object ≠ 0)
    (hfound : (c.findClassIfAny (insideNullable v object inner) .preferDynamic).outcome =
      .ok found) :
    ∃ content, (c.unwrap v inner).outcome = .ok (some content) ∧
      content.resolved = .ofFound (insideNullable v object inner) found := by
  rw [unwrap.eq_def]
  split
  case h_1 k scalar =>
    rw [objectAddress, scalar] at stands
    cases stands
  case h_2 =>
    rw [Probe.outcome_bind_of_ok stands, if_neg nonzero, Probe.outcome_bind_of_ok hfound]
    exact ⟨_, rfl, rfl⟩

/-- Only primitives are boxed below a wrapper. -/
theorem insideNullable_of_open (unsettled : inner.isFinal = false) :
    insideNullable v object inner = .objectAt inner object v.stop := by
  rw [insideNullable.eq_def]
  split
  case h_1 => cases unsettled
  case h_2 => rfl

/-- What is inside a nullable value has the same object as the value. If the inner type leaves the
class open, the same class is found for both. -/
theorem outcome_findClassIfAny_inside {h : TypeHead} (fresh : c.isFresh v = true)
    (type : v.staticType = .nullable h inner) (unsettled : inner.isFinal = false)
    (stands : (c.objectAddress v).outcome = .ok object) :
    (c.findClassIfAny (insideNullable v object inner) .preferDynamic).outcome =
      (c.findClassIfAny v .preferDynamic).outcome := by
  have openV : v.staticType.isFinal = false := by
    rw [type]
    rfl
  rw [insideNullable_of_open unsettled]
  exact outcome_findClassIfAny_congr (outcome_classOf_congr fresh fresh unsettled openV stands.symm)

/-- What a nullable value of an open type holds is what the value itself resolves to. If that is the
value as it is declared, what it holds, if anything, keeps the inner type. -/
theorem unwrap_spec {h : TypeHead} (fresh : c.isFresh v = true)
    (type : v.staticType = .nullable h inner) (unsettled : inner.isFinal = false)
    (resolved : (c.resolveOrStatic v .preferDynamic).outcome = .ok d) :
    d = .unchanged v ∧ (c.unwrap v inner).Ensures (∀ content ∈ ·, content.resolved.type = inner) ∨
      c.abi.pointerSize ≠ 0 ∧
        ∃ content, (c.unwrap v inner).outcome = .ok (some content) ∧ content.resolved = d := by
  obtain ⟨found, hfound, hd⟩ := Probe.exists_of_bind_ok resolved
  cases hd
  have inside {object : UInt64} (stands : (c.objectAddress v).outcome = .ok object) :=
    (outcome_findClassIfAny_inside fresh type unsettled stands).trans hfound
  cases found with
  | none =>
    refine .inl ⟨rfl, ?_⟩
    rintro _ unwrapped content rfl
    obtain kept | ⟨object, found, stands, again, same⟩ := unwrap_cases unwrapped
    · exact kept
    · cases (inside stands).symm.trans again
      rw [same, insideNullable_of_open unsettled]
      rfl
  | some f =>
    obtain ⟨object, stands, nonzero, width⟩ := object_of_findClassIfAny hfound
    exact .inr ⟨width, exists_unwrap_of_object stands nonzero (inside stands)⟩

end Context

namespace FormatterRegistry

variable {r : FormatterRegistry} {c : Context} {v : Value} {t : TypeDescriptor}

/-! ## Without a formatter of the host -/

/-- Without a formatter of the host the summary is the text that is built in. -/
theorem outcome_summaryAt_of_unformatted {depth : Nat} {text : String}
    (fresh : c.isFresh v = true) (unformatted : r.summaryEntries t = [])
    (said : (Builtin.summaryWith r.config c (r.summaryOf c) ⟨v, t, depth⟩).outcome =
      .ok (some text)) :
    (r.summaryAt c v t depth).outcome = .ok text := by
  rw [← builtinSummary_eq] at said
  have guarded : (r.builtinSummary c v t depth).guarded.attempt.outcome = .ok (.ok (some text)) :=
    Probe.outcome_attempt_of_ok (by rw [Probe.outcome_guarded, said])
  rw [summaryAt_eq, Probe.outcome_bind_of_ok (Probe.outcome_note _), summaryFrom, fresh,
    unformatted]
  refine (Probe.outcome_bind_of_ok guarded _).trans ?_
  rw [Probe.outcome_pure, joinTexts, List.nil_append, String.intercalate_singleton]

/-- Without a formatter of the host the children are those that are built in. -/
theorem outcome_children_of_unformatted {children : ChildSequence} (fresh : c.isFresh v = true)
    (unformatted : r.childrenEntries t = [])
    (built : (builtinChildrenWith c (r.children c) v t).outcome = .ok children) :
    (r.children c v t).outcome = .ok children := by
  rw [← builtinChildren_eq] at built
  have guarded : (r.builtinChildren c v t).guarded.outcome = .ok children := by
    rw [Probe.outcome_guarded, built]
  rw [children_eq, childrenFrom, fresh, provider, unformatted]
  refine (orNone_spec (.of_ok guarded)).1.trans ?_
  rw [Probe.value?_of_ok guarded, Option.getD_some]

/-- Children are always found, if only that there are none. -/
theorem exists_outcome_children (r : FormatterRegistry) (c : Context) (v : Value)
    (t : TypeDescriptor) : ∃ children, (r.children c v t).outcome = .ok children := by
  rw [children_eq, childrenFrom]
  split
  · exact ⟨_, rfl⟩
  · exact ⟨_, (orNone_spec (completes_provider _)).1⟩

/-- A type that no formatter of the host is for has none for its summaries, and none for its
children. -/
theorem matching_of_unformatted
    (unformatted : ∀ e ∈ r.entries, e.formatter.pattern.holds t = false)
    (wanted : Formatter → Bool) : r.matching t wanted = [] := by
  refine List.eq_nil_iff_forall_not_mem.2 fun e he => ?_
  obtain ⟨registered, -, holds⟩ := mem_matching_iff.1 he
  rw [unformatted e registered] at holds
  cases holds

section nullable

variable {h : TypeHead} {inner : TypeDescriptor} {content : Unwrapped inner}

/-- Null has the text for it. -/
theorem outcome_summaryAt_of_null (depth : Nat) (fresh : c.isFresh v = true)
    (unformatted : r.summaryEntries (.nullable h inner) = [])
    (null : (c.objectAddress v).outcome = .ok 0) :
    (r.summaryAt c v (.nullable h inner) depth).outcome = .ok Builtin.nullText :=
  outcome_summaryAt_of_unformatted fresh unformatted
    (Probe.outcome_bind_of_ok (Context.outcome_unwrap_of_null null inner) _)

/-- Null has no children. -/
theorem outcome_children_of_null (fresh : c.isFresh v = true)
    (unformatted : r.childrenEntries (.nullable h inner) = [])
    (null : (c.objectAddress v).outcome = .ok 0) :
    (r.children c v (.nullable h inner)).outcome = .ok .empty :=
  outcome_children_of_unformatted fresh unformatted
    (Probe.outcome_bind_of_ok (Context.outcome_unwrap_of_null null inner) _)

/-- Without a formatter of the host the text of a nullable value is that of what it holds. -/
theorem outcome_summaryAt_nullable (width : c.abi.pointerSize ≠ 0) (depth : Nat)
    (fresh : c.isFresh v = true) (unformatted : r.summaryEntries (.nullable h inner) = [])
    (unwrapped : (c.unwrap v inner).outcome = .ok (some content)) :
    (r.summaryAt c v (.nullable h inner) depth).outcome
      = (r.summaryAt c (content.resolved.toValue v.stop) content.resolved.type depth).outcome := by
  obtain ⟨text, said⟩ := exists_outcome_summaryAt width r (content.resolved.toValue v.stop)
    content.resolved.type depth
  rw [said]
  refine outcome_summaryAt_of_unformatted fresh unformatted ?_
  rw [Builtin.summaryWith, Probe.outcome_bind_of_ok unwrapped]
  exact Probe.outcome_bind_of_ok said _

/-- Without a formatter of the host the children of a nullable value are those of what it holds. -/
theorem outcome_children_nullable (fresh : c.isFresh v = true)
    (unformatted : r.childrenEntries (.nullable h inner) = [])
    (unwrapped : (c.unwrap v inner).outcome = .ok (some content)) :
    (r.children c v (.nullable h inner)).outcome
      = (r.children c (content.resolved.toValue v.stop) content.resolved.type).outcome := by
  obtain ⟨children, found⟩ :=
    exists_outcome_children r c (content.resolved.toValue v.stop) content.resolved.type
  rw [found]
  refine outcome_children_of_unformatted fresh unformatted ?_
  rw [builtinChildrenWith, Probe.outcome_bind_of_ok unwrapped, found]

end nullable

/-- A value of a nullable type that no formatter of the host is for is formatted like what it
resolves to. Null has the text `null` and no children. And where the inner type leaves the class
open, the text and the children are those of the resolved value under the resolved type, be it that
a class was found or that the value stays as it is declared. -/
theorem nullable_formats_as_resolved (r : FormatterRegistry) (c : Context) (v : Value)
    {h : TypeHead} {inner : TypeDescriptor} (fresh : c.isFresh v = true)
    (type : v.staticType = .nullable h inner)
    (unformatted : ∀ e ∈ r.entries, e.formatter.pattern.holds v.staticType = false) :
    ((c.objectAddress v).outcome = .ok 0 →
      (r.summarize c v v.staticType).outcome = .ok "null" ∧
        (r.children c v v.staticType).outcome = .ok .empty) ∧
      (inner.isFinal = false → ∀ d, (c.resolveOrStatic v .preferDynamic).outcome = .ok d →
        (r.summarize c v v.staticType).outcome
            = (r.summarize c (d.toValue c.stop) d.type).outcome ∧
          (r.children c v v.staticType).outcome
            = (r.children c (d.toValue c.stop) d.type).outcome) := by
  have stop : v.stop = c.stop := beq_iff_eq.1 fresh
  have noSummary := matching_of_unformatted unformatted (·.summary.isSome)
  have noChildren := matching_of_unformatted unformatted (·.children.isSome)
  refine ⟨fun null => ?_, fun unsettled d resolved => ?_⟩
  · rw [type] at noSummary noChildren ⊢
    exact ⟨outcome_summaryAt_of_null 0 fresh noSummary null,
      outcome_children_of_null fresh noChildren null⟩
  · obtain ⟨rfl, -⟩ | ⟨width, content, unwrapped, rfl⟩ :=
      Context.unwrap_spec fresh type unsettled resolved
    · -- the resolved value is the value itself
      rw [Context.toValue_unchanged stop]
      exact ⟨rfl, rfl⟩
    · rw [type] at noSummary noChildren ⊢
      rw [← stop]
      exact ⟨outcome_summaryAt_nullable width 0 fresh noSummary unwrapped,
        outcome_children_nullable fresh noChildren unwrapped⟩

/-- Through a slot for any value, null is `null` and a number in a box is the number. -/
theorem nullable_formats_as_resolved_boxed :
    let word (address : UInt64) : Nat :=
      if address = 0x1000 then 0x1010 else if address = 0x1008 then 0
      else if address = 0x1018 then 42 else 0x1020
    let c : Context :=
      { memory := fun address size => .ok (toLittleEndian size (word address))
        metadata := ⟨fun tag => some ⟨"kotlin.Int", tag, none⟩, fun _ => none⟩ }
    let v : Value := .referenceAt .anyReference 0x1000 1
    let null : Value := .referenceAt .anyReference 0x1008 1
    let d : DynamicValue := ⟨.ofRecord ⟨"kotlin.Int", 0x1020, none⟩, .memory 0x1018, .scalar .int⟩
    let other : Formatter :=
      { pattern := .category .string, summary := some fun _ _ _ => pure "other" }
    let r : FormatterRegistry := { entries := [⟨1, other⟩], nextId := 2 }
    (r.summarize c null .anyReference).outcome = .ok "null" ∧
      (r.children c null .anyReference).outcome = .ok .empty ∧
      (r.summarize c v .anyReference).outcome = .ok "42" ∧
      (r.children c v .anyReference).outcome = (r.children c (d.toValue 1) d.type).outcome := by
  intro word c v null d other r
  have unformatted : ∀ t : TypeDescriptor, t.category ≠ .string →
      ∀ e ∈ r.entries, e.formatter.pattern.holds t = false := by
    intro t different e he
    obtain rfl : e = ⟨1, other⟩ := List.mem_singleton.1 he
    exact beq_false_of_ne (Ne.symm different)
  have zero : (c.objectAddress null).outcome = .ok 0 := by decide +kernel
  have resolved : (c.resolveOrStatic v .preferDynamic).outcome = .ok d := by decide +kernel
  have boxed : d.type.category ≠ .string := by decide +kernel
  have said : (r.summarize c (d.toValue 1) d.type).outcome = .ok "42" := by
    refine outcome_summaryAt_of_unformatted rfl
      (matching_of_unformatted (unformatted d.type boxed) _) ?_
    decide +kernel
  obtain ⟨text, children⟩ :=
    (nullable_formats_as_resolved r c null rfl rfl (unformatted _ (by decide))).1 zero
  obtain ⟨sameText, sameChildren⟩ :=
    (nullable_formats_as_resolved r c v rfl rfl (unformatted _ (by decide))).2 rfl d resolved
  exact ⟨text, children, sameText.trans said, sameChildren⟩

end FormatterRegistry

end HeapScope
