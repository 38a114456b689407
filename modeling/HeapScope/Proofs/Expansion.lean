import HeapScope.Proofs.Collection
import HeapScope.Proofs.Formatter.Recursion

/-!
# Values that are reached by expanding others

A value says three things that must fit: its type, how its bytes are read, and where it lies. They
come from different places, since types come from headers and debug information, and what reads the
bytes is chosen by the resolver and by whoever lists the children. They fit from the start for a
declared type at a location, and no step on the way down breaks it: neither resolving the class,
under either preference, nor taking what a nullable value holds, nor taking a child.

## Shape of the proof

* `Value.WellFormed` is the invariant. `WellFormed.resolved`, `WellFormed.content` and
  `ensures_builtinChildren` say that a step keeps it, with one lemma for each way of listing
  children.
* `Reachable.wellFormed` is the induction on the steps, and `wellFormed_of_reachable` what follows
  for reading the value.

A formatter of the host may list any values as children, also inside a nullable value. So a registry
with such formatters has to be one that `HostFits`; one without them always is.
-/

namespace HeapScope

/-! ## Values whose parts fit -/

/-- A value that is an object is known by a reference to it or by its address. -/
def ValueKind.IsObject (kind : ValueKind) : Prop := kind = .reference ∨ kind = .object

/-- A scalar is no object. -/
theorem ValueKind.not_isObject_scalar (k : PrimitiveKind) : ¬ (scalar k).IsObject := by
  rintro (⟨⟨⟩⟩ | ⟨⟨⟩⟩)

/-- How values of a type are stored: primitives in place, boxes as what is inside or as the object,
and anything else as an object. -/
def TypeDescriptor.StoredAs : TypeDescriptor → ValueKind → Prop
  | plain _ (.primitive k), kind => kind = .scalar k
  | plain _ (.boxed k), kind => kind = .scalar k ∨ kind.IsObject
  | _, kind => kind.IsObject

/-- A value of the current stop that is stored as its type demands, and not in a register if it is
known by its address. -/
structure Value.WellFormed (c : Context) (v : Value) : Prop where
  fresh : v.stop = c.stop
  stored : v.staticType.StoredAs v.kind
  inMemory : v.kind = .object → ∃ address, v.location = .memory address

namespace TypeDescriptor

/-- A value of any type but that of primitives in place may be stored as an object. -/
theorem storedAs_of_isObject {t : TypeDescriptor} {kind : ValueKind} (h : kind.IsObject)
    (reference : t.isReference = true) : t.StoredAs kind := by
  cases t with
  | nullable => exact h
  | plain head k =>
    cases k with
    | primitive k => cases reference
    | boxed k => exact .inr h
    | _ => exact h

/-- Where the class is open the value is an object. -/
theorem isObject_of_storedAs {t : TypeDescriptor} {kind : ValueKind} (h : t.StoredAs kind)
    (unsettled : t.isFinal = false) : kind.IsObject := by
  cases t with
  | nullable => exact h
  | plain head k =>
    cases k with
    | primitive => cases unsettled
    | boxed => cases unsettled
    | _ => exact h

/-- Only primitives, in place or inside a box, are stored as anything but an object. -/
theorem kind?_of_storedAs {t : TypeDescriptor} {k : PrimitiveKind}
    (h : t.StoredAs (.scalar k)) :
    t.kind? = some (.primitive k) ∨ t.kind? = some (.boxed k) := by
  have noObject := ValueKind.not_isObject_scalar k
  cases t with
  | nullable => exact absurd h noObject
  | plain head kind =>
    cases kind with
    | primitive k' =>
      obtain ⟨⟩ : ValueKind.scalar k = .scalar k' := h
      exact .inl rfl
    | boxed k' =>
      obtain ⟨⟩ : ValueKind.scalar k = .scalar k' := h.resolve_right noObject
      exact .inr rfl
    | _ => exact absurd h noObject

/-- The class of an object is stored as an object. -/
theorem isReference_ofRecord (record : TypeRecord) : (ofRecord record).isReference = true := by
  rw [ofRecord]
  cases hk : TypeKind.ofRuntimeName record.name with
  | primitive k => exact absurd hk (TypeKind.ofRuntimeName_ne_primitive _ k)
  | _ => rfl

end TypeDescriptor

namespace Value

variable {c : Context} {v : Value}

/-- A reference at an address fits every type of references. -/
theorem wellFormed_referenceAt {t : TypeDescriptor} (reference : t.isReference = true)
    (address : UInt64) : (referenceAt t address c.stop).WellFormed c :=
  ⟨rfl, TypeDescriptor.storedAs_of_isObject (.inl rfl) reference, nofun⟩

/-- So does an object at an address. -/
theorem wellFormed_objectAt {t : TypeDescriptor} (reference : t.isReference = true)
    (address : UInt64) : (objectAt t address c.stop).WellFormed c :=
  ⟨rfl, TypeDescriptor.storedAs_of_isObject (.inr rfl) reference, fun _ => ⟨address, rfl⟩⟩

/-- A scalar at an address fits its type. -/
theorem wellFormed_scalarAt (k : PrimitiveKind) (address : UInt64) :
    (scalarAt k address c.stop).WellFormed c :=
  ⟨rfl, rfl, nofun⟩

/-- A value of a declared type is read as the type demands. -/
theorem wellFormed_ofType (t : TypeDescriptor) (location : ValueLocation) :
    (ofType t location c.stop).WellFormed c := by
  cases t with
  | nullable => exact ⟨rfl, .inl rfl, nofun⟩
  | plain head k =>
    cases k with
    | primitive k => exact ⟨rfl, rfl, nofun⟩
    | boxed k => exact ⟨rfl, .inr (.inl rfl), nofun⟩
    | _ => exact ⟨rfl, .inl rfl, nofun⟩

end Value

/-! ## Resolving -/

namespace Context

variable {c : Context} {v : Value} {p : Preference} {d : DynamicValue}

/-- A resolved value is the value as declared, or it has the class of an object. Then its type was
open, and it lies where it lay, inside a box, or where the object does. -/
theorem resolveOrStatic_cases (h : (c.resolveOrStatic v p).outcome = .ok d) :
    d = .unchanged v ∨ v.staticType.isFinal = false ∧ ∃ record, d.type = .ofRecord record ∧
      ((d.location = v.location ∧ d.kind = v.kind) ∨
        (∃ k address, TypeKind.ofRuntimeName record.name = .boxed k ∧
          d.location = .memory address ∧ d.kind = .scalar k) ∨
        ∃ address, d.location = .memory address ∧ d.kind = .object) := by
  rw [outcome_resolveOrStatic] at h
  cases hclass : (c.classOf v).outcome with
  | error stop =>
    rw [outcome_resolve_of_error hclass] at h
    cases stop with
    | failed => exact .inl (Except.ok.inj h).symm
    | crashed => cases h
  | ok class? =>
    cases class? with
    | none =>
      rw [outcome_resolve_of_none hclass] at h
      exact .inl (Except.ok.inj h).symm
    | some hit =>
      obtain ⟨object, record⟩ := hit
      have unsettled : v.staticType.isFinal = false := by
        by_contra settled
        rw [classOf_of_isFinal (stop_eq_of_classOf hclass) (Bool.eq_true_of_not_eq_false settled)]
          at hclass
        cases hclass
      rw [outcome_resolve_of_some hclass] at h
      cases hplace : (c.place v object record p).outcome with
      | error stop =>
        rw [hplace] at h
        cases stop with
        | failed => exact .inl (Except.ok.inj h).symm
        | crashed => cases h
      | ok found =>
        rw [hplace] at h
        cases h
        refine .inr ⟨unsettled, record, ?_⟩
        cases p with
        | preferStatic =>
          cases hplace
          exact ⟨rfl, .inl ⟨rfl, rfl⟩⟩
        | preferDynamic =>
          obtain ⟨k, -, address, boxed, -, -, rfl⟩ | ⟨-, rfl⟩ := contents_cases hplace
          · exact ⟨rfl, .inr (.inl ⟨k, address, boxed, rfl, rfl⟩)⟩
          · exact ⟨rfl, .inr (.inr ⟨object, rfl, rfl⟩)⟩

end Context

/-- What a nullable value holds is an object, also where the type inside is that of primitives. -/
theorem Value.wellFormed_insideNullable {c : Context} {v : Value} (fresh : v.stop = c.stop)
    (address : UInt64) (inner : TypeDescriptor) :
    (Context.insideNullable v address inner).WellFormed c := by
  rw [Context.insideNullable.eq_def, fresh]
  split
  case h_1 k => exact wellFormed_objectAt (t := .boxed k) rfl address
  case h_2 other =>
    refine wellFormed_objectAt ?_ address
    cases inner with
    | nullable => rfl
    | plain head k =>
      cases k with
      | primitive k => exact absurd rfl (other head k)
      | _ => rfl

namespace Value.WellFormed

variable {c : Context} {v : Value} {p : Preference} {d : DynamicValue}

/-- Resolving keeps the parts of a value fitting: only an object is given another class, and never
one of primitives in place, and what is inside a box is read as the class of the box says. -/
theorem resolved (wf : v.WellFormed c) (h : (c.resolveOrStatic v p).outcome = .ok d) :
    (d.toValue c.stop).WellFormed c := by
  obtain rfl | ⟨unsettled, record, type, place⟩ := Context.resolveOrStatic_cases h
  · rw [Context.toValue_unchanged wf.fresh]
    exact wf
  · have storedAs {kind : ValueKind} (object : kind.IsObject) : d.type.StoredAs kind :=
      type ▸ TypeDescriptor.storedAs_of_isObject object (TypeDescriptor.isReference_ofRecord record)
    obtain ⟨location, kind⟩ | ⟨k, address, boxed, location, kind⟩ | ⟨address, location, kind⟩ :=
      place
    · refine ⟨rfl, storedAs ?_, fun object => ?_⟩
      · show d.kind.IsObject
        rw [kind]
        exact TypeDescriptor.isObject_of_storedAs wf.stored unsettled
      · obtain ⟨address, same⟩ := wf.inMemory (kind.symm.trans object)
        exact ⟨address, location.trans same⟩
    · refine ⟨rfl, ?_, fun _ => ⟨address, location⟩⟩
      show d.type.StoredAs d.kind
      rw [type, kind, TypeDescriptor.ofRecord_of_boxed boxed]
      exact .inl rfl
    · exact ⟨rfl, storedAs (.inr kind), fun _ => ⟨address, location⟩⟩

/-- What a nullable value holds is an object, which is then resolved. -/
theorem content (wf : v.WellFormed c) {head : TypeHead} {inner : TypeDescriptor}
    (type : v.staticType = .nullable head inner) {u : Unwrapped inner}
    (h : (c.unwrap v inner).outcome = .ok (some u)) :
    (u.resolved.toValue v.stop).WellFormed c := by
  have object : v.kind.IsObject := by
    have stored := wf.stored
    rw [type] at stored
    exact stored
  rw [Context.unwrap.eq_def] at h
  split at h
  case h_1 k scalar =>
    rw [scalar] at object
    exact absurd object (ValueKind.not_isObject_scalar k)
  case h_2 =>
    obtain ⟨address, -, h⟩ := Probe.exists_of_bind_ok h
    split at h
    case isTrue => cases h
    case isFalse =>
      obtain ⟨found, hfound, h⟩ := Probe.exists_of_bind_ok h
      cases h
      rw [wf.fresh]
      exact resolved (wellFormed_insideNullable wf.fresh address inner)
        (Probe.outcome_bind_of_ok hfound _)

end Value.WellFormed

/-! ## Children -/

/-- The values of a child: its own and its key. -/
def Child.values (child : Child) : List Value := child.value :: child.key.toList

/-- Whether the values of a child fit. -/
def Child.WellFormed (c : Context) (child : Child) : Prop := ∀ w ∈ child.values, w.WellFormed c

/-- Whether the values of whatever is yielded fit. -/
def ChildSequence.WellFormed (c : Context) (s : ChildSequence) : Prop :=
  ∀ child, s.Yields child → child.WellFormed c

/-- A child without a key is well-formed if its value is. -/
theorem Child.wellFormed_single {c : Context} {name : String} {v : Value} (h : v.WellFormed c) :
    Child.WellFormed c ⟨name, v, none⟩ :=
  List.forall_mem_singleton.2 h

/-- A list of children is well-formed if each of them is. -/
theorem ChildSequence.wellFormed_ofList {c : Context} {children : List Child}
    (h : ∀ child ∈ children, child.WellFormed c) : (ofList children).WellFormed c :=
  fun child yields => h child (mem_of_yields_ofList yields)

/-- No children are well-formed. -/
theorem ChildSequence.wellFormed_empty (c : Context) : ChildSequence.empty.WellFormed c :=
  wellFormed_ofList (List.forall_mem_nil _)

namespace Builtin

variable {c : Context} {v : Value}

/-- What is found in an object is of some kind if it is for every object, and for none. -/
theorem ensures_withObject {α : Type} {P : α → Prop} {ifNull : α} {p : UInt64 → Probe α}
    (null : P ifNull) (object : ∀ address, (p address).Ensures P) :
    (withObject c v ifNull p).Ensures P := by
  rw [withObject, Probe.ensures_bind]
  intro address _
  split
  · exact (Probe.ensures_pure _).2 null
  · exact object address

/-- The elements of an array are references or primitives of its kind. -/
theorem ensures_arrayChild (element : ArrayElement) (data : UInt64) (index : Nat) :
    (arrayChild c element data index).Ensures (Child.WellFormed c) := by
  cases element with
  | primitive k =>
    simp only [arrayChild, pure_bind, Probe.ensures_bind, Probe.ensures_pure]
    exact fun address _ => Child.wellFormed_single (Value.wellFormed_scalarAt k address)
  | reference =>
    simp only [arrayChild, slotValue, bind_assoc, pure_bind, Probe.ensures_bind,
      Probe.ensures_pure]
    exact fun address _ => Child.wellFormed_single (Value.wellFormed_referenceAt rfl address)

/-- The elements of an array fit the type of its elements. -/
theorem ensures_arrayChildren (element : ArrayElement) :
    (arrayChildren c v element).Ensures (ChildSequence.WellFormed c) := by
  refine ensures_withObject (ChildSequence.wellFormed_empty c) fun object => ?_
  simp only [Probe.ensures_bind, Probe.ensures_pure]
  intro count _ offset _ data _ child yields
  obtain ⟨index, -, made⟩ := ChildSequence.exists_of_yields_indexed yields
  exact ensures_arrayChild element data index child made

/-- The slots of a collection hold references. -/
theorem ensures_collectionChildren (t : TypeDescriptor) (kind : CollectionKind) :
    (collectionChildren c v t kind).Ensures (ChildSequence.WellFormed c) := by
  refine ensures_withObject (ChildSequence.wellFormed_empty c) fun object s hs child yields => ?_
  obtain ⟨keys, values, -, -, yielded⟩ := Collection.exists_arrays hs
  obtain ⟨slot, stands, -⟩ := yielded child yields
  cases stands with
  | element => exact Child.wellFormed_single (Value.wellFormed_referenceAt rfl _)
  | entry =>
    exact List.forall_mem_cons.2 ⟨Value.wellFormed_referenceAt rfl _,
      List.forall_mem_singleton.2 (Value.wellFormed_referenceAt rfl _)⟩

/-- A field is read as its declared type demands. -/
theorem ensures_fieldChildren (t : TypeDescriptor) :
    (fieldChildren c v t).Ensures (ChildSequence.WellFormed c) := by
  rw [fieldChildren]
  split
  case h_1 => exact (Probe.ensures_pure _).2 (ChildSequence.wellFormed_empty c)
  case h_2 layout _ =>
    refine ensures_withObject (ChildSequence.wellFormed_empty c) fun object => ?_
    simp only [Probe.ensures_bind, Probe.ensures_pure]
    refine fun children found => ChildSequence.wellFormed_ofList ?_
    refine Probe.ensures_mapM (fun f => ?_) _ children found
    simp only [fieldChild, Probe.ensures_bind, Probe.ensures_pure]
    exact fun address _ => Child.wellFormed_single (Value.wellFormed_ofType _ _)

end Builtin

/-! ## Reading primitives -/

namespace Builtin

/-- The text of a boxed primitive that is read as one of its own kind, whatever the value says. -/
def textInBox (c : Context) (v : Value) (k : PrimitiveKind) : Probe String :=
  match v.kind with
  | .scalar _ => primitiveText c v.location k
  | _ =>
    withObject c v nullText fun object => do
      let offset ← c.abi.boxedOffset (UInt64.ofNat k.size)
      primitiveText c (.memory (← addExact object offset)) k

end Builtin

namespace Value.WellFormed

variable {c : Context} {v : Value}

/-- A well-formed scalar is shown as one of the kind that its type says. -/
theorem scalarText_eq (wf : v.WellFormed c) {head : TypeHead} {k : PrimitiveKind}
    (type : v.staticType = .plain head (.primitive k)) :
    Builtin.scalarText c v k = Builtin.primitiveText c v.location k := by
  have stored := wf.stored
  rw [type] at stored
  rw [Builtin.scalarText, show v.kind = .scalar k from stored]

/-- A well-formed box is shown as one of the kind that its type says. -/
theorem boxedText_eq (wf : v.WellFormed c) {head : TypeHead} {k : PrimitiveKind}
    (type : v.staticType = .plain head (.boxed k)) :
    Builtin.boxedText c v k = Builtin.textInBox c v k := by
  have stored := wf.stored
  rw [type] at stored
  obtain scalar | reference | object := stored
  · rw [Builtin.boxedText, Builtin.textInBox, scalar]
  · rw [Builtin.boxedText, Builtin.textInBox, reference]
  · rw [Builtin.boxedText, Builtin.textInBox, object]

end Value.WellFormed

/-! ## Steps -/

namespace FormatterRegistry

variable {r : FormatterRegistry} {c : Context} {v : Value}

/-- Whatever children the formatters of the host list, the parts of their values fit. -/
def HostFits (r : FormatterRegistry) (c : Context) : Prop :=
  ∀ e ∈ r.entries, ∀ f, e.formatter.children = some f →
    ∀ v t, (f c v t).Ensures (ChildSequence.WellFormed c)

/-- A host that lists no children has nothing to answer for. -/
theorem hostFits_of_no_children (h : ∀ e ∈ r.entries, e.formatter.children = none) :
    r.HostFits c := by
  intro e member f children
  rw [h e member] at children
  cases children

/-- Children are those of a formatter of the host or the ones built in, or there are none. -/
theorem ensures_childrenFrom (host : r.HostFits c) {t : TypeDescriptor}
    {builtin : Probe ChildSequence} (h : builtin.Ensures (ChildSequence.WellFormed c)) :
    (r.childrenFrom c v t builtin).Ensures (ChildSequence.WellFormed c) := by
  have provided : (r.provider c v t builtin).Ensures (ChildSequence.WellFormed c) := by
    rw [provider]
    split
    case h_1 => exact h.guarded
    case h_2 e _ first =>
      cases children : e.formatter.children with
      | none => exact h.guarded
      | some f =>
        have member : e ∈ r.entries :=
          (mem_matching_iff.1 (first ▸ List.mem_cons_self : e ∈ r.childrenEntries t)).1
        simp only [Option.elim_some, runChildren, Probe.ensures_bind]
        exact fun _ _ => (host e member f children v t).guarded
  rw [childrenFrom]
  split
  · exact (Probe.ensures_pure _).2 (ChildSequence.wellFormed_empty c)
  · rw [orNone, Probe.ensures_bind]
    intro said attempted
    cases said with
    | ok s => exact (Probe.ensures_pure _).2 (provided s (Probe.outcome_of_attempt attempted))
    | error => exact (Probe.ensures_pure _).2 (ChildSequence.wellFormed_empty c)

/-- The children that are built in for a value whose parts fit are values whose parts fit. -/
theorem ensures_builtinChildren (host : r.HostFits c) {v : Value} (wf : v.WellFormed c) :
    (r.builtinChildren c v v.staticType).Ensures (ChildSequence.WellFormed c) := by
  have nothing : (pure .empty : Probe ChildSequence).Ensures (ChildSequence.WellFormed c) :=
    (Probe.ensures_pure _).2 (ChildSequence.wellFormed_empty c)
  rw [builtinChildren_eq, builtinChildrenWith.eq_def]
  split
  case h_1 => exact nothing
  case h_2 => exact nothing
  case h_3 => exact nothing
  case h_4 => exact Builtin.ensures_fieldChildren _
  case h_5 => exact Builtin.ensures_fieldChildren _
  case h_6 => exact Builtin.ensures_arrayChildren _
  case h_7 => exact Builtin.ensures_collectionChildren _ _
  case h_8 head inner type =>
    rw [Probe.ensures_bind]
    intro content? found
    cases content? with
    | none => exact nothing
    | some content =>
      -- what is inside has its children under a type that is nested less deeply
      have deeper : content.resolved.type.nesting < v.staticType.nesting := by
        rw [type]
        exact Nat.lt_succ_of_le content.nesting_le
      show (r.children c (content.resolved.toValue v.stop) content.resolved.type).Ensures _
      rw [children_eq]
      exact ensures_childrenFrom host (ensures_builtinChildren host (wf.content type found))
termination_by v.staticType.nesting

/-- The values that are reached from those of declared types: by resolving, under either preference,
by taking the wrapper off a nullable value, and by taking the value or the key of a child. -/
inductive Reachable (r : FormatterRegistry) (c : Context) : Value → Prop where
  | start (t : TypeDescriptor) (location : ValueLocation) :
      Reachable r c (.ofType t location c.stop)
  | resolved {v : Value} {d : DynamicValue} (reached : Reachable r c v) (p : Preference)
      (found : (c.resolveOrStatic v p).outcome = .ok d) : Reachable r c (d.toValue c.stop)
  | content {v : Value} {head : TypeHead} {inner : TypeDescriptor} {u : Unwrapped inner}
      (reached : Reachable r c v) (type : v.staticType = .nullable head inner)
      (found : (c.unwrap v inner).outcome = .ok (some u)) :
      Reachable r c (u.resolved.toValue v.stop)
  | child {v w : Value} {s : ChildSequence} {child : Child} (reached : Reachable r c v)
      (found : (r.builtinChildren c v v.staticType).outcome = .ok s) (yields : s.Yields child)
      (mem : w ∈ child.values) : Reachable r c w

/-- No step on the way down leaves a value whose parts do not fit. -/
theorem Reachable.wellFormed (host : r.HostFits c) (h : r.Reachable c v) : v.WellFormed c := by
  induction h with
  | start t location => exact Value.wellFormed_ofType t location
  | resolved _ p found ih => exact ih.resolved found
  | content _ type found ih => exact ih.content type found
  | child _ found yields mem ih => exact ensures_builtinChildren host ih _ found _ yields _ mem

/-- A value that is reached by expanding others is of the current stop, is stored as its type
demands, and is not in a register if it is known by its address. So it is never refused as stale,
and where it holds a primitive its text comes from reading one of its own type's kind. -/
theorem wellFormed_of_reachable (host : r.HostFits c) (h : r.Reachable c v) :
    v.WellFormed c ∧ c.validate v = pure () ∧
      (∀ k, v.kind = .scalar k →
        v.staticType.kind? = some (.primitive k) ∨ v.staticType.kind? = some (.boxed k)) ∧
      ∀ head k depth,
        (v.staticType = .plain head (.primitive k) →
          r.builtinSummary c v v.staticType depth
            = some <$> Builtin.primitiveText c v.location k) ∧
        (v.staticType = .plain head (.boxed k) →
          r.builtinSummary c v v.staticType depth = some <$> Builtin.textInBox c v k) := by
  have wf := h.wellFormed host
  refine ⟨wf, ?_, fun k scalar => ?_, fun head k depth => ⟨fun type => ?_, fun type => ?_⟩⟩
  · exact if_pos (beq_iff_eq.2 wf.fresh)
  · exact TypeDescriptor.kind?_of_storedAs (scalar ▸ wf.stored)
  · rw [type, builtinSummary, wf.scalarText_eq type, map_eq_pure_bind]
  · rw [type, builtinSummary, wf.boxedText_eq type, map_eq_pure_bind]

/-- What is inside a box is read as the class of the box says. -/
theorem wellFormed_of_reachable_boxed :
    let word (address : UInt64) : Nat := if address = 0x1000 then 0x1010 else 0x1020
    let c : Context :=
      { memory := fun address size => .ok (toLittleEndian size (word address))
        metadata := ⟨fun tag => some ⟨"kotlin.Int", tag, none⟩, fun _ => none⟩ }
    let r : FormatterRegistry := {}
    let d : DynamicValue := ⟨.ofRecord ⟨"kotlin.Int", 0x1020, none⟩, .memory 0x1018, .scalar .int⟩
    r.Reachable c (d.toValue 1) ∧ (d.toValue 1).WellFormed c ∧
      r.builtinSummary c (d.toValue 1) d.type 0
        = some <$> Builtin.primitiveText c (.memory 0x1018) .int := by
  intro word c r d
  have moves : (c.resolveOrStatic (.ofType .anyReference (.memory 0x1000) 1)
      .preferDynamic).outcome = .ok d := by decide +kernel
  have reached : r.Reachable c (d.toValue 1) := .resolved (.start _ _) .preferDynamic moves
  have host : r.HostFits c := hostFits_of_no_children (List.forall_mem_nil _)
  obtain ⟨wf, -, -, reads⟩ := wellFormed_of_reachable host reached
  have boxed : d.type = .plain ⟨"kotlin.Int", none, some 0x1020⟩ (.boxed .int) := by decide +kernel
  exact ⟨reached, wf, (reads _ .int 0).2 boxed⟩

end FormatterRegistry

end HeapScope
