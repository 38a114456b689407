import HeapScope.Proofs.Formatter.Hardcoded
import HeapScope.Proofs.Formatter.Nullable
import HeapScope.Proofs.ListElements

/-!
# What a summary shows of the children

The text of an array or a collection begins with its size, and that of an array goes on with its
first elements. Text and children are found by different functions, which read the same header and
compute the same addresses. So the size is the number of children, and the elements that are shown
are the first children, each with its own text.

Inside an array a text is found one level deeper than for a child that is looked at by itself.
Levels count for arrays of references only, so for all other children the two texts are the same.

## Shape of the proof

* `ShowsFirst` says what the text of an array tells of its children. `summaryWith_array` makes the
  text from them, and `showsFirst_of_summaryWith` goes back from the text to the children.
* `counts_of_collectionText` says what the text of a collection tells of its own.
* `outcome_summaryAt_plain` and `outcome_summaryAt_nullable_congr` say where levels do not count,
  and `outcome_summaryAt_resolved` that this is so for what an element resolves to.
-/

namespace HeapScope

/-- The value of an element of an array at an address: a primitive in place, or a reference to any
object. -/
def ArrayElement.valueAt : ArrayElement → UInt64 → UInt64 → Value
  | primitive k, address, stop => .scalarAt k address stop
  | reference, address, stop => .referenceAt .anyReference address stop

namespace FormatterRegistry

/-- The text of an element of an array that is not inside another one. A primitive is read where it
lies. What a reference resolves to is summarized one level deeper; if there is no such level, the
object is only described. -/
def elementSummary (r : FormatterRegistry) (c : Context) : ArrayElement → Value → Probe String
  | .primitive k, v => Builtin.scalarText c v k
  | .reference, v => do
    if 1 < r.config.maxDepth then
      let d ← c.resolveOrStatic v .preferDynamic
      r.summaryAt c (d.toValue c.stop) d.type 1
    else describeElement c v

/-- A text shows the children of an array: how many there are, the texts of the first of them, up to
the limit of the registry, and a mark if there are more. -/
structure ShowsFirst (r : FormatterRegistry) (c : Context) (element : ArrayElement)
    (s : ChildSequence) (items : List String) (text : String) : Prop where
  text : text = "size=" ++ Text.decimal s.count ++ " ["
    ++ ", ".intercalate (if r.config.maxArrayPreview < s.count then items ++ ["..."] else items)
    ++ "]"
  length : items.length = min s.count r.config.maxArrayPreview
  item : ∀ i (hi : i < items.length), ∃ address,
    (s.get i).value =
        some (.ok ⟨"[" ++ Text.decimal i ++ "]", element.valueAt address c.stop, none⟩) ∧
      (r.elementSummary c element (element.valueAt address c.stop)).outcome = .ok items[i]

end FormatterRegistry

namespace Builtin

variable {r : FormatterRegistry} {c : Context} {v : Value} {h : TypeHead} {element : ArrayElement}

/-! ## Arrays -/

/-- The children of an array are set up by reading its head. -/
theorem arrayChildren_eq (c : Context) (v : Value) (element : ArrayElement) :
    arrayChildren c v element = do
      match ← arrayHead c v with
      | none => return .empty
      | some (count, data) => return .indexed count (arrayChild c element data) := by
  simp only [arrayChildren, arrayHead, withObject, bind_assoc]
  refine bind_congr fun object => ?_
  split
  · rfl
  · simp only [bind_assoc, pure_bind]

/-- The child for an element of an array is what lies at its address. -/
theorem exists_of_arrayChild {data : UInt64} {index : Nat} {child : Child}
    (made : (arrayChild c element data index).outcome = .ok child) :
    ∃ address, child = ⟨Collection.elementName index, element.valueAt address c.stop, none⟩ := by
  cases element with
  | primitive k =>
    simp only [arrayChild, pure_bind] at made
    obtain ⟨address, -, same⟩ := Probe.exists_of_bind_ok made
    cases same
    exact ⟨address, rfl⟩
  | reference =>
    simp only [arrayChild, slotValue, bind_assoc, pure_bind] at made
    obtain ⟨address, -, same⟩ := Probe.exists_of_bind_ok made
    cases same
    exact ⟨address, rfl⟩

/-- The text of the element at an index of an array, by way of the child for it. -/
def childText (r : FormatterRegistry) (c : Context) (element : ArrayElement) (data : UInt64)
    (index : Nat) : Probe String := do
  let child ← arrayChild c element data index
  r.elementSummary c element child.value

/-- The text of an array is made of the texts of its children. -/
theorem summaryWith_array (r : FormatterRegistry) (c : Context) (v : Value) (h : TypeHead)
    (element : ArrayElement) :
    summaryWith r.config c (r.summaryOf c) ⟨v, .plain h (.array element), 0⟩ =
      some <$> arrayText r.config c v (childText r c element) := by
  cases element with
  | primitive k =>
    have items : childText r c (.primitive k) = primitiveElementText c k := by
      funext data index
      simp only [childText, arrayChild, bind_assoc, pure_bind]
      rfl
    rw [items]
    rfl
  | reference =>
    have items : childText r c .reference = elementText r.config c (r.summaryOf c) 0 := by
      funext data index
      simp only [childText, arrayChild, bind_assoc, pure_bind]
      rfl
    rw [items]
    rfl

/-- Texts that are found one after the other are those of their indices. -/
theorem getElem_of_tabulate {f : Nat → Probe String} {n i : Nat} {items : List String}
    (h : (tabulate f n i).outcome = .ok items) :
    items.length = n ∧ ∀ j (hj : j < items.length), (f (i + j)).outcome = .ok items[j] := by
  induction n generalizing i items with
  | zero =>
    cases h
    exact ⟨rfl, fun j hj => absurd hj (Nat.not_lt_zero _)⟩
  | succ n ih =>
    obtain ⟨text, first, h⟩ := Probe.exists_of_bind_ok h
    obtain ⟨rest, later, h⟩ := Probe.exists_of_bind_ok h
    cases h
    obtain ⟨length, item⟩ := ih later
    refine ⟨congrArg Nat.succ length, fun j hj => ?_⟩
    cases j with
    | zero => exact first
    | succ j =>
      have found := item j (Nat.lt_of_succ_lt_succ hj)
      rwa [Nat.add_right_comm] at found

/-- The texts of the children of an array that were found show the first of the children. -/
theorem showsFirst_of_tabulate {count : Nat} {data : UInt64} {items : List String}
    (found : (tabulate (childText r c element data) (shownCount r.config count) 0).outcome =
      .ok items) :
    r.ShowsFirst c element (.indexed count (arrayChild c element data)) items
      (joinItems r.config count items) := by
  obtain ⟨length, item⟩ := getElem_of_tabulate found
  have made : ∀ i (hi : i < items.length), ∃ child,
      (arrayChild c element data i).outcome = .ok child ∧
        (r.elementSummary c element child.value).outcome = .ok items[i] := by
    intro i hi
    have said := item i hi
    rw [Nat.zero_add] at said
    exact Probe.exists_of_bind_ok said
  refine ⟨?_, length, fun i hi => ?_⟩
  · have more : shownCount r.config count < count ↔ r.config.maxArrayPreview < count := by
      rw [shownCount]
      omega
    simp only [joinItems, more]
    rfl
  · obtain ⟨child, hchild, said⟩ := made i hi
    have below : i < count := hi.trans_le (length ▸ Nat.min_le_left _ _)
    -- the texts before this one were found, so the walk comes to the child
    have before : ∀ j < i, (arrayChild c element data j).Completes := fun j hj => by
      obtain ⟨earlier, hearlier, -⟩ := made j (hj.trans hi)
      exact .of_ok hearlier
    obtain ⟨address, rfl⟩ := exists_of_arrayChild hchild
    exact ⟨address, ChildSequence.value_get_indexed below before hchild, said⟩

/-- Where an array has a text, it has children: none for null, and else those that the text
shows. -/
theorem showsFirst_of_summaryWith {said : Option String}
    (found : (summaryWith r.config c (r.summaryOf c) ⟨v, .plain h (.array element), 0⟩).outcome =
      .ok said) :
    ∃ text s, said = some text ∧ (arrayChildren c v element).outcome = .ok s ∧
      (text = "null" ∧ s.count = 0 ∨ ∃ items, r.ShowsFirst c element s items text) := by
  rw [summaryWith_array, map_eq_pure_bind, arrayText_eq] at found
  obtain ⟨text, found, same⟩ := Probe.exists_of_bind_ok found
  obtain ⟨head?, hhead, found⟩ := Probe.exists_of_bind_ok found
  cases same
  rw [arrayChildren_eq, Probe.outcome_bind_of_ok hhead]
  cases head? with
  | none =>
    cases found
    exact ⟨_, _, rfl, rfl, .inl ⟨rfl, rfl⟩⟩
  | some shape =>
    obtain ⟨items, hitems, joined⟩ := Probe.exists_of_bind_ok found
    cases joined
    exact ⟨_, _, rfl, rfl, .inr ⟨items, showsFirst_of_tabulate hitems⟩⟩

/-! ## Collections -/

/-- 64 bits have an address for where the elements of the backing array of a list begin, if the
list can be read. -/
def ListFits (c : Context) (v : Value) (t : TypeDescriptor) : Prop :=
  ∀ object view, (c.objectAddress v).outcome = .ok object →
    (Collection.readList c object (layoutOf c t)).outcome = .ok view →
      view.array.toNat + c.abi.elementsBegin < UInt64.size

/-- A list is read only where pointers have four or eight bytes. -/
theorem ensures_readList_hasWords (object : UInt64) (layout : Option ClassLayout) :
    (Collection.readList c object layout).Ensures fun _ => c.HasWords := by
  simp only [Collection.readList, Probe.ensures_bind]
  intro _ _ _ _ _ _ _ read _ _
  exact Context.hasWords_of_readPointer read

/-- A collection that has a size has as many children. -/
theorem exists_children_of_size {object n : UInt64} {kind : CollectionKind}
    {layout : Option ClassLayout} (sized : (Collection.size c object kind layout).outcome = .ok n)
    (fits : kind = .arrayList → ∀ view, (Collection.readList c object layout).outcome = .ok view →
      view.array.toNat + c.abi.elementsBegin < UInt64.size) :
    ∃ s, (Collection.children c object kind layout).outcome = .ok s ∧ s.count = n.toNat := by
  cases kind with
  | arrayList =>
    obtain ⟨view, read, same⟩ := Probe.exists_of_bind_ok sized
    cases same
    have words := ensures_readList_hasWords object layout view read
    rw [Collection.children, Probe.outcome_bind_of_ok read,
      Collection.outcome_listChildren words, if_pos (fits rfl view read)]
    exact ⟨_, rfl, rfl⟩
  | hashMap =>
    obtain ⟨view, read, same⟩ := Probe.exists_of_bind_ok sized
    cases same
    exact ⟨_, Probe.outcome_bind_of_ok read _, rfl⟩
  | hashSet =>
    obtain ⟨view, read, same⟩ := Probe.exists_of_bind_ok sized
    cases same
    exact ⟨_, Probe.outcome_bind_of_ok read _, rfl⟩

/-- Where a collection has a text, it has children: none for null, and else as many as the text
says. -/
theorem counts_of_collectionText {t : TypeDescriptor} {kind : CollectionKind} {text : String}
    (said : (collectionText c v t kind).outcome = .ok text)
    (fits : kind = .arrayList → ListFits c v t) :
    ∃ s, (collectionChildren c v t kind).outcome = .ok s ∧
      (text = "null" ∧ s.count = 0 ∨ text = "size=" ++ Text.decimal s.count) := by
  obtain ⟨object, stands, said⟩ := Probe.exists_of_bind_ok said
  rw [collectionChildren, withObject, Probe.outcome_bind_of_ok stands]
  split at said
  case isTrue null =>
    cases said
    exact ⟨.empty, by rw [if_pos null]; rfl, .inl ⟨rfl, rfl⟩⟩
  case isFalse nonzero =>
    obtain ⟨n, sized, same⟩ := Probe.exists_of_bind_ok said
    cases same
    obtain ⟨s, found, count⟩ :=
      exists_children_of_size sized fun list view read => fits list object view stands read
    refine ⟨s, ?_, .inr (by rw [count])⟩
    rw [if_neg nonzero, found]

end Builtin

namespace FormatterRegistry

variable {r : FormatterRegistry} {c : Context} {v : Value} {t : TypeDescriptor}

/-- Where no formatter of the host lists the children of an array or a collection, as in a registry
without formatters, the children are those that the text counts. If the text is `null`, there are
none, and otherwise the text begins with their number; for a list this is so if 64 bits have an
address for the elements. The text of an array goes on with those of its first elements. -/
theorem text_counts_children (r : FormatterRegistry) (c : Context) (v : Value) (t : TypeDescriptor)
    {text : String} (unformatted : r.childrenEntries t = []) (fresh : c.isFresh v = true)
    (said : (r.hardcodedSummary c v t).outcome = .ok (some text)) :
    (∀ h element, t = .plain h (.array element) →
      ∃ s, (r.children c v t).outcome = .ok s ∧
        (text = "null" ∧ s.count = 0 ∨ ∃ items, r.ShowsFirst c element s items text)) ∧
      (∀ h kind, t = .plain h (.collection kind) →
        (kind = .arrayList → Builtin.ListFits c v t) →
          ∃ s, (r.children c v t).outcome = .ok s ∧
            (text = "null" ∧ s.count = 0 ∨ text = "size=" ++ Text.decimal s.count)) := by
  rw [hardcodedSummary_of_fresh fresh, builtinSummary_eq] at said
  have said := Probe.outcome_of_guarded said
  refine ⟨?_, ?_⟩
  · rintro h element rfl
    obtain ⟨text', s, same, found, shows⟩ := Builtin.showsFirst_of_summaryWith said
    cases same
    exact ⟨s, outcome_children_of_unformatted fresh unformatted found, shows⟩
  · rintro h kind rfl fits
    obtain ⟨text', said, same⟩ := Probe.exists_of_bind_ok said
    cases same
    obtain ⟨s, found, counts⟩ := Builtin.counts_of_collectionText said fits
    exact ⟨s, outcome_children_of_unformatted fresh unformatted found, counts⟩

/-- An array of three numbers of which two are shown, and a list of two elements of the array. -/
theorem text_counts_children_limited :
    let word (address : UInt64) : Nat :=
      if address = 0x1008 then 3 else if address = 0x2008 then 0x1000
      else if address = 0x2010 then 1 else if address = 0x2014 then 2 else 7
    let c : Context :=
      { memory := fun address size => .ok (toLittleEndian size (word address))
        metadata := ⟨fun _ => none, fun _ => none⟩ }
    let r : FormatterRegistry := { config := { maxArrayPreview := 2 } }
    let numbers : TypeDescriptor := .ofKind "kotlin.IntArray" (.array (.primitive .int))
    let list : TypeDescriptor := .ofKind "kotlin.collections.ArrayList" (.collection .arrayList)
    (r.hardcodedSummary c (.objectAt numbers 0x1000 1) numbers).outcome
        = .ok (some "size=3 [7, 7, ...]") ∧
      (∃ s items, (r.children c (.objectAt numbers 0x1000 1) numbers).outcome = .ok s ∧
        r.ShowsFirst c (.primitive .int) s items "size=3 [7, 7, ...]") ∧
      (r.hardcodedSummary c (.objectAt list 0x2000 1) list).outcome = .ok (some "size=2") ∧
      ∃ s, (r.children c (.objectAt list 0x2000 1) list).outcome = .ok s ∧
        "size=2" = "size=" ++ Text.decimal s.count := by
  intro word c r numbers list
  have bare : ∀ t, r.childrenEntries t = [] := fun t => matching_of_entries_nil rfl t _
  have said : (r.hardcodedSummary c (.objectAt numbers 0x1000 1) numbers).outcome
      = .ok (some "size=3 [7, 7, ...]") := by
    rw [hardcodedSummary_of_fresh rfl, builtinSummary_eq]
    decide +kernel
  have counted : (r.hardcodedSummary c (.objectAt list 0x2000 1) list).outcome
      = .ok (some "size=2") := by
    rw [hardcodedSummary_of_fresh rfl, builtinSummary_eq]
    decide +kernel
  have fits : Builtin.ListFits c (.objectAt list 0x2000 1) list := by
    intro object view stands read
    cases stands
    have found : (Collection.readList c 0x2000 (Builtin.layoutOf c list)).outcome
        = .ok ⟨0x1000, 1, 2⟩ := by
      decide +kernel
    cases found.symm.trans read
    decide
  obtain ⟨s, found, shows⟩ := (text_counts_children r c _ numbers (bare _) rfl said).1 _ _ rfl
  obtain ⟨items, shows⟩ := shows.resolve_left fun null => absurd null.1 (by decide)
  obtain ⟨s', found', counts⟩ :=
    (text_counts_children r c _ list (bare _) rfl counted).2 _ _ rfl fun _ => fits
  have counts := counts.resolve_left fun null => absurd null.1 (by decide)
  exact ⟨said, ⟨s, items, found, shows⟩, counted, s', found', counts⟩

/-! ## Texts on different levels -/

/-- A summary depends on what is built in through its end alone. -/
theorem outcome_summaryFrom_congr {a b : Probe (Option String)} (same : a.outcome = b.outcome) :
    (r.summaryFrom c v t a).outcome = (r.summaryFrom c v t b).outcome := by
  have last : ∀ texts, (afterHosts (genericSummary c v t) a texts).outcome =
      (afterHosts (genericSummary c v t) b texts).outcome := fun texts => by
    rw [afterHosts, afterHosts, Probe.outcome_bind, Probe.outcome_bind, Probe.outcome_attempt,
      Probe.outcome_attempt, Probe.outcome_guarded_congr same]
  rw [summaryFrom, summaryFrom]
  split
  · rfl
  · rw [Probe.outcome_bind, Probe.outcome_bind]
    rcases (consult c v t (r.summaryEntries t)).outcome with _ | (_ | _ | texts)
    · rfl
    · rfl
    · rfl
    · exact last texts

/-- If what is built in ends in the same way on two levels, so do the summaries. -/
theorem outcome_summaryAt_congr {a b : Nat}
    (same : (Builtin.summaryWith r.config c (r.summaryOf c) ⟨v, t, a⟩).outcome =
      (Builtin.summaryWith r.config c (r.summaryOf c) ⟨v, t, b⟩).outcome) :
    (r.summaryAt c v t a).outcome = (r.summaryAt c v t b).outcome := by
  rw [summaryAt_eq, summaryAt_eq, Probe.outcome_bind_of_ok (Probe.outcome_note _),
    Probe.outcome_bind_of_ok (Probe.outcome_note _), builtinSummary_eq, builtinSummary_eq]
  exact outcome_summaryFrom_congr same

/-- Levels count for no plain type but that of arrays of references. -/
theorem outcome_summaryAt_plain {h : TypeHead} {k : TypeKind} (other : k ≠ .array .reference)
    (a b : Nat) :
    (r.summaryAt c v (.plain h k) a).outcome = (r.summaryAt c v (.plain h k) b).outcome := by
  refine outcome_summaryAt_congr (congrArg Probe.outcome ?_)
  cases k with
  | array element =>
    cases element with
    | primitive => rfl
    | reference => exact absurd rfl other
  | _ => rfl

/-- Levels count for a nullable type only if they do for what is inside. -/
theorem outcome_summaryAt_nullable_congr {h : TypeHead} {inner : TypeDescriptor} {a b : Nat}
    (inside : (c.unwrap v inner).Ensures (∀ content ∈ ·,
      (r.summaryAt c (content.resolved.toValue v.stop) content.resolved.type a).outcome =
        (r.summaryAt c (content.resolved.toValue v.stop) content.resolved.type b).outcome)) :
    (r.summaryAt c v (.nullable h inner) a).outcome =
      (r.summaryAt c v (.nullable h inner) b).outcome := by
  refine outcome_summaryAt_congr ?_
  rw [Builtin.summaryWith, Builtin.summaryWith, Probe.outcome_bind, Probe.outcome_bind]
  cases unwrapped : (c.unwrap v inner).outcome with
  | error stop => rfl
  | ok content? =>
    cases content? with
    | none => rfl
    | some content =>
      have same := inside _ unwrapped content rfl
      show (_ >>= _ : Probe (Option String)).outcome = (_ >>= _ : Probe (Option String)).outcome
      rw [Probe.outcome_bind, Probe.outcome_bind]
      exact congrArg (· >>= _) same

/-- An element of an array of references has the same text on every level, unless it leads to
another array of references. -/
theorem outcome_summaryAt_resolved {d : DynamicValue} (fresh : c.isFresh v = true)
    (type : v.staticType = .anyReference)
    (resolved : (c.resolveOrStatic v .preferDynamic).outcome = .ok d)
    (other : ∀ h, d.type ≠ .plain h (.array .reference)) (a b : Nat) :
    (r.summaryAt c (d.toValue c.stop) d.type a).outcome =
      (r.summaryAt c (d.toValue c.stop) d.type b).outcome := by
  obtain ⟨found, -, same⟩ := Probe.exists_of_bind_ok resolved
  cases same
  cases found with
  | some f =>
    -- no class that is found on the heap is nullable
    refine outcome_summaryAt_plain (fun array => ?_) a b
    exact other _ (congrArg (TypeDescriptor.plain _) array)
  | none =>
    -- the element stays as it is declared, and so what is inside is just any object
    have itself : (DynamicValue.ofFound v none).toValue c.stop = v :=
      Context.toValue_unchanged (beq_iff_eq.1 fresh)
    have nullable : (DynamicValue.ofFound v none).type = .anyReference := type
    rw [nullable, itself]
    refine outcome_summaryAt_nullable_congr fun content? unwrapped content mem => ?_
    have plain : content.resolved.type = .object "kotlin.Any" false := by
      obtain ⟨-, kept⟩ | ⟨-, content', -, moved⟩ := Context.unwrap_spec fresh type rfl resolved
      · exact kept _ unwrapped content mem
      · have nested : content'.resolved.type.nesting ≤ 0 := content'.nesting_le
        rw [moved, nullable] at nested
        cases nested
    have other : TypeKind.object false ≠ .array .reference := nofun
    rw [plain]
    exact outcome_summaryAt_plain other a b

/-- Whether the text of an element of an array is that of the element by itself. For a primitive
this is so if the host has no formatter for its type, and for a reference if it does not lead to
another array of references. -/
def ShowsAlike (r : FormatterRegistry) (d : DynamicValue) : ArrayElement → Prop
  | .primitive k => r.summaryEntries (.primitive k) = []
  | .reference => ∀ h, d.type ≠ .plain h (.array .reference)

/-- If an element of an array has a text, it resolves to what has the same text by itself. -/
theorem exists_resolved_of_elementSummary {element : ArrayElement} {address : UInt64}
    {text : String} (deeper : 1 < r.config.maxDepth)
    (said : (r.elementSummary c element (element.valueAt address c.stop)).outcome = .ok text) :
    ∃ d, (c.resolveOrStatic (element.valueAt address c.stop) .preferDynamic).outcome = .ok d ∧
      (r.ShowsAlike d element →
        (r.summarize c (d.toValue c.stop) d.type).outcome = .ok text) := by
  cases element with
  | primitive k =>
    -- a primitive in place has no other class
    have settled := Context.classOf_of_isFinal (c := c) (v := .scalarAt k address c.stop) rfl rfl
    have resolved := Context.outcome_resolve_of_none (congrArg Probe.outcome settled) .preferDynamic
    refine ⟨.unchanged (.scalarAt k address c.stop), ?_, fun unformatted => ?_⟩
    · show (c.resolveOrStatic (.scalarAt k address c.stop) .preferDynamic).outcome = _
      rw [Context.outcome_resolveOrStatic, resolved]
    · rw [Context.toValue_unchanged rfl]
      exact outcome_summaryAt_of_unformatted (beq_self_eq_true _) unformatted
        (Probe.outcome_bind_of_ok said _)
  | reference =>
    rw [elementSummary, if_pos deeper] at said
    obtain ⟨d, resolved, said⟩ := Probe.exists_of_bind_ok said
    refine ⟨d, resolved, fun other => ?_⟩
    rw [summarize, outcome_summaryAt_resolved (beq_self_eq_true _) rfl resolved other 0 1, said]

/-- The elements that the text of an array shows are the first of its children, and each has the
text that it has by itself once it is resolved: a primitive if the host has no formatter for its
type, and a reference if it does not lead to another array of references, whatever the host has
registered. The limits must leave a level for the elements. The children are those that are built
in, and those of the value if no formatter of the host lists others. -/
theorem preview_shows_children (r : FormatterRegistry) (c : Context) (v : Value) (h : TypeHead)
    (element : ArrayElement) {said : Option String} (deeper : 2 ≤ r.config.maxDepth)
    (fresh : c.isFresh v = true)
    (built : (r.builtinSummary c v (.plain h (.array element)) 0).outcome = .ok said) :
    ∃ text s, said = some text ∧
      (r.hardcodedChildren c v (.plain h (.array element))).outcome = .ok s ∧
      (r.childrenEntries (.plain h (.array element)) = [] →
        (r.children c v (.plain h (.array element))).outcome = .ok s) ∧
      (text = "null" ∧ s.count = 0 ∨ ∃ items, r.ShowsFirst c element s items text ∧
        ∀ i (hi : i < items.length), ∃ child d, (s.get i).value = some (.ok child) ∧
          (c.resolveOrStatic child.value .preferDynamic).outcome = .ok d ∧
          (r.ShowsAlike d element →
            (r.summarize c (d.toValue c.stop) d.type).outcome = .ok items[i])) := by
  rw [builtinSummary_eq] at built
  obtain ⟨text, s, same, found, shows⟩ := Builtin.showsFirst_of_summaryWith built
  have listed : (builtinChildrenWith c (r.children c) v (.plain h (.array element))).outcome =
      .ok s := found
  refine ⟨text, s, same, ?_, fun unformatted => ?_, shows.imp_right ?_⟩
  · rw [hardcodedChildren_of_fresh fresh, Probe.outcome_guarded, builtinChildren_eq, listed]
  · exact outcome_children_of_unformatted fresh unformatted listed
  · rintro ⟨items, shows⟩
    refine ⟨items, shows, fun i hi => ?_⟩
    obtain ⟨address, hchild, said⟩ := shows.item i hi
    obtain ⟨d, resolved, alike⟩ := exists_resolved_of_elementSummary deeper said
    exact ⟨_, d, hchild, resolved, alike⟩

/-- The text of an array with a number in a box shows what the box shows by itself. -/
theorem preview_shows_children_boxed :
    let word (address : UInt64) : Nat :=
      if address = 0x1008 then 1 else if address = 0x1010 then 0x3000
      else if address = 0x3008 then 42 else 0x4000
    let c : Context :=
      { memory := fun address size => .ok (toLittleEndian size (word address))
        metadata := ⟨fun tag => some ⟨"kotlin.Int", tag, none⟩, fun _ => none⟩ }
    let r : FormatterRegistry := {}
    let t : TypeDescriptor := .ofKind "kotlin.Array" (.array .reference)
    let v : Value := .objectAt t 0x1000 1
    (r.builtinSummary c v t 0).outcome = .ok (some "size=1 [42]") ∧
      ∃ s child d, (r.hardcodedChildren c v t).outcome = .ok s ∧
        (s.get 0).value = some (.ok child) ∧
        (c.resolveOrStatic child.value .preferDynamic).outcome = .ok d ∧
        (r.summarize c (d.toValue c.stop) d.type).outcome = .ok "42" := by
  intro word c r t v
  let d : DynamicValue := ⟨.ofRecord ⟨"kotlin.Int", 0x4000, none⟩, .memory 0x3008, .scalar .int⟩
  have head : (Builtin.arrayHead c v).outcome = .ok (some (1, 0x1010)) := by decide +kernel
  have element : (Builtin.resolveElement c 0x1010 0).outcome = .ok d := by decide +kernel
  have shown : (Builtin.resolveShown {} c 1 0x1010).outcome = .ok [d] := by decide +kernel
  have said : (r.summaryOf c ⟨d.toValue c.stop, d.type, 1⟩).outcome = .ok "42" := by
    refine outcome_summaryAt_of_unformatted rfl (matching_of_entries_nil rfl _ _) ?_
    decide +kernel
  have total : ∀ count data i d', (Builtin.arrayHead c v).outcome = .ok (some (count, data)) →
      i < Builtin.shownCount r.config count →
        (Builtin.resolveElement c data i).outcome = .ok d' →
          (r.summaryOf c ⟨d'.toValue c.stop, d'.type, 1⟩).outcome = .ok "42" := by
    intro count data i d' hhead hi hd
    cases head.symm.trans hhead
    obtain rfl : i = 0 := Nat.lt_one_iff.1 hi
    cases element.symm.trans hd
    exact said
  have built : (r.builtinSummary c v t 0).outcome = .ok (some "size=1 [42]") := by
    have text : Builtin.joinItems r.config 1 ["42"] = "size=1 [42]" := by decide +kernel
    rw [builtinSummary_eq]
    refine (Builtin.outcome_summaryWith_array (by decide) total).trans ?_
    rw [head]
    show (Builtin.resolveShown {} c 1 0x1010).outcome.map _ = _
    rw [shown]
    exact congrArg (fun s => Except.ok (some s)) text
  have children : (builtinChildrenWith c (r.children c) v t).outcome =
      .ok (.indexed 1 (Builtin.arrayChild c .reference 0x1010)) := by
    show (Builtin.arrayChildren c v .reference).outcome = _
    rw [Builtin.arrayChildren_eq, Probe.outcome_bind_of_ok head]
    rfl
  have listed : (r.hardcodedChildren c v t).outcome =
      .ok (.indexed 1 (Builtin.arrayChild c .reference 0x1010)) := by
    rw [hardcodedChildren_of_fresh rfl, Probe.outcome_guarded, builtinChildren_eq, children]
  obtain ⟨text, s, same, found, -, shows⟩ :=
    preview_shows_children r c v ⟨"kotlin.Array", none, none⟩ .reference (by decide) rfl built
  cases same
  cases listed.symm.trans found
  obtain ⟨items, first, alike⟩ := shows.resolve_left fun null => absurd null.1 (by decide)
  -- one element fits the text, and it has no class of an array
  obtain ⟨item, rfl⟩ := List.length_eq_one_iff.1 first.length
  obtain ⟨child, d', hchild, resolved, same⟩ := alike 0 Nat.one_pos
  have boxed : d' = d := by
    cases hchild
    exact Except.ok.inj (resolved.symm.trans element)
  have number : "size=1 [" ++ "42" ++ "]" = "size=1 [" ++ item ++ "]" := by
    have before : "size=" ++ Text.decimal 1 ++ " [" = "size=1 [" := by decide +kernel
    refine first.text.trans ?_
    rw [if_neg (by decide), String.intercalate_singleton]
    exact congrArg (· ++ item ++ "]") before
  cases (String.append_right_inj _).1 ((String.append_left_inj _).1 number)
  exact ⟨built, _, child, d', found, hchild, resolved,
    same fun _ array => by rw [boxed] at array; cases array⟩

end FormatterRegistry

end HeapScope
