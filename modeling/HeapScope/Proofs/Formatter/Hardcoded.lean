import HeapScope.Proofs.Formatter.Recursion

/-!
# What is built in and what the host registered

A host can ask for the text and the children that are built in for a value, past the formatters that
it registered for the type. The registry is left out for the value itself only: what a nullable
value holds and the elements of an array of references are formatted as ever, with the formatters of
the host. So what is built in is the same for all registries exactly for the values with nothing of
that kind inside.

To tell registries apart it is enough to look at uniform ones, which give one answer to everything.
-/

namespace HeapScope

/-- How many children a sequence has, and all items of a walk through them. -/
def ChildSequence.listing (s : ChildSequence) : Nat × List ChildItem :=
  (s.count, (s.items s.count).value)

namespace FormatterRegistry

variable {r : FormatterRegistry} {c : Context} {v : Value} {t : TypeDescriptor} {depth : Nat}

/-- For a value of this stop, the summary is what is built in, under guard. -/
theorem hardcodedSummary_of_fresh (fresh : c.isFresh v = true) :
    r.hardcodedSummary c v t = (r.builtinSummary c v t 0).guarded := by
  rw [hardcodedSummary, Context.validate, if_pos fresh, pure_bind]

/-- For a value of this stop, the children are what is built in, under guard. -/
theorem hardcodedChildren_of_fresh (fresh : c.isFresh v = true) :
    r.hardcodedChildren c v t = (r.builtinChildren c v t).guarded := by
  rw [hardcodedChildren, Context.validate, if_pos fresh, pure_bind]

/-- A summary that is built in is shown under guard as well. -/
theorem outcome_hardcodedSummary {said : Option String} (fresh : c.isFresh v = true)
    (built : (Builtin.summaryWith r.config c (r.summaryOf c) ⟨v, t, 0⟩).outcome = .ok said) :
    (r.hardcodedSummary c v t).outcome = .ok said := by
  rw [hardcodedSummary_of_fresh fresh, Probe.outcome_guarded, builtinSummary_eq, built]

/-! ## Formatters that have the last word -/

/-- If the first formatter that is consulted has a text and does not let the next one go on, its
text is the summary. -/
theorem outcome_summaryAt_of_final {e : Registration} {es : List Registration}
    {f : SummaryFormatter} {text : String} (fresh : c.isFresh v = true)
    (first : r.summaryEntries t = e :: es) (hf : e.formatter.summary = some f)
    (final : e.formatter.cascade = false) (answer : (f c v t).outcome = .ok text) :
    (r.summaryAt c v t depth).outcome = .ok text := by
  have ran : (runSummary c v t e f).outcome = .ok text := by
    rw [runSummary, Probe.outcome_bind_of_ok (Probe.outcome_note _), Probe.outcome_guarded, answer]
  have settled := (consult_cons_of_final hf ran final es).1
  rw [summaryAt_eq, Probe.outcome_bind_of_ok (Probe.outcome_note _), summaryFrom, fresh, first]
  refine (Probe.outcome_bind_of_ok settled _).trans ?_
  rw [Probe.outcome_pure, joinTexts, String.intercalate_singleton]

/-- If the first formatter that has children for a type finds some, these are the children. -/
theorem outcome_children_of_entry {e : Registration} {es : List Registration}
    {f : ChildrenFormatter} {found : ChildSequence} (fresh : c.isFresh v = true)
    (first : r.childrenEntries t = e :: es) (hf : e.formatter.children = some f)
    (finds : (f c v t).outcome = .ok found) : (r.children c v t).outcome = .ok found := by
  have ran : (runChildren c v t e f).outcome = .ok found := by
    rw [runChildren, Probe.outcome_bind_of_ok (Probe.outcome_note _), Probe.outcome_guarded, finds]
  rw [children_eq, childrenFrom, fresh, provider, first]
  simp only [hf, Option.elim_some]
  rw [if_neg (by decide), (orNone_spec (.of_ok ran)).1, Probe.value?_of_ok ran, Option.getD_some]

/-- A registry with one answer to everything: a formatter for each category of types, all with the
same text and the same children. -/
def uniform (config : FormatterConfig) (text : String) (children : ChildSequence) :
    FormatterRegistry where
  config
  entries := TypeCategory.table.mapIdx fun i entry =>
    ⟨i + 1, { pattern := .category entry.1
              summary := some fun _ _ _ => pure text
              children := some fun _ _ _ => pure children }⟩
  nextId := TypeCategory.table.length + 1

section uniform

variable {config : FormatterConfig} {text : String} {found : ChildSequence}

/-- Every formatter of a uniform registry says the same text and finds the same children. -/
theorem formatter_of_mem_uniform {e : Registration} (h : e ∈ (uniform config text found).entries) :
    e.formatter.summary = some (fun _ _ _ => pure text) ∧
      e.formatter.children = some (fun _ _ _ => pure found) ∧ e.formatter.cascade = false := by
  obtain ⟨i, hi, rfl⟩ := List.mem_mapIdx.1 h
  exact ⟨rfl, rfl, rfl⟩

/-- Whatever the type, some formatter of the registry is for it. -/
theorem exists_mem_uniform (config : FormatterConfig) (text : String) (found : ChildSequence)
    (t : TypeDescriptor) :
    ∃ e ∈ (uniform config text found).entries, e.formatter.pattern.holds t = true := by
  have listed : ∃ name, (t.category, name) ∈ TypeCategory.table := by
    cases t.category <;> simp [TypeCategory.table]
  obtain ⟨name, hname⟩ := listed
  obtain ⟨i, hi, get⟩ := List.mem_iff_getElem.1 hname
  exact ⟨_, List.mem_mapIdx.2 ⟨i, hi, rfl⟩, beq_iff_eq.2 (congrArg Prod.fst get)⟩

/-- Of the formatters of the registry that are wanted, one comes first for every type. -/
theorem exists_matching_uniform (wanted : Formatter → Bool)
    (all : ∀ e ∈ (uniform config text found).entries, wanted e.formatter = true)
    (t : TypeDescriptor) :
    ∃ first rest, (uniform config text found).matching t wanted = first :: rest ∧
      first ∈ (uniform config text found).entries := by
  obtain ⟨e, he, holds⟩ := exists_mem_uniform config text found t
  have matched := mem_matching_iff.2 ⟨he, all e he, holds⟩
  obtain ⟨first, rest, entries⟩ := List.exists_cons_of_ne_nil (List.ne_nil_of_mem matched)
  have hfirst : first ∈ (uniform config text found).matching t wanted :=
    entries ▸ List.mem_cons_self
  exact ⟨first, rest, entries, (mem_matching_iff.1 hfirst).1⟩

/-- A uniform registry says its text of every value. -/
theorem outcome_summaryAt_uniform (config : FormatterConfig) (text : String)
    (found : ChildSequence) (fresh : c.isFresh v = true) (t : TypeDescriptor) (depth : Nat) :
    ((uniform config text found).summaryAt c v t depth).outcome = .ok text := by
  have all : ∀ e ∈ (uniform config text found).entries, e.formatter.summary.isSome = true :=
    fun e he => by rw [(formatter_of_mem_uniform he).1, Option.isSome_some]
  obtain ⟨first, rest, entries, hfirst⟩ := exists_matching_uniform (·.summary.isSome) all t
  obtain ⟨summary, -, final⟩ := formatter_of_mem_uniform hfirst
  exact outcome_summaryAt_of_final fresh entries summary final rfl

/-- A uniform registry finds its children in every value. -/
theorem outcome_children_uniform (config : FormatterConfig) (text : String)
    (found : ChildSequence) (fresh : c.isFresh v = true) (t : TypeDescriptor) :
    ((uniform config text found).children c v t).outcome = .ok found := by
  have all : ∀ e ∈ (uniform config text found).entries, e.formatter.children.isSome = true :=
    fun e he => by rw [(formatter_of_mem_uniform he).2.1, Option.isSome_some]
  obtain ⟨first, rest, entries, hfirst⟩ := exists_matching_uniform (·.children.isSome) all t
  obtain ⟨-, children, -⟩ := formatter_of_mem_uniform hfirst
  exact outcome_children_of_entry fresh entries children rfl

end uniform

end FormatterRegistry

namespace Builtin

variable {config : FormatterConfig} {c : Context} {v : Value} {h : TypeHead}
  {next : SummaryCall → Probe String}

/-! ## The values whose summaries a text is made of -/

/-- What the element at an index of an array resolves to. -/
def resolveElement (c : Context) (data : UInt64) (index : Nat) : Probe DynamicValue := do
  c.resolveOrStatic (← slotValue c data index) .preferDynamic

/-- What the elements that the text of an array shows resolve to. -/
def resolveShown (config : FormatterConfig) (c : Context) (count : Nat) (data : UInt64) :
    Probe (List DynamicValue) :=
  (List.range' 0 (shownCount config count)).mapM (resolveElement c data)

/-- The values inside a value that have summaries of their own in its text: what a nullable value
holds, and the elements of an array of references where there is a level left for them. -/
def inside (config : FormatterConfig) (c : Context) (v : Value) :
    TypeDescriptor → Probe (List DynamicValue)
  | .nullable _ inner => return ((← c.unwrap v inner).map (·.resolved)).toList
  | .plain _ (.array .reference) => do
    if 1 < config.maxDepth then
      match ← arrayHead c v with
      | none => return []
      | some (count, data) => resolveShown config c count data
    else return []
  | .plain _ _ => return []

/-- Something has a summary of its own only inside a nullable value that is not null and inside an
array of references. -/
theorem inside_cases {t : TypeDescriptor} {d : DynamicValue} {ds : List DynamicValue}
    (something : (inside config c v t).outcome = .ok (d :: ds)) :
    (∃ h inner content, t = .nullable h inner ∧ (c.unwrap v inner).outcome = .ok (some content)) ∨
      ∃ h count data, t = .plain h (.array .reference) ∧ 1 < config.maxDepth ∧
        (arrayHead c v).outcome = .ok (some (count, data)) ∧
        (resolveShown config c count data).outcome = .ok (d :: ds) := by
  rw [inside.eq_def] at something
  split at something
  case h_1 h inner =>
    obtain ⟨content?, unwrapped, found⟩ := Probe.exists_of_bind_ok something
    cases content? with
    | none => cases found
    | some content => exact .inl ⟨h, inner, content, rfl, unwrapped⟩
  case h_2 h =>
    split at something
    case isTrue deeper =>
      obtain ⟨head?, hhead, found⟩ := Probe.exists_of_bind_ok something
      cases head? with
      | none => cases found
      | some shape =>
        obtain ⟨count, data⟩ := shape
        exact .inr ⟨h, count, data, rfl, deeper, hhead, found⟩
    case isFalse => cases something
  case h_3 => cases something

/-- Texts of resolved values, found one after the other, are found if the values resolve and all
have texts. -/
theorem outcome_tabulate {resolve : Nat → Probe DynamicValue} {say : DynamicValue → Probe String}
    {text : DynamicValue → String} {n i : Nat}
    (total : ∀ j d, j < i + n → (resolve j).outcome = .ok d →
      (say d).outcome = .ok (text d)) :
    (tabulate (fun j => resolve j >>= say) n i).outcome
      = ((List.range' i n).mapM resolve).outcome.map (List.map text) := by
  induction n generalizing i with
  | zero => rfl
  | succ n ih =>
    have rest := ih (i := i + 1) fun j d hj => total j d (by omega)
    rw [tabulate, List.range'_succ, List.mapM_cons, bind_assoc]
    cases hd : (resolve i).outcome with
    | error s =>
      -- no text was found before that could have failed in another way
      rw [Probe.outcome_bind_of_error hd, Probe.outcome_bind_of_error hd]
      rfl
    | ok d =>
      rw [Probe.outcome_bind_of_ok hd, Probe.outcome_bind_of_ok hd,
        Probe.outcome_bind_of_ok (total i d (by omega) hd), Probe.outcome_bind,
        Probe.outcome_bind, rest]
      cases ((List.range' (i + 1) n).mapM resolve).outcome <;> rfl

/-- A value that any object may stand in is found only where pointers have a width. -/
theorem outcome_findClass_of_pointerSize_eq_zero (zero : c.abi.pointerSize = 0) (address : UInt64)
    (p : Preference) : (c.findClass (.referenceAt .anyReference address c.stop) p).outcome
      = .error (.crashed .zeroDivisor) := by
  have fresh : c.isFresh (.referenceAt .anyReference address c.stop) = true := beq_self_eq_true _
  have crashed : (c.objectAddress (.referenceAt .anyReference address c.stop)).outcome
      = .error (.crashed .zeroDivisor) := by
    show (c.readPointer address).outcome = _
    rw [Context.readPointer, zero]
    rfl
  rw [Context.findClass, Context.validate, if_pos fresh, pure_bind]
  exact Probe.outcome_bind_of_error crashed _

/-- Reading a slot succeeds only where pointers have a width. -/
theorem pointerSize_ne_zero_of_resolveElement {data : UInt64} {index : Nat} {d : DynamicValue}
    (h : (resolveElement c data index).outcome = .ok d) : c.abi.pointerSize ≠ 0 := by
  intro zero
  obtain ⟨element, slot, resolved⟩ := Probe.exists_of_bind_ok h
  obtain ⟨address, -, stored⟩ := Probe.exists_of_bind_ok slot
  cases stored
  obtain ⟨found, hfound, -⟩ := Probe.exists_of_bind_ok resolved
  obtain ⟨tried, htried, -⟩ := Probe.exists_of_bind_ok hfound
  rw [Probe.outcome_attempt, outcome_findClass_of_pointerSize_eq_zero zero] at htried
  cases htried

/-- The text of an array that has a level left for its elements: the texts of what these resolve to
in a frame of their own. -/
theorem outcome_summaryWith_array {text : DynamicValue → String} (deeper : 1 < config.maxDepth)
    (total : ∀ count data i d, (arrayHead c v).outcome = .ok (some (count, data)) →
      i < shownCount config count → (resolveElement c data i).outcome = .ok d →
        (next ⟨d.toValue c.stop, d.type, 1⟩).outcome = .ok (text d)) :
    (summaryWith config c next ⟨v, .plain h (.array .reference), 0⟩).outcome =
      match (arrayHead c v).outcome with
      | .error s => .error s
      | .ok none => .ok (some nullText)
      | .ok (some (count, data)) => (resolveShown config c count data).outcome.map fun ds =>
        some (joinItems config count (ds.map text)) := by
  have element : ∀ data, elementText config c next 0 data =
      fun i => resolveElement c data i >>= fun d => next ⟨d.toValue c.stop, d.type, 1⟩ :=
    fun data => funext fun i => by
      rw [elementText, resolveElement, bind_assoc]
      exact bind_congr fun element => if_pos deeper
  show (some <$> arrayText config c v (elementText config c next 0)).outcome = _
  rw [Probe.outcome_map, arrayText_eq, Probe.outcome_bind]
  cases hhead : (arrayHead c v).outcome with
  | error s => rfl
  | ok found =>
    cases found with
    | none => rfl
    | some shape =>
      obtain ⟨count, data⟩ := shape
      show Except.map some (joinItems config count <$> tabulate _ _ 0).outcome
        = (resolveShown config c count data).outcome.map fun ds =>
          some (joinItems config count (ds.map text))
      rw [Probe.outcome_map, element, outcome_tabulate fun i d hi =>
        total count data i d hhead (by omega), ← resolveShown]
      cases (resolveShown config c count data).outcome <;> rfl

/-- A list of texts behind a text begins with it. -/
theorem exists_joinItems_cons (config : FormatterConfig) (count : Nat) (item : String)
    (items : List String) : ∃ rest, joinItems config count (item :: items)
      = "size=" ++ Text.decimal count ++ " [" ++ (item ++ rest) := by
  obtain ⟨others, hothers⟩ : ∃ others, (if shownCount config count < count then
      item :: items ++ [ellipsis] else item :: items) = item :: others := by
    split
    · exact ⟨items ++ [ellipsis], rfl⟩
    · exact ⟨items, rfl⟩
  have front : ", ".intercalate (item :: others) = item ++ ", ".intercalate ("" :: others) := by
    rw [← String.intercalate_cons_append, String.append_empty]
  refine ⟨", ".intercalate ("" :: others) ++ "]", ?_⟩
  rw [joinItems, hothers, front]
  simp only [String.append_assoc]

/-- Arrays of one size whose first elements have different texts of the same length have different
texts. -/
theorem joinItems_ne {config : FormatterConfig} {count : Nat} {x y : String} {xs ys : List String}
    (length : x.toList.length = y.toList.length) (ne : x ≠ y) :
    joinItems config count (x :: xs) ≠ joinItems config count (y :: ys) := by
  obtain ⟨xrest, hx⟩ := exists_joinItems_cons config count x xs
  obtain ⟨yrest, hy⟩ := exists_joinItems_cons config count y ys
  intro same
  rw [hx, hy, String.append_right_inj] at same
  have chars : x.toList ++ xrest.toList = y.toList ++ yrest.toList := by
    rw [← String.toList_append, ← String.toList_append, same]
  exact ne (String.toList_injective (List.append_inj_left chars length))

end Builtin

namespace FormatterRegistry

variable {config : FormatterConfig} {c : Context} {v : Value} {t : TypeDescriptor}

/-! ## What the host can change -/

/-- Whether a result is the same for all registries of some limits, whatever the host registered. -/
def IgnoresHost {α : Type} (config : FormatterConfig) (result : FormatterRegistry → α) : Prop :=
  ∀ a b : FormatterRegistry, a.config = config → b.config = config → result a = result b

/-- The summary of a resolved element has a text, whatever the host registered. -/
theorem outcome_summaryOf_element (r : FormatterRegistry) {data : UInt64} {i : Nat}
    {d : DynamicValue} (resolved : (Builtin.resolveElement c data i).outcome = .ok d) :
    (r.summaryOf c ⟨d.toValue c.stop, d.type, 1⟩).outcome
      = .ok ((r.summaryOf c ⟨d.toValue c.stop, d.type, 1⟩).value?.getD "") := by
  have width := Builtin.pointerSize_ne_zero_of_resolveElement resolved
  obtain ⟨text, said⟩ := exists_outcome_summaryAt width r (d.toValue c.stop) d.type 1
  rw [summaryOf, Probe.value?_of_ok said, said, Option.getD_some]

/-- An array that shows no element, or whose elements do not all resolve, has the same text for all
registries. -/
theorem outcome_summaryWith_array_of_nothing_inside {h : TypeHead} (deeper : 1 < config.maxDepth)
    (nothing : ∀ d ds,
      (Builtin.inside config c v (.plain h (.array .reference))).outcome ≠ .ok (d :: ds))
    (a b : FormatterRegistry) :
    (Builtin.summaryWith config c (a.summaryOf c) ⟨v, .plain h (.array .reference), 0⟩).outcome
      = (Builtin.summaryWith config c (b.summaryOf c)
          ⟨v, .plain h (.array .reference), 0⟩).outcome := by
  rw [Builtin.outcome_summaryWith_array deeper fun _ _ _ _ _ _ => outcome_summaryOf_element a,
    Builtin.outcome_summaryWith_array deeper fun _ _ _ _ _ _ => outcome_summaryOf_element b]
  cases hhead : (Builtin.arrayHead c v).outcome with
  | error s => rfl
  | ok found =>
    cases found with
    | none => rfl
    | some shape =>
      obtain ⟨count, data⟩ := shape
      have inside : (Builtin.inside config c v (.plain h (.array .reference))).outcome
          = (Builtin.resolveShown config c count data).outcome := by
        rw [Builtin.inside, if_pos deeper]
        exact Probe.outcome_bind_of_ok hhead _
      cases hds : (Builtin.resolveShown config c count data).outcome with
      | error s => simp only [hds, Except.map]
      | ok ds =>
        cases ds with
        | nil => simp only [hds, Except.map, List.map_nil]
        | cons d ds => exact absurd (inside.trans hds) (nothing d ds)

/-- What is built in for a value with nothing inside that has a summary of its own is the same for
all registries. -/
theorem outcome_summaryWith_of_nothing_inside
    (nothing : ∀ d ds, (Builtin.inside config c v t).outcome ≠ .ok (d :: ds))
    (a b : FormatterRegistry) :
    (Builtin.summaryWith config c (a.summaryOf c) ⟨v, t, 0⟩).outcome
      = (Builtin.summaryWith config c (b.summaryOf c) ⟨v, t, 0⟩).outcome := by
  by_cases array : (∃ h, t = .plain h (.array .reference)) ∧ 1 < config.maxDepth
  · obtain ⟨⟨h, rfl⟩, deeper⟩ := array
    exact outcome_summaryWith_array_of_nothing_inside deeper nothing a b
  · -- no summary is asked for, of an element or of what a nullable value holds
    refine congrArg _ (Builtin.summaryWith_congr fun call asked => ?_)
    cases asked with
    | element head shown slot deeper resolved => exact absurd ⟨⟨_, rfl⟩, deeper⟩ array
    | @content _ _ inner _ content found =>
      refine absurd ?_ (nothing content.resolved [])
      rw [Builtin.inside, Probe.outcome_bind_of_ok found]
      rfl

/-- Where something inside a value has a summary of its own, the text of the value shows what a
registry says of it. -/
theorem exists_hardcodedSummary_uniform {d : DynamicValue} {ds : List DynamicValue}
    (fresh : c.isFresh v = true)
    (something : (Builtin.inside config c v t).outcome = .ok (d :: ds)) :
    ∃ say : String → String, say "x" ≠ say "y" ∧ ∀ text,
      ((uniform config text .empty).hardcodedSummary c v t).outcome = .ok (some (say text)) := by
  obtain ⟨h, inner, content, rfl, unwrapped⟩ | ⟨h, count, data, rfl, deeper, hhead, hds⟩ :=
    Builtin.inside_cases something
  · refine ⟨id, by decide, fun text => outcome_hardcodedSummary fresh ?_⟩
    have said := outcome_summaryAt_uniform config text .empty
      (v := content.resolved.toValue v.stop) fresh content.resolved.type 0
    rw [Builtin.summaryWith, Probe.outcome_bind_of_ok unwrapped]
    exact Probe.outcome_bind_of_ok said _
  · have differ : Builtin.joinItems config count ((d :: ds).map fun _ => "x")
        ≠ Builtin.joinItems config count ((d :: ds).map fun _ => "y") :=
      Builtin.joinItems_ne (x := "x") (y := "y") (by decide) (by decide)
    refine ⟨fun text => Builtin.joinItems config count ((d :: ds).map fun _ => text), differ,
      fun text => outcome_hardcodedSummary fresh ?_⟩
    have said : ∀ d : DynamicValue,
        ((uniform config text .empty).summaryOf c ⟨d.toValue c.stop, d.type, 1⟩).outcome
          = .ok text :=
      fun d => outcome_summaryAt_uniform config text .empty (beq_self_eq_true _) d.type 1
    refine (Builtin.outcome_summaryWith_array deeper fun _ _ _ d _ _ _ => said d).trans ?_
    rw [hhead]
    simp only [hds, Except.map]

/-- A nullable value that is not null has the children that a registry finds for what it holds. -/
theorem outcome_hardcodedChildren_uniform {h : TypeHead} {inner : TypeDescriptor}
    {content : Unwrapped inner} (fresh : c.isFresh v = true)
    (unwrapped : (c.unwrap v inner).outcome = .ok (some content)) (found : ChildSequence) :
    ((uniform config "" found).hardcodedChildren c v (.nullable h inner)).outcome = .ok found := by
  have asked := outcome_children_uniform config "" found
    (v := content.resolved.toValue v.stop) fresh content.resolved.type
  rw [hardcodedChildren_of_fresh fresh, Probe.outcome_guarded, builtinChildren_eq,
    builtinChildrenWith, Probe.outcome_bind_of_ok unwrapped, asked]

/-- The children of any other value are the same for all registries. -/
theorem builtinChildrenWith_of_nothing_inside
    (nothing : ∀ h inner content, t = .nullable h inner →
      (c.unwrap v inner).outcome ≠ .ok (some content))
    (next other : Value → TypeDescriptor → Probe ChildSequence) :
    builtinChildrenWith c next v t = builtinChildrenWith c other v t := by
  cases t with
  | plain h k => cases k <;> rfl
  | nullable h inner =>
    refine Probe.bind_congr fun content? unwrapped => ?_
    cases content? with
    | none => rfl
    | some content => exact absurd unwrapped (nothing h inner content rfl)

/-- The text that is built in is the same whatever the host registered exactly for the values with
nothing inside that has a summary of its own, and the children exactly for all but nullable values
that are not null. -/
theorem hardcoded_ignoresHost_iff (config : FormatterConfig) (c : Context) (v : Value)
    (t : TypeDescriptor) :
    (IgnoresHost config (fun r => (r.hardcodedSummary c v t).outcome) ↔
        ¬ (c.isFresh v = true ∧
          ∃ d ds, (Builtin.inside config c v t).outcome = .ok (d :: ds))) ∧
      (IgnoresHost config (fun r =>
          (r.hardcodedChildren c v t).outcome.map ChildSequence.listing) ↔
        ¬ (c.isFresh v = true ∧ ∃ h inner content, t = .nullable h inner ∧
          (c.unwrap v inner).outcome = .ok (some content))) := by
  cases fresh : c.isFresh v with
  | false =>
    -- both are refused before any registry comes into play
    have refused : c.validate v = Probe.fail (Context.staleError c.stop v) := by
      rw [Context.validate, fresh]
      rfl
    simp [IgnoresHost, hardcodedSummary, hardcodedChildren, refused]
  | true =>
    refine ⟨⟨fun same => ?_, fun nothing a b ha hb => ?_⟩,
      ⟨fun same => ?_, fun nothing a b _ _ => ?_⟩⟩
    · -- two registries that say different things of what is inside tell the texts apart
      rintro ⟨-, d, ds, something⟩
      obtain ⟨say, differ, said⟩ := exists_hardcodedSummary_uniform fresh something
      have texts := same (uniform config "x" .empty) (uniform config "y" .empty) rfl rfl
      simp only [said] at texts
      exact differ (Option.some.inj (Except.ok.inj texts))
    · simp only [hardcodedSummary_of_fresh fresh, builtinSummary_eq, ha, hb]
      refine Probe.outcome_guarded_congr (outcome_summaryWith_of_nothing_inside ?_ a b)
      exact fun d ds something => nothing ⟨rfl, d, ds, something⟩
    · -- likewise one that finds no children and one that finds a single child
      rintro ⟨-, h, inner, content, rfl, unwrapped⟩
      have lists := same (uniform config "" .empty) (uniform config "" (.ofList [⟨"", v, none⟩]))
        rfl rfl
      simp only [outcome_hardcodedChildren_uniform fresh unwrapped] at lists
      have counts : 0 = 1 := congrArg Prod.fst (Except.ok.inj lists)
      cases counts
    · simp only [hardcodedChildren_of_fresh fresh, builtinChildren_eq]
      rw [builtinChildrenWith_of_nothing_inside (fun h inner content ht unwrapped =>
        nothing ⟨rfl, h, inner, content, ht, unwrapped⟩) (a.children c) (b.children c)]

/-- What a host registers for the elements of an array shows in the text that is built in for the
array. -/
theorem hardcodedSummary_shows_host :
    let c : Context :=
      { memory := fun address size => .ok (toLittleEndian size (if address = 0x1008 then 1 else 0))
        metadata := ⟨fun _ => none, fun _ => none⟩ }
    let t : TypeDescriptor := .ofKind "kotlin.Array" (.array .reference)
    let v : Value := .objectAt t 0x1000 1
    let mine : Formatter :=
      { pattern := .exact "kotlin.Any?", summary := some fun _ _ _ => pure "mine" }
    let bare : FormatterRegistry := {}
    let host : FormatterRegistry := { entries := [⟨1, mine⟩], nextId := 2 }
    (bare.hardcodedSummary c v t).outcome = .ok (some "size=1 [null]") ∧
      (host.hardcodedSummary c v t).outcome = .ok (some "size=1 [mine]") ∧
      ¬ IgnoresHost {} fun r => (r.hardcodedSummary c v t).outcome := by
  intro c t v mine bare host
  have head : (Builtin.arrayHead c v).outcome = .ok (some (1, 0x1010)) := by decide +kernel
  have element : (Builtin.resolveElement c 0x1010 0).outcome
      = .ok ⟨.anyReference, .memory 0x1010, .reference⟩ := by decide +kernel
  have shown : (Builtin.resolveShown {} c 1 0x1010).outcome
      = .ok [⟨.anyReference, .memory 0x1010, .reference⟩] := by decide +kernel
  have framed : ∀ {r : FormatterRegistry} {text : String}, r.config = {} →
      (r.summaryOf c ⟨.referenceAt .anyReference 0x1010 1, .anyReference, 1⟩).outcome = .ok text →
      (r.hardcodedSummary c v t).outcome = .ok (some (Builtin.joinItems {} 1 [text])) := by
    intro r text limits said
    refine outcome_hardcodedSummary rfl ?_
    have total : ∀ count data i d, (Builtin.arrayHead c v).outcome = .ok (some (count, data)) →
        i < Builtin.shownCount {} count → (Builtin.resolveElement c data i).outcome = .ok d →
          (r.summaryOf c ⟨d.toValue c.stop, d.type, 1⟩).outcome = .ok text := by
      intro count data i d hhead hi hd
      cases head.symm.trans hhead
      obtain rfl : i = 0 := Nat.lt_one_iff.1 hi
      cases element.symm.trans hd
      exact said
    rw [limits]
    refine (Builtin.outcome_summaryWith_array (by decide) total).trans ?_
    rw [head]
    simp only [shown, Except.map, List.map_cons, List.map_nil]
  have null : (bare.hardcodedSummary c v t).outcome = .ok (some "size=1 [null]") := by
    have unformatted : bare.summaryEntries .anyReference = [] := by
      simp [bare, summaryEntries, matching]
    have said : (bare.summaryOf c ⟨.referenceAt .anyReference 0x1010 1, .anyReference, 1⟩).outcome
        = .ok "null" := by
      rw [summaryOf_eq, summaryWith, summaryFrom, unformatted]
      decide +kernel
    have text : Builtin.joinItems {} 1 ["null"] = "size=1 [null]" := by decide +kernel
    exact text ▸ framed rfl said
  have shows : (host.hardcodedSummary c v t).outcome = .ok (some "size=1 [mine]") := by
    have first : host.summaryEntries .anyReference = [⟨1, mine⟩] := by
      simp [host, mine, summaryEntries, matching, TypePattern.holds, TypePattern.isExact,
        TypeDescriptor.anyReference, TypeDescriptor.object, TypeDescriptor.ofKind,
        TypeDescriptor.toNullable, TypeDescriptor.wrap, TypeDescriptor.name, TypeDescriptor.head]
    have text : Builtin.joinItems {} 1 ["mine"] = "size=1 [mine]" := by decide +kernel
    exact text ▸ framed rfl (outcome_summaryAt_of_final rfl first rfl rfl rfl)
  refine ⟨null, shows, fun ignores => ?_⟩
  have same := ignores bare host rfl rfl
  simp only [null, shows] at same
  exact absurd (Option.some.inj (Except.ok.inj same)) (by decide)

end FormatterRegistry

end HeapScope
