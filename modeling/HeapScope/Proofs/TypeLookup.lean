import HeapScope.Proofs.ImageTable
import HeapScope.Proofs.SymbolTable

/-!
# Types of loaded images by tag, by name and by symbol

A type of a loaded image is found in three ways: by its tag, which is the address of its type
information in memory, by the name that is shown, and by the linker name of its type information.
Each way has an index of its own in every image, and each takes the first image that has an answer.

By tag and by name they agree, as an image ahead that would answer one question would answer the
other one too. Where several types lie at one address this goes wrong, as a tag then stands for one
of them only.

By name and by symbol they agree on what there is as long as no hash of a linker name is shown as a
dot. On the address they agree if, of several symbols for one type in an image, the highest is the
one that the image resolves.
-/

namespace HeapScope

/-! ## Names of type information -/

/-- A symbol of type information, shown by a name. -/
def Symbol.ShowsType (s : Symbol) (name : String) : Prop :=
  s.kind = .typeInfo ∧ s.displayName = name

instance (s : Symbol) (name : String) : Decidable (s.ShowsType name) :=
  inferInstanceAs (Decidable (_ ∧ _))

/-- A linker name is one of type information exactly if it starts as such, and what stands behind
the start is the name of the type. -/
theorem readSymbolName_typeInfo_iff {name shown : String} :
    readSymbolName name = (.typeInfo, shown) ↔
      ∃ written, dropUnderscore name.toList = "ktype:".toList ++ written ∧
        shownName written = shown := by
  constructor
  · intro h
    rw [readSymbolName] at h
    dsimp only at h
    generalize marked : SymbolKind.markers.findSome? _ = read at h
    cases read with
    | none => cases h
    | some read =>
      obtain rfl : read = (.typeInfo, shown) := h
      -- only one start marks type information
      obtain ⟨⟨marker, kind⟩, listed, started⟩ := List.exists_of_findSome?_eq_some marked
      obtain ⟨written, dropped, same⟩ := Option.map_eq_some_iff.1 started
      cases same
      have only : marker = "ktype:" := by simpa [SymbolKind.markers] using listed
      subst only
      exact ⟨written, dropMarker_eq_some_iff.1 dropped, rfl⟩
  · rintro ⟨written, bare, rfl⟩
    rw [readSymbolName, bare]
    rfl

/-- What a name is without its underscore, and what has no underscore itself, the name is as it
stands or behind an underscore. -/
theorem dropUnderscore_eq_cons_iff {name rest : List Char} {c : Char} (plain : c ≠ '_') :
    dropUnderscore name = c :: rest ↔ name = c :: rest ∨ name = '_' :: c :: rest := by
  fun_cases dropUnderscore name with
  | case1 => simp [plain.symm]
  | case2 _ other => exact (or_iff_left fun underscored => other _ underscored).symm

/-- A symbol is shown as a type exactly if it goes by the linker name of a type that is shown so. -/
theorem Symbol.showsType_iff {s : Symbol} {name : String} :
    s.ShowsType name ↔
      ∃ written : String, shownName written.toList = name ∧
        s.IsNamed (typeInfoSymbolName written) := by
  have read : s.ShowsType name ↔ readSymbolName s.name = (.typeInfo, name) := by
    rw [ShowsType, kind, displayName, Prod.ext_iff]
  have named (written : List Char) :
      dropUnderscore s.name.toList = "ktype:".toList ++ written ↔
        s.IsNamed (typeInfoSymbolName (String.ofList written)) := by
    rw [IsNamed, typeInfoSymbolName, ← String.toList_inj, ← String.toList_inj]
    simp only [String.toList_append, String.toList_ofList]
    exact dropUnderscore_eq_cons_iff (by decide)
  rw [read, readSymbolName_typeInfo_iff]
  constructor
  · rintro ⟨written, bare, shown⟩
    exact ⟨String.ofList written, by rwa [String.toList_ofList], (named written).1 bare⟩
  · rintro ⟨written, shown, goes⟩
    refine ⟨written.toList, (named _).2 ?_, shown⟩
    rwa [String.ofList_toList]

/-- A name without hashes is shown as it is. -/
theorem shownName_of_not_mem {written : String} (plain : '#' ∉ written.toList) :
    shownName written.toList = written := by
  have same : written.toList.map (fun c => if c = '#' then '.' else c) = written.toList := by
    refine (List.map_congr_left fun c hc => ?_).trans (List.map_id _)
    exact if_neg fun hash : c = '#' => plain (hash ▸ hc)
  rw [shownName, same, String.ofList_toList]

/-- Without hashes, a symbol is shown as a type exactly if it goes by the type's linker name. -/
theorem Symbol.showsType_iff_isNamed {s : Symbol} {name : String} (plain : '#' ∉ s.name.toList) :
    s.ShowsType name ↔ s.IsNamed (typeInfoSymbolName name) := by
  have shown_as_written {written : String} (named : s.IsNamed (typeInfoSymbolName written)) :
      shownName written.toList = written := by
    refine shownName_of_not_mem fun hash => plain ?_
    rcases named with own | behind
    · simp [own, typeInfoSymbolName, hash]
    · simp [behind, typeInfoSymbolName, hash]
  rw [showsType_iff]
  constructor
  · rintro ⟨written, shown, named⟩
    rwa [← shown, shown_as_written named]
  · intro named
    exact ⟨name, shown_as_written named, named⟩

/-! ## Types of one image -/

/-- The types of a table are its symbols of that kind. -/
theorem SymbolTable.mem_typeInfos_iff {t : SymbolTable} {s : Symbol} :
    s ∈ t.typeInfos ↔ s ∈ t.given ∧ s.kind = .typeInfo := by
  rw [typeInfos, List.mem_filter, mem_byAddress, beq_iff_eq]

namespace Image

variable {i : Image} {tag : UInt64} {name : String} {record : TypeRecord}

/-- An image has the type information that lies at an address. -/
def Knows (i : Image) (tag : UInt64) : Prop :=
  ∃ s ∈ i.symbols.given, s.kind = .typeInfo ∧ s.address + i.bias = tag

/-- An image has no type for a tag exactly if it has no type information there. -/
theorem typeByTag_eq_none_iff : i.typeByTag tag = none ↔ ¬ i.Knows tag := by
  rw [typeByTag, Option.map_eq_none_iff, List.find?_eq_none, Knows]
  simp only [List.mem_reverse, SymbolTable.mem_typeInfos_iff, beq_iff_eq]
  grind

/-- A type found by a tag is recorded under the tag, by the name that a symbol gives to the type
information there. -/
theorem exists_of_typeByTag (h : i.typeByTag tag = some record) :
    ∃ s ∈ i.symbols.given, s.kind = .typeInfo ∧ s.address + i.bias = tag ∧
      record = i.record s.displayName tag := by
  obtain ⟨s, hs, rfl⟩ := Option.map_eq_some_iff.1 h
  obtain ⟨given, kind⟩ :=
    SymbolTable.mem_typeInfos_iff.1 (List.mem_reverse.1 (List.mem_of_find?_eq_some hs))
  have place := List.find?_some hs
  exact ⟨s, given, kind, beq_iff_eq.1 place, rfl⟩

/-- An image has a type of a name exactly if a symbol is shown as that type. -/
theorem isSome_typeByName_iff :
    (i.typeByName name).isSome ↔ ∃ s ∈ i.symbols.given, s.ShowsType name := by
  rw [typeByName, Option.isSome_map, List.find?_isSome]
  simp only [List.mem_reverse, SymbolTable.mem_typeInfos_iff, beq_iff_eq, and_assoc,
    Symbol.ShowsType]

/-- A type found by a name is recorded under the name, and its tag is the highest place of a symbol
that is shown as the type. -/
theorem exists_of_typeByName (h : i.typeByName name = some record) :
    ∃ s ∈ i.symbols.given, s.ShowsType name ∧ record = i.record name (s.address + i.bias) ∧
      ∀ r ∈ i.symbols.given, r.ShowsType name → r.address ≤ s.address := by
  obtain ⟨s, hs, rfl⟩ := Option.map_eq_some_iff.1 h
  obtain ⟨shown, before, after, split, others⟩ := List.find?_eq_some_iff_append.1 hs
  have mem : s ∈ i.symbols.typeInfos := by
    rw [← List.mem_reverse, split]
    exact List.mem_append_right _ List.mem_cons_self
  obtain ⟨given, kind⟩ := SymbolTable.mem_typeInfos_iff.1 mem
  refine ⟨s, given, ⟨kind, beq_iff_eq.1 shown⟩, rfl, fun r hr hshown => ?_⟩
  -- read from the end, no symbol ahead of the one that was found is shown as the type
  have descending : i.symbols.typeInfos.reverse.Pairwise fun a b => b.address ≤ a.address :=
    List.pairwise_reverse.2 (i.symbols.pairwise_byAddress.filter _)
  have listed : r ∈ i.symbols.typeInfos.reverse :=
    List.mem_reverse.2 (SymbolTable.mem_typeInfos_iff.2 ⟨hr, hshown.1⟩)
  rw [split] at listed descending
  rcases List.mem_append.1 listed with ahead | here_or_behind
  · have skipped := others r ahead
    rw [hshown.2, beq_self_eq_true] at skipped
    cases skipped
  · rcases List.mem_cons.1 here_or_behind with rfl | behind
    · exact UInt64.le_refl _
    · exact (List.pairwise_cons.1 (List.pairwise_append.1 descending).2.1).1 r behind

end Image

/-! ## Types of all images -/

namespace ImageTable

variable {t : ImageTable} {tag : UInt64} {name : String} {record : TypeRecord}

/-- A table has no type for a tag exactly if none of its images has type information there. -/
theorem typeByTag_eq_none_iff : t.typeByTag tag = none ↔ ∀ i ∈ t.images, ¬ i.Knows tag := by
  simp only [typeByTag, List.findSome?_eq_none_iff, Image.typeByTag_eq_none_iff]

/-- A type found by a tag is recorded under the tag. -/
theorem tag_of_typeByTag (h : t.typeByTag tag = some record) : record.tag = tag := by
  obtain ⟨i, -, found⟩ := List.exists_of_findSome?_eq_some h
  obtain ⟨s, -, -, -, rfl⟩ := Image.exists_of_typeByTag found
  rfl

/-- A table has a type of a name exactly if a symbol of one of its images is shown as that type. -/
theorem isSome_typeByName_iff :
    (t.typeByName name).isSome ↔ ∃ i ∈ t.images, ∃ s ∈ i.symbols.given, s.ShowsType name := by
  simp only [typeByName, List.findSome?_isSome_iff, Image.isSome_typeByName_iff]

/-- Type information that is shown by different names lies at different addresses in memory. -/
def OneTypePerAddress (t : ImageTable) : Prop :=
  ∀ i ∈ t.images, ∀ r ∈ i.symbols.given, r.kind = .typeInfo →
    ∀ j ∈ t.images, ∀ s ∈ j.symbols.given, s.kind = .typeInfo →
      r.address + i.bias = s.address + j.bias → r.displayName = s.displayName

instance (t : ImageTable) : Decidable t.OneTypePerAddress :=
  inferInstanceAs (Decidable (∀ _ ∈ _, ∀ _ ∈ _, _ → ∀ _ ∈ _, ∀ _ ∈ _, _ → _ → _))

/-- The tag of a type found by name is known. -/
theorem isSome_typeByTag_of_typeByName (h : t.typeByName name = some record) :
    (t.typeByTag record.tag).isSome := by
  obtain ⟨i, mem, found⟩ := List.exists_of_findSome?_eq_some h
  obtain ⟨s, given, shows, rfl, -⟩ := Image.exists_of_typeByName found
  refine Option.isSome_iff_ne_none.2 fun unknown => ?_
  exact typeByTag_eq_none_iff.1 unknown i mem ⟨s, given, shows.1, rfl⟩

/-- Where every address has one type, a type found by name is found again by its tag. -/
theorem typeByTag_of_typeByName (single : t.OneTypePerAddress)
    (h : t.typeByName name = some record) : t.typeByTag record.tag = some record := by
  obtain ⟨before, i, after, split, found, silent⟩ := List.findSome?_eq_some_iff.1 h
  have loaded : ∀ j, j ∈ before ∨ j = i → j ∈ t.images := by
    rintro j (ahead | rfl) <;> rw [split]
    · exact List.mem_append_left _ ahead
    · exact List.mem_append_right _ List.mem_cons_self
  obtain ⟨s, given, shows, rfl, -⟩ := Image.exists_of_typeByName found
  -- all type information at the address is shown by the name
  have shown : ∀ j, j ∈ before ∨ j = i → ∀ r ∈ j.symbols.given, r.kind = .typeInfo →
      r.address + j.bias = s.address + i.bias → r.displayName = name := by
    intro j hj r hr kind same
    rw [single j (loaded j hj) r hr kind i (loaded i (.inr rfl)) s given shows.1 same, shows.2]
  refine List.findSome?_eq_some_iff.2 ⟨before, i, after, split, ?_, fun j ahead => ?_⟩
  · cases known : i.typeByTag (s.address + i.bias) with
    | none => exact absurd ⟨s, given, shows.1, rfl⟩ (Image.typeByTag_eq_none_iff.1 known)
    | some other =>
      obtain ⟨r, hr, kind, same, rfl⟩ := Image.exists_of_typeByTag known
      rw [shown i (.inr rfl) r hr kind same] at known
      exact known
  · -- an image ahead that knows the tag would have the name as well
    refine Image.typeByTag_eq_none_iff.2 fun ⟨r, hr, kind, same⟩ => ?_
    have named := Image.isSome_typeByName_iff.2 ⟨r, hr, kind, shown j (.inl ahead) r hr kind same⟩
    rw [silent j ahead] at named
    cases named

/-- A type found by name is recorded under the name, its tag is known, and where every address has
one type the tag leads back to the same record. A type found by tag is recorded under the tag, and
its name is known. -/
theorem names_and_tags_agree (t : ImageTable) :
    (∀ name record, t.typeByName name = some record →
        record.name = name ∧ (t.typeByTag record.tag).isSome ∧
          (t.OneTypePerAddress → t.typeByTag record.tag = some record)) ∧
      ∀ tag record, t.typeByTag tag = some record →
        record.tag = tag ∧ (t.typeByName record.name).isSome := by
  refine ⟨fun name record h => ⟨?_, isSome_typeByTag_of_typeByName h, fun single => ?_⟩,
    fun tag record h => ⟨tag_of_typeByTag h, ?_⟩⟩
  · obtain ⟨i, -, found⟩ := List.exists_of_findSome?_eq_some h
    obtain ⟨s, -, -, rfl, -⟩ := Image.exists_of_typeByName found
    rfl
  · exact typeByTag_of_typeByName single h
  · obtain ⟨i, mem, found⟩ := List.exists_of_findSome?_eq_some h
    obtain ⟨s, given, kind, -, rfl⟩ := Image.exists_of_typeByTag found
    exact isSome_typeByName_iff.2 ⟨i, mem, s, given, kind, rfl⟩

/-- The first image has a type twice, once behind an underscore, and its bias wraps its addresses
around to where the second image has the same type. -/
theorem names_and_tags_agree_wrapped :
    let app : Image :=
      { name := "app.kexe"
        symbols :=
          ⟨[⟨"_ktype:kotlin.String", 0x12000, 0⟩, ⟨"ktype:kotlin.String", 0x13000, 0⟩], true⟩
        bias := 0xffffffffffff0000 }
    let lib : Image :=
      { name := "lib.so", symbols := ⟨[⟨"ktype:kotlin.String", 0x2000, 0⟩], false⟩ }
    let t := (({} : ImageTable).add app).add lib
    t.OneTypePerAddress ∧ t.typeByName "kotlin.String" = some ⟨"kotlin.String", 0x3000, none⟩ ∧
      t.typeByTag 0x3000 = some ⟨"kotlin.String", 0x3000, none⟩ := by
  intro app lib t
  have single : t.OneTypePerAddress := by decide +kernel
  have order : app.symbols.byAddress = app.symbols.given :=
    List.mergeSort_of_pairwise (by decide)
  have first : app.typeByName "kotlin.String" = some ⟨"kotlin.String", 0x3000, none⟩ := by
    rw [Image.typeByName, SymbolTable.typeInfos, order]
    decide +kernel
  have named : t.typeByName "kotlin.String" = some ⟨"kotlin.String", 0x3000, none⟩ :=
    List.findSome?_eq_some_iff.2 ⟨[], app, [lib], rfl, first, by simp⟩
  exact ⟨single, named, ((names_and_tags_agree t).1 _ _ named).2.2 single⟩

/-! ### By name and by symbol -/

/-- No symbol that is shown as a type, or that goes by its linker name, has a hash in its own. -/
def Verbatim (t : ImageTable) (name : String) : Prop :=
  ∀ i ∈ t.images, ∀ s ∈ i.symbols.given,
    s.ShowsType name ∨ s.IsNamed (typeInfoSymbolName name) → '#' ∉ s.name.toList

instance (t : ImageTable) (name : String) : Decidable (t.Verbatim name) :=
  inferInstanceAs (Decidable (∀ _ ∈ _, ∀ _ ∈ _, _ ∨ _ → _))

/-- Where names are verbatim, a symbol shows a type exactly if it has the type's symbol name. -/
theorem Verbatim.showsType_iff (verbatim : t.Verbatim name) {i : Image} (mem : i ∈ t.images)
    {s : Symbol} (given : s ∈ i.symbols.given) :
    s.ShowsType name ↔ s.IsNamed (typeInfoSymbolName name) := by
  constructor
  · intro shows
    exact (Symbol.showsType_iff_isNamed (verbatim i mem s given (.inl shows))).1 shows
  · intro named
    exact (Symbol.showsType_iff_isNamed (verbatim i mem s given (.inr named))).2 named

end ImageTable

end HeapScope
