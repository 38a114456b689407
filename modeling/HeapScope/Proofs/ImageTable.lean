import HeapScope.Image
import HeapScope.Proofs.Removal

/-!
# Image tables by name and by symbol

Two views of an image table. By name, a table is the biases of the images of each name: adding an
image settles its own name, taking a name out empties it, and no other name is touched. By symbol,
it is the first image in load order that resolves the symbol. No image has the name of another, so
what is found under an image's name is found in that image.
-/

namespace HeapScope.ImageTable

/-- What is taken out is told by whether the name was there. -/
theorem remove_eq (t : ImageTable) (name : String) :
    t.remove name = (t.contains name, t.without name) := by
  rw [remove, without, length_bne_length_filter, contains]

/-- Leaving out a name that no image has changes nothing. -/
theorem without_eq_self {t : ImageTable} {name : String} (h : t.contains name = false) :
    t.without name = t := by
  refine ImageTable.ext (List.filter_eq_self.2 fun i hi => ?_)
  have hne := List.any_eq_false.1 h i hi
  simpa using hne

/-! ## Biases by name -/

/-- The biases of the images of a name. -/
def biases (t : ImageTable) (name : String) : List UInt64 :=
  (t.images.filter fun i => i.name == name).map (·.bias)

/-- No image has a name that was left out. -/
theorem biases_without_self (t : ImageTable) (name : String) :
    (t.without name).biases name = [] := by
  simp [biases, without, List.filter_filter]

/-- Leaving a name out does not touch any other name. -/
theorem biases_without_of_ne (t : ImageTable) {name other : String} (h : name ≠ other) :
    (t.without name).biases other = t.biases other := by
  have same : ∀ i : Image, ((i.name == other) && (i.name != name)) = (i.name == other) := by
    intro i
    by_cases hi : i.name = other
    · simp [hi, Ne.symm h]
    · simp [hi]
  simp only [biases, without, List.filter_filter, same]

/-- An image that is added is the only one of its name. -/
theorem biases_add_self (t : ImageTable) (i : Image) : (t.add i).biases i.name = [i.bias] := by
  have others : (t.without i.name).images.filter (fun j => j.name == i.name) = [] := by
    refine List.filter_eq_nil_iff.2 fun j hj => ?_
    have hne := (List.mem_filter.1 hj).2
    simpa using hne
  simp [biases, add, List.filter_append, others]

/-- Adding an image leaves every other name alone. -/
theorem biases_add_of_ne (t : ImageTable) {i : Image} {name : String} (h : i.name ≠ name) :
    (t.add i).biases name = t.biases name := by
  rw [← biases_without_of_ne t h]
  simp [biases, add, List.filter_append, h]

/-! ## Images by symbol -/

/-- An image resolves a symbol and, in load order, `before` are the images ahead of it, which do
not. -/
structure FirstWith (t : ImageTable) (symbol : String) (before : List Image) (i : Image) :
    Prop where
  ahead : before ++ [i] <+: t.images
  resolves : (i.resolve symbol).isSome
  first : ∀ j ∈ before, j.resolve symbol = none

/-- A symbol is found unless no image resolves it. -/
theorem findSymbol_eq_none_iff {t : ImageTable} {symbol : String} :
    t.findSymbol symbol = none ↔ ∀ i ∈ t.images, i.resolve symbol = none := by
  simp [findSymbol, List.findSome?_eq_none_iff]

/-- What is found of a symbol is what an image resolves it to, under the name of that image. -/
theorem exists_of_findSymbol {t : ImageTable} {symbol : String} {l : SymbolLocation}
    (h : t.findSymbol symbol = some l) :
    ∃ i ∈ t.images, i.name = l.image ∧ i.resolve symbol = some l.address := by
  obtain ⟨i, hi, hl⟩ := List.exists_of_findSome?_eq_some h
  obtain ⟨a, ha, rfl⟩ := Option.map_eq_some_iff.1 hl
  exact ⟨i, hi, rfl, ha⟩

/-- No image behind others has the name of one of them. -/
theorem name_ne_of_ahead {t : ImageTable} {before : List Image} {i j : Image}
    (ahead : before ++ [i] <+: t.images) (hj : j ∈ before) : j.name ≠ i.name := by
  have distinct := t.distinct.sublist ahead.sublist
  exact (List.pairwise_append.1 distinct).2.2 j hj i (List.mem_singleton_self i)

/-- Two images of one name are one. -/
theorem eq_of_name_eq {t : ImageTable} {i j : Image} (hi : i ∈ t.images) (hj : j ∈ t.images)
    (h : i.name = j.name) : i = j := by
  have : Std.Symm fun i j : Image => i.name ≠ j.name := ⟨fun _ _ hne => hne.symm⟩
  by_contra hne
  exact t.distinct.forall hi hj hne h

/-- A symbol that no image ahead of another resolves is looked up from that image on. -/
theorem findSymbol_of_ahead {t : ImageTable} {symbol : String} {before : List Image} {i : Image}
    (ahead : before ++ [i] <+: t.images) (none_ahead : ∀ j ∈ before, j.resolve symbol = none)
    {a : UInt64} (ha : i.resolve symbol = some a) : t.findSymbol symbol = some ⟨i.name, a⟩ := by
  obtain ⟨after, hsplit⟩ := ahead
  have skipped : before.findSome? (fun j => (j.resolve symbol).map fun b =>
      (⟨j.name, b⟩ : SymbolLocation)) = none :=
    List.findSome?_eq_none_iff.2 fun j hj => by rw [none_ahead j hj]; rfl
  rw [findSymbol, ← hsplit, List.append_assoc, List.findSome?_append, skipped]
  simp [ha]

/-- A symbol found ahead of an image is not found in it. -/
theorem findSymbol_of_shadowed {t : ImageTable} {symbol : String} {before : List Image}
    {i : Image} (ahead : before ++ [i] <+: t.images)
    (shadowed : ∃ j ∈ before, (j.resolve symbol).isSome) :
    ∃ l, t.findSymbol symbol = some l ∧ l.image ≠ i.name := by
  obtain ⟨after, hsplit⟩ := ahead
  obtain ⟨j, hj, hsome⟩ := shadowed
  -- the lookup ends among the images ahead, which have other names
  obtain ⟨l, hl⟩ : ∃ l, before.findSome? (fun j => (j.resolve symbol).map fun b =>
      (⟨j.name, b⟩ : SymbolLocation)) = some l := by
    refine Option.isSome_iff_exists.1 (List.findSome?_isSome_iff.2 ⟨j, hj, ?_⟩)
    rw [Option.isSome_map, hsome]
  obtain ⟨k, hk, hkl⟩ := List.exists_of_findSome?_eq_some hl
  obtain ⟨b, hb, rfl⟩ := Option.map_eq_some_iff.1 hkl
  refine ⟨⟨k.name, b⟩, ?_, name_ne_of_ahead ⟨after, hsplit⟩ hk⟩
  rw [findSymbol, ← hsplit, List.append_assoc, List.findSome?_append, hl]
  rfl

/-- What is found of a symbol under the name of an image is what the image resolves it to, unless an
image ahead of it resolves the symbol. -/
theorem findSymbol_filter_name {t : ImageTable} (symbol : String) {before : List Image}
    {i : Image} (ahead : before ++ [i] <+: t.images) :
    ((t.findSymbol symbol).filter fun l => l.image == i.name).map (·.address) =
      if ∃ j ∈ before, (j.resolve symbol).isSome then none else i.resolve symbol := by
  split
  · rename_i shadowed
    obtain ⟨l, hl, hne⟩ := findSymbol_of_shadowed ahead shadowed
    simp [hl, hne]
  · rename_i clear
    have none_ahead : ∀ j ∈ before, j.resolve symbol = none := by
      intro j hj
      by_contra hsome
      exact clear ⟨j, hj, Option.isSome_iff_ne_none.2 hsome⟩
    cases hi : i.resolve symbol with
    | some a =>
      rw [findSymbol_of_ahead ahead none_ahead hi, Option.filter_some, if_pos (beq_self_eq_true _)]
      rfl
    | none =>
      -- what is found lies in an image behind, which has another name
      cases hl : t.findSymbol symbol with
      | none => rfl
      | some l =>
        obtain ⟨j, hj, hname, ha⟩ := exists_of_findSymbol hl
        have hne : l.image ≠ i.name := by
          intro heq
          have hmem : i ∈ t.images := ahead.subset (by simp)
          rw [eq_of_name_eq hj hmem (hname.trans heq), hi] at ha
          cases ha
        simp [hne]

end HeapScope.ImageTable
