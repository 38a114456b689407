import HeapScope.Memory.Mapping
import Mathlib.Data.String.Basic
import Mathlib.Data.List.Induction

/-!
# The images of a list of mappings

A file is mapped in several parts, and each part gives a base of its own. The images are put
together mapping by mapping: each goes to its place by path, unless its path is there already. The
mappings may come in any order, and those of one file need not stand together.

A list of images is thus read as a map from paths to images. `imageAt_insertImage` says what is
found at a path after one insertion, and `imageAt_images` what is found there in the end: the image
that the first mapping of the path gives. Mappings of other paths do not occur in that answer, which
is why none of them can change it.
-/

namespace HeapScope.Mapping

/-- Images in the order of their paths, no path twice. -/
def Ascending (is : List MappedImage) : Prop :=
  is.Pairwise fun i j => i.path < j.path

/-- The image of a path. -/
def imageAt (path : String) (is : List MappedImage) : Option MappedImage :=
  is.find? fun i => i.path == path

/-- The mappings of a path, in their order. -/
def ofPath (path : String) (ms : List Mapping) : List Mapping :=
  ms.filter fun m => m.path == some path

variable {is : List MappedImage} {path : String}

/-! ## One image more -/

/-- An insertion adds one image at most. -/
theorem eq_or_mem_of_mem_insertImage {i j : MappedImage} (h : j ∈ insertImage i is) :
    j = i ∨ j ∈ is := by
  induction is with
  | nil => exact .inl (List.mem_singleton.1 h)
  | cons k rest ih =>
    rw [insertImage] at h
    split at h
    · exact List.mem_cons.1 h
    · split at h
      · exact .inr h
      · rcases List.mem_cons.1 h with rfl | behind
        · exact .inr List.mem_cons_self
        · exact (ih behind).imp_right (List.mem_cons_of_mem k)

/-- An image is put where the order wants it. -/
theorem Ascending.insertImage (h : Ascending is) (i : MappedImage) :
    Ascending (insertImage i is) := by
  induction is with
  | nil => exact List.pairwise_singleton _ _
  | cons j rest ih =>
    obtain ⟨below, sorted⟩ := List.pairwise_cons.1 h
    rw [Mapping.insertImage]
    split
    case isTrue ahead =>
      refine List.pairwise_cons.2 ⟨fun k hk => ?_, h⟩
      rcases List.mem_cons.1 hk with rfl | behind
      · exact ahead
      · exact ahead.trans (below k behind)
    case isFalse notAhead =>
      split
      case isTrue => exact h
      case isFalse other =>
        refine List.pairwise_cons.2 ⟨fun k hk => ?_, ih sorted⟩
        rcases eq_or_mem_of_mem_insertImage hk with rfl | old
        · exact lt_of_le_of_ne (not_lt.1 notAhead) (Ne.symm other)
        · exact below k old

/-- Below the first path nothing is found. -/
theorem imageAt_eq_none_of_lt (below : ∀ i ∈ is, path < i.path) : imageAt path is = none := by
  rw [imageAt, List.find?_eq_none]
  intro i hi same
  exact (below i hi).ne (beq_iff_eq.1 same).symm

/-- The first image is found at its own path only. -/
theorem imageAt_cons (i : MappedImage) :
    imageAt path (i :: is) = if i.path = path then some i else imageAt path is := by
  unfold imageAt
  rw [List.find?_cons]
  by_cases same : i.path = path
  · rw [if_pos same, beq_iff_eq.2 same]
  · rw [if_neg same, beq_eq_false_iff_ne.2 same]

/-- An insertion fills a path that has no image, and changes nothing at any other. -/
theorem imageAt_insertImage (h : Ascending is) (i : MappedImage) :
    imageAt path (insertImage i is) =
      if i.path = path then (imageAt path is).or (some i) else imageAt path is := by
  induction is with
  | nil => rw [insertImage, imageAt_cons]; rfl
  | cons j rest ih =>
    obtain ⟨below, sorted⟩ := List.pairwise_cons.1 h
    rw [insertImage]
    split
    case isTrue ahead =>
      rw [imageAt_cons i]
      by_cases same : i.path = path
      · -- the path is not there yet, as all paths are greater
        have absent : imageAt path (j :: rest) = none := by
          refine imageAt_eq_none_of_lt fun k hk => ?_
          rcases List.mem_cons.1 hk with rfl | behind
          · exact same ▸ ahead
          · exact same ▸ ahead.trans (below k behind)
        rw [if_pos same, if_pos same, absent, Option.none_or]
      · rw [if_neg same, if_neg same]
    case isFalse notAhead =>
      split
      case isTrue twice =>
        by_cases same : i.path = path
        · rw [if_pos same, imageAt_cons, if_pos (twice ▸ same), Option.some_or]
        · rw [if_neg same]
      case isFalse other =>
        rw [imageAt_cons, imageAt_cons j, ih sorted]
        by_cases first : j.path = path
        · rw [if_pos first, if_pos first, if_neg fun same => other (same.trans first.symm)]
        · rw [if_neg first, if_neg first]

/-! ## All mappings -/

/-- One more mapping inserts its image, if it has a path. -/
theorem images_append_singleton (ms : List Mapping) (m : Mapping) :
    images (ms ++ [m]) =
      match m.path with
      | some path => insertImage ⟨path, m.base⟩ (images ms)
      | none => images ms := by
  rw [images, List.foldl_append]
  rfl

/-- The images stand in the order of their paths, no two at one. -/
theorem ascending_images (ms : List Mapping) : Ascending (images ms) := by
  induction ms using List.reverseRecOn with
  | nil => exact List.Pairwise.nil
  | append_singleton ms m ih =>
    rw [images_append_singleton]
    split
    · exact ih.insertImage _
    · exact ih

/-- At a path stands the image that its first mapping gives. -/
theorem imageAt_images (ms : List Mapping) :
    imageAt path (images ms) = (ofPath path ms).head?.map fun m => ⟨path, m.base⟩ := by
  induction ms using List.reverseRecOn with
  | nil => rfl
  | append_singleton ms m ih =>
    rw [images_append_singleton, ofPath, List.filter_append, ← ofPath, List.head?_append,
      Option.map_or, ← ih]
    cases named : m.path with
    | none => simp [named]
    | some other =>
      dsimp only
      rw [imageAt_insertImage (ascending_images ms)]
      by_cases same : other = path
      · simp [named, same]
      · simp [named, same]

/-- In that order, what is found at a path is the image that has it. -/
theorem imageAt_eq_some_iff (h : Ascending is) {i : MappedImage} :
    imageAt path is = some i ↔ i ∈ is ∧ i.path = path := by
  constructor
  · intro found
    unfold imageAt at found
    have same := List.find?_some found
    exact ⟨List.mem_of_find?_eq_some found, eq_of_beq same⟩
  · rintro ⟨mem, rfl⟩
    induction is with
    | nil => cases mem
    | cons j rest ih =>
      obtain ⟨below, sorted⟩ := List.pairwise_cons.1 h
      rw [imageAt_cons]
      rcases List.mem_cons.1 mem with rfl | behind
      · exact if_pos rfl
      · rw [if_neg (below i behind).ne]
        exact ih sorted behind

/-- The base is the start less the offset, or zero if that would be below. -/
theorem toNat_base (m : Mapping) : m.base.toNat = m.start.toNat - m.offset.toNat := by
  unfold base
  split
  case isTrue within => exact UInt64.toNat_sub_of_le _ _ within
  case isFalse beyond =>
    have : m.start.toNat < m.offset.toNat := by
      rw [← UInt64.lt_iff_toNat_lt]
      exact UInt64.not_le.1 beyond
    show 0 = _
    omega

/-- The images of mappings are in strictly ascending order of their paths, so that no path is there
twice. A path is there exactly if it is mapped. The base of an image is the start of the first
mapping of its path less the offset, or zero if the offset is greater. Two lists with the same
mappings of a path have the same image there, whatever other mappings they hold and in whatever
places these stand. -/
theorem images_first_of_path (ms : List Mapping) :
    (images ms).Pairwise (fun i j => i.path < j.path) ∧
      (images ms).Pairwise (fun i j => i.path ≠ j.path) ∧
      (∀ path, (∃ i ∈ images ms, i.path = path) ↔ ∃ m ∈ ms, m.path = some path) ∧
      (∀ i ∈ images ms, ∃ m, ms.find? (fun m => m.path == some i.path) = some m ∧
        i.base.toNat = m.start.toNat - m.offset.toNat) ∧
      ∀ (path : String) (others : List Mapping), ofPath path others = ofPath path ms →
        ∀ i : MappedImage, i.path = path → (i ∈ images others ↔ i ∈ images ms) := by
  have ascending := ascending_images ms
  refine ⟨ascending, ascending.imp fun below => below.ne, fun path => ?_, fun i hi => ?_,
    fun path others same i named => ?_⟩
  · have mapped : (∃ i ∈ images ms, i.path = path) ↔ (ofPath path ms).head?.isSome := by
      rw [← Option.isSome_map (f := fun m : Mapping => (⟨path, m.base⟩ : MappedImage)),
        ← imageAt_images, Option.isSome_iff_exists]
      exact exists_congr fun i => (imageAt_eq_some_iff ascending).symm
    rw [mapped, ofPath, List.head?_filter, List.find?_isSome]
    simp
  · have found := (imageAt_eq_some_iff ascending).2 ⟨hi, rfl⟩
    rw [imageAt_images, ofPath, List.head?_filter] at found
    obtain ⟨m, first, made⟩ := Option.map_eq_some_iff.1 found
    refine ⟨m, first, ?_⟩
    rw [← made]
    exact m.toNat_base
  · rw [← and_iff_left named (a := i ∈ images others), ← and_iff_left named (a := i ∈ images ms),
      ← imageAt_eq_some_iff (ascending_images others), ← imageAt_eq_some_iff ascending,
      imageAt_images, imageAt_images, same]

/-- A program and a library, each mapped in two parts with other mappings between them. The
library's base is taken from the part listed first, though its other part lies below. Without the
library and the stack, and with another library in front, the program keeps its image. -/
theorem images_first_of_path_interleaved :
    let part (start offset : UInt64) (path : Option String) : Mapping :=
      ⟨start, start + 0x1000, true, false, false, offset, path⟩
    let app := some "/opt/app.kexe"
    let ms := [part 0x401000 0x1000 app, part 0x7ffd0000 0 none,
      part 0x7f0000000000 0 (some "/lib/libc.so.6"), part 0x400000 0 app,
      part 0x1000 0x7000 (some "/lib/libc.so.6")]
    let others := [part 0x3000 0x4000 (some "/lib/ld.so"), part 0x401000 0x1000 app,
      part 0x400000 0 app]
    images ms = [⟨"/lib/libc.so.6", 0x7f0000000000⟩, ⟨"/opt/app.kexe", 0x400000⟩] ∧
      ofPath "/opt/app.kexe" others = ofPath "/opt/app.kexe" ms ∧
      (∃ m, ms.find? (fun m => m.path == app) = some m ∧
        (0x400000 : UInt64).toNat = m.start.toNat - m.offset.toNat) ∧
      (⟨"/opt/app.kexe", 0x400000⟩ : MappedImage) ∈ images others := by
  intro part app ms others
  have made : images ms = [⟨"/lib/libc.so.6", 0x7f0000000000⟩, ⟨"/opt/app.kexe", 0x400000⟩] := by
    decide +kernel
  have program : (⟨"/opt/app.kexe", 0x400000⟩ : MappedImage) ∈ images ms := by
    rw [made]
    exact List.mem_cons_of_mem _ List.mem_cons_self
  have same : ofPath "/opt/app.kexe" others = ofPath "/opt/app.kexe" ms := by decide +kernel
  obtain ⟨-, -, -, first, unchanged⟩ := images_first_of_path ms
  exact ⟨made, same, first _ program, (unchanged _ others same _ rfl).2 program⟩

end HeapScope.Mapping
