import HeapScope.Proofs.Session.History
import Mathlib.Data.List.Induction

/-!
# Images in line with the mappings

Synchronising is meant to leave one image for each mapped path, placed at the base of its mapping.
It loads only the mappings it has no record of, so what it leaves at a path depends on what was done
there since the record was made.

`biases_sync_iff` says when it succeeds, over all histories: always, unless the mapping has been
followed since an earlier synchronisation and the image at its path was meanwhile taken out, or
replaced by one of another bias, and not put back.

## Shape of the argument

* `Since` speaks of histories: something happened, and only certain calls came after it. `Followed`
  and `Displaced` are such conditions, and `since_append_singleton` extends them call by call.
* `mem_recorded_sync`, `biases_sync_of_recorded` and `biases_sync_of_new` say what synchronising
  does to the records and to the images of one path.
* `followed_iff` and `displaced_iff` tie the conditions on histories to the session, by induction on
  the history from its end.
-/

namespace HeapScope.Session

/-! ## Conditions on histories -/

namespace Call

/-- The mappings of a process and a loader that can be relied on: no path is mapped twice, and each
mapping loads as an image of that path with the base as its bias. Other calls are free. -/
def Faithful : Call → Prop
  | .sync mapped load =>
    (mapped.Pairwise fun m n => m.path ≠ n.path) ∧
      ∀ m ∈ mapped, ∃ i, load m = some i ∧ i.name = m.path ∧ i.bias = m.base
  | _ => True

/-- The call synchronises with mappings that include a given one. -/
def Maps (m : MappedImage) : Call → Prop
  | .sync mapped _ => m ∈ mapped
  | _ => False

/-- The call does not synchronise with mappings that lack a given one. -/
def Keeps (m : MappedImage) : Call → Prop
  | .sync mapped _ => m ∈ mapped
  | _ => True

/-- The call takes the image of a mapping out or puts one of another bias in its place. -/
def Displaces (m : MappedImage) : Call → Prop
  | .add i => i.name = m.path ∧ i.bias ≠ m.base
  | .remove name => name = m.path
  | _ => False

/-- The call adds the image of a mapping with the right bias. -/
def Restores (m : MappedImage) : Call → Prop
  | .add i => i.name = m.path ∧ i.bias = m.base
  | _ => False

end Call

/-- At some call of a history something held of that call and what came before it, and each later
call is one of a certain kind. -/
def Since (start : List Call → Call → Prop) (kept : Call → Prop) (history : List Call) : Prop :=
  ∃ before c after, history = before ++ c :: after ∧ start before c ∧ ∀ d ∈ after, kept d

/-- A mapping was synchronised with, and no later synchronisation lacks it. -/
def Followed (m : MappedImage) : List Call → Prop :=
  Since (fun _ c => c.Maps m) (Call.Keeps m)

/-- While a mapping was followed, its image was displaced, and it was not restored since. -/
def Displaced (m : MappedImage) : List Call → Prop :=
  Since (fun before c => Followed m before ∧ c.Displaces m)
    fun d => d.Keeps m ∧ ¬ d.Restores m

/-- Nothing has happened since a call in an empty history. -/
theorem not_since_nil {start : List Call → Call → Prop} {kept : Call → Prop} :
    ¬ Since start kept [] := by
  rintro ⟨before, c, after, h, -, -⟩
  simp at h

/-- With one more call, either that call starts the condition, or it held before and the call keeps
it. -/
theorem since_append_singleton {start : List Call → Call → Prop} {kept : Call → Prop}
    {history : List Call} {c : Call} :
    Since start kept (history ++ [c]) ↔
      start history c ∨ (Since start kept history ∧ kept c) := by
  constructor
  · rintro ⟨before, d, after, h, hstart, hkept⟩
    rcases List.eq_nil_or_concat after with rfl | ⟨rest, last, rfl⟩
    · obtain ⟨rfl, hd⟩ := List.append_inj' h rfl
      cases hd
      exact .inl hstart
    · have h' : history ++ [c] = (before ++ d :: rest) ++ [last] := by simpa using h
      obtain ⟨rfl, hlast⟩ := List.append_inj' h' rfl
      cases hlast
      exact .inr ⟨⟨before, d, rest, rfl, hstart, fun e he => hkept e (by simp [he])⟩,
        hkept c (by simp)⟩
  · rintro (hstart | ⟨⟨before, d, after, rfl, hstart, hkept⟩, hc⟩)
    · exact ⟨history, c, [], rfl, hstart, by simp⟩
    · refine ⟨before, d, after ++ [c], by simp, hstart, fun e he => ?_⟩
      rcases List.mem_append.1 he with he | he
      · exact hkept e he
      · rw [List.mem_singleton.1 he]
        exact hc

/-! ## Records -/

/-- No two of some mapped images have one path. -/
def OnePerPath (l : List MappedImage) : Prop := ∀ m ∈ l, ∀ n ∈ l, m.path = n.path → m = n

/-- If no two mappings have one path, there is one for each path. -/
theorem onePerPath_of_pairwise {l : List MappedImage}
    (h : l.Pairwise fun m n => m.path ≠ n.path) : OnePerPath l := by
  intro m hm n hn heq
  have : Std.Symm fun m n : MappedImage => m.path ≠ n.path := ⟨fun _ _ hne => hne.symm⟩
  by_contra hne
  exact h.forall hm hn hne heq

/-- Where paths are mapped once, a record describes the mappings if it is one of them. -/
theorem isCurrent_iff {mapped : List MappedImage} (h : OnePerPath mapped) (m : MappedImage) :
    isCurrent mapped m = true ↔ m ∈ mapped := by
  have found : ∀ n, mapped.reverse.find? (fun n => n.path == m.path) = some n →
      n ∈ mapped ∧ n.path = m.path := fun n hn =>
    ⟨List.mem_reverse.1 (List.mem_of_find?_eq_some hn), by simpa using List.find?_some hn⟩
  rw [isCurrent, baseOf, beq_iff_eq, Option.map_eq_some_iff]
  constructor
  · rintro ⟨n, hn, hbase⟩
    obtain ⟨hmem, hpath⟩ := found n hn
    have hnm : n = m := by
      cases n
      cases m
      cases hpath
      cases hbase
      rfl
    exact hnm ▸ hmem
  · intro hm
    have hsome : (mapped.reverse.find? fun n => n.path == m.path).isSome :=
      List.find?_isSome.2 ⟨m, List.mem_reverse.2 hm, beq_self_eq_true _⟩
    obtain ⟨n, hn⟩ := Option.isSome_iff_exists.1 hsome
    obtain ⟨hmem, hpath⟩ := found n hn
    exact ⟨n, hn, by rw [h n hmem m hm hpath]⟩

/-- A path is recorded if one of the records has it. -/
theorem isRecorded_iff {s : Session} {path : String} :
    s.isRecorded path = true ↔ ∃ m ∈ s.recorded, m.path = path := by
  simp [isRecorded]

/-! ## What synchronising does at one path -/

/-- The records that are left describe the mappings. -/
theorem recorded_dropStale (s : Session) (mapped : List MappedImage) :
    (s.dropStale mapped).1.recorded = s.recorded.filter (isCurrent mapped) := by
  unfold dropStale
  exact List.foldlRecOn (motive := fun r : Session × ImageChanges =>
    r.1.recorded = s.recorded.filter (isCurrent mapped)) _ _ rfl fun r h m _ => h

/-- Images whose records all describe the mappings stay. -/
theorem biases_dropStale {s : Session} {mapped : List MappedImage} {path : String}
    (h : ∀ m ∈ s.recorded, m.path = path → isCurrent mapped m = true) :
    (s.dropStale mapped).1.images.biases path = s.images.biases path := by
  unfold dropStale
  refine List.foldlRecOn (motive := fun r : Session × ImageChanges =>
    r.1.images.biases path = s.images.biases path) _ _ rfl fun r hr m hm => ?_
  obtain ⟨hmem, hstale⟩ := List.mem_filter.1 hm
  have hne : m.path ≠ path := by
    intro heq
    simp [h m hmem heq] at hstale
  exact (ImageTable.biases_without_of_ne _ hne).trans hr

/-- A mapping is recorded when it comes up, whether or not it loads, unless its path is. -/
theorem recorded_loadMapped (load : MappedImage → Option Image) (s : Session) (c : ImageChanges)
    (m : MappedImage) :
    (loadMapped load s c m).1.recorded =
      if s.isRecorded m.path then s.recorded else s.recorded ++ [m] := by
  unfold loadMapped
  split
  · rfl
  · cases load m <;> rfl

/-- After a mapping came up its path is recorded. -/
theorem isRecorded_loadMapped (load : MappedImage → Option Image) (s : Session) (c : ImageChanges)
    (m : MappedImage) (path : String) :
    (loadMapped load s c m).1.isRecorded path = (s.isRecorded path || m.path == path) := by
  rw [isRecorded, recorded_loadMapped]
  cases h : s.isRecorded m.path with
  | true =>
    by_cases hpath : m.path = path
    · subst hpath
      simpa [isRecorded] using h
    · simp [isRecorded, hpath]
  | false => simp [isRecorded]

/-- The images of a recorded path stay while a mapping comes up. -/
theorem biases_loadMapped_of_recorded {load : MappedImage → Option Image} {s : Session}
    {m : MappedImage} (hload : ∀ i, load m = some i → i.name = m.path) {path : String}
    (h : s.isRecorded path = true) (c : ImageChanges) :
    (loadMapped load s c m).1.images.biases path = s.images.biases path := by
  unfold loadMapped
  split
  · rfl
  · rename_i unrecorded
    cases hi : load m with
    | none => rfl
    | some i =>
      have hne : i.name ≠ path := by
        rintro rfl
        rw [hload i hi] at h
        exact unrecorded h
      exact ImageTable.biases_add_of_ne _ hne

/-- A mapping whose path is not recorded is placed at its base. -/
theorem biases_loadMapped_self {load : MappedImage → Option Image} {s : Session}
    {m : MappedImage} (h : s.isRecorded m.path = false) {i : Image} (hi : load m = some i)
    (hname : i.name = m.path) (hbias : i.bias = m.base) (c : ImageChanges) :
    (loadMapped load s c m).1.images.biases m.path = [m.base] := by
  have added : (loadMapped load s c m).1.images = s.images.add i := by
    simp [loadMapped, h, hi]
  rw [added, ← hname, ImageTable.biases_add_self, hbias]

/-- The session after loading mapped images one by one. -/
def loadAll (load : MappedImage → Option Image) (mapped : List MappedImage)
    (r : Session × ImageChanges) : Session :=
  (mapped.foldl (fun r m => loadMapped load r.1 r.2 m) r).1

section Loading

variable {load : MappedImage → Option Image} {mapped : List MappedImage}

/-- Loading records a mapping if its path was not recorded. -/
theorem mem_recorded_loadAll (distinct : mapped.Pairwise fun m n => m.path ≠ n.path)
    (r : Session × ImageChanges) (n : MappedImage) :
    n ∈ (loadAll load mapped r).recorded ↔
      n ∈ r.1.recorded ∨ (n ∈ mapped ∧ r.1.isRecorded n.path = false) := by
  induction mapped generalizing r with
  | nil => simp [loadAll]
  | cons m rest ih =>
    obtain ⟨hne, distinct⟩ := List.pairwise_cons.1 distinct
    -- the paths of the rest are not the path that comes up first
    have rest_iff : (n ∈ rest ∧ (loadMapped load r.1 r.2 m).1.isRecorded n.path = false) ↔
        n ∈ rest ∧ r.1.isRecorded n.path = false := by
      rw [isRecorded_loadMapped]
      refine and_congr_right fun hn => ?_
      simp [hne n hn]
    have first_iff : n ∈ (loadMapped load r.1 r.2 m).1.recorded ↔
        n ∈ r.1.recorded ∨ (n = m ∧ r.1.isRecorded n.path = false) := by
      rw [recorded_loadMapped]
      split
      · rename_i hm
        have never : ¬ (n = m ∧ r.1.isRecorded n.path = false) := by
          rintro ⟨rfl, hn⟩
          rw [hm] at hn
          cases hn
        simp [never]
      · rename_i hm
        rw [List.mem_append, List.mem_singleton]
        refine or_congr_right (iff_self_and.2 ?_)
        rintro rfl
        exact Bool.eq_false_iff.2 hm
    rw [loadAll, List.foldl_cons, ← loadAll, ih distinct, rest_iff, first_iff, List.mem_cons,
      or_and_right, or_assoc]

/-- Loading leaves the images of a recorded path alone. -/
theorem biases_loadAll_of_recorded
    (hload : ∀ m ∈ mapped, ∃ i, load m = some i ∧ i.name = m.path ∧ i.bias = m.base)
    {r : Session × ImageChanges} {path : String} (h : r.1.isRecorded path = true) :
    (loadAll load mapped r).images.biases path = r.1.images.biases path := by
  refine (List.foldlRecOn (motive := fun q : Session × ImageChanges =>
    q.1.isRecorded path = true ∧ q.1.images.biases path = r.1.images.biases path)
    mapped _ ⟨h, rfl⟩ fun q hq m hm => ?_).2
  obtain ⟨hrec, hbias⟩ := hq
  obtain ⟨i, hi, hname, -⟩ := hload m hm
  have names : ∀ j, load m = some j → j.name = m.path := fun j hj =>
    Option.some.inj (hi.symm.trans hj) ▸ hname
  constructor
  · rw [isRecorded_loadMapped, hrec, Bool.true_or]
  · exact (biases_loadMapped_of_recorded names hrec q.2).trans hbias

/-- Loading places the image of a path that was not recorded at the base of its mapping. -/
theorem biases_loadAll_of_new
    (hload : ∀ m ∈ mapped, ∃ i, load m = some i ∧ i.name = m.path ∧ i.bias = m.base)
    (distinct : mapped.Pairwise fun m n => m.path ≠ n.path) {r : Session × ImageChanges}
    {n : MappedImage} (hn : n ∈ mapped) (h : r.1.isRecorded n.path = false) :
    (loadAll load mapped r).images.biases n.path = [n.base] := by
  induction mapped generalizing r with
  | nil => cases hn
  | cons m rest ih =>
    obtain ⟨hne, distinct⟩ := List.pairwise_cons.1 distinct
    have hrest := fun k hk => hload k (List.mem_cons_of_mem m hk)
    rw [loadAll, List.foldl_cons, ← loadAll]
    rcases List.mem_cons.1 hn with rfl | hn
    · -- the mapping is loaded now, and from here on its path is recorded
      obtain ⟨i, hi, hname, hbias⟩ := hload n List.mem_cons_self
      have hrec : (loadMapped load r.1 r.2 n).1.isRecorded n.path = true := by
        rw [isRecorded_loadMapped, beq_self_eq_true, Bool.or_true]
      rw [biases_loadAll_of_recorded hrest hrec, biases_loadMapped_self h hi hname hbias]
    · refine ih hrest distinct hn ?_
      rw [isRecorded_loadMapped, h, Bool.false_or]
      exact beq_eq_false_iff_ne.2 (hne n hn)

end Loading

/-- Synchronising drops, loads, and then only resolves the breakpoint. -/
theorem images_syncImages (s : Session) (mapped : List MappedImage)
    (load : MappedImage → Option Image) :
    (s.syncImages mapped load).1.images = (loadAll load mapped (s.dropStale mapped)).images := by
  rw [syncImages_fst]
  dsimp only
  split
  · rfl
  · exact images_refreshBreakpoint _

/-- Resolving the breakpoint anew does not touch the records. -/
theorem recorded_syncImages (s : Session) (mapped : List MappedImage)
    (load : MappedImage → Option Image) :
    (s.syncImages mapped load).1.recorded =
      (loadAll load mapped (s.dropStale mapped)).recorded := by
  rw [syncImages_fst]
  dsimp only
  split
  · rfl
  · exact recorded_refreshBreakpoint _

section Sync

variable {s : Session} {mapped : List MappedImage} {load : MappedImage → Option Image}

/-- A mapping's path is recorded after stale records are dropped only if the mapping itself was. -/
theorem isRecorded_dropStale_iff (h : OnePerPath mapped) {n : MappedImage} (hn : n ∈ mapped) :
    (s.dropStale mapped).1.isRecorded n.path = true ↔ n ∈ s.recorded := by
  rw [isRecorded_iff, recorded_dropStale]
  constructor
  · rintro ⟨k, hk, hpath⟩
    obtain ⟨hmem, hcurrent⟩ := List.mem_filter.1 hk
    exact h k ((isCurrent_iff h k).1 hcurrent) n hn hpath ▸ hmem
  · intro hmem
    exact ⟨n, List.mem_filter.2 ⟨hmem, (isCurrent_iff h n).2 hn⟩, rfl⟩

/-- After synchronising the records are the mappings. -/
theorem mem_recorded_sync (distinct : mapped.Pairwise fun m n => m.path ≠ n.path)
    (n : MappedImage) : n ∈ (s.syncImages mapped load).1.recorded ↔ n ∈ mapped := by
  have one := onePerPath_of_pairwise distinct
  rw [recorded_syncImages, mem_recorded_loadAll distinct]
  constructor
  · rintro (h | ⟨h, -⟩)
    · rw [recorded_dropStale] at h
      exact (isCurrent_iff one n).1 (List.mem_filter.1 h).2
    · exact h
  · intro hn
    cases h : (s.dropStale mapped).1.isRecorded n.path with
    | true =>
      left
      rw [recorded_dropStale]
      exact List.mem_filter.2 ⟨(isRecorded_dropStale_iff one hn).1 h, (isCurrent_iff one n).2 hn⟩
    | false => exact .inr ⟨hn, rfl⟩

/-- Synchronising leaves the images of a mapping that was recorded as they are. -/
theorem biases_sync_of_recorded (faithful : (Call.sync mapped load).Faithful)
    (one : OnePerPath s.recorded) {n : MappedImage} (hn : n ∈ mapped) (hrec : n ∈ s.recorded) :
    (s.syncImages mapped load).1.images.biases n.path = s.images.biases n.path := by
  have mapped_once := onePerPath_of_pairwise faithful.1
  have current : ∀ m ∈ s.recorded, m.path = n.path → isCurrent mapped m = true :=
    fun m hm hpath => one m hm n hrec hpath ▸ (isCurrent_iff mapped_once n).2 hn
  rw [images_syncImages, biases_loadAll_of_recorded faithful.2
    ((isRecorded_dropStale_iff mapped_once hn).2 hrec), biases_dropStale current]

/-- Synchronising places the image of a mapping that was not recorded. -/
theorem biases_sync_of_new (faithful : (Call.sync mapped load).Faithful) {n : MappedImage}
    (hn : n ∈ mapped) (hnew : n ∉ s.recorded) :
    (s.syncImages mapped load).1.images.biases n.path = [n.base] := by
  have mapped_once := onePerPath_of_pairwise faithful.1
  have unrecorded : (s.dropStale mapped).1.isRecorded n.path = false :=
    Bool.eq_false_iff.2 fun h => hnew ((isRecorded_dropStale_iff mapped_once hn).1 h)
  rw [images_syncImages, biases_loadAll_of_new faithful.2 faithful.1 hn unrecorded]

end Sync

/-! ## What a call does at one path -/

/-- Which mappings are recorded after a call. -/
theorem mem_recorded_apply {s : Session} {c : Call} (faithful : c.Faithful) (m : MappedImage) :
    m ∈ (s.apply c).recorded ↔ c.Maps m ∨ (m ∈ s.recorded ∧ c.Keeps m) := by
  cases c with
  | add i => simp [apply, addImage, Call.Maps, Call.Keeps]
  | remove name =>
    rw [apply, removeImage_eq]
    split <;> simp [Call.Maps, Call.Keeps]
  | sync mapped load =>
    rw [apply, mem_recorded_sync faithful.1]
    exact ⟨.inl, fun h => h.elim id fun h => h.2⟩
  | setBreakpoint r => simp [apply, setBreakpoint, Call.Maps, Call.Keeps]
  | clearBreakpoint => simp [apply, clearBreakpoint, Call.Maps, Call.Keeps]

/-- A call that displaces or maps an image does not drop its record. -/
theorem Call.keeps_of_displaces {c : Call} {m : MappedImage} (h : c.Displaces m) : c.Keeps m := by
  cases c with
  | sync => exact h.elim
  | _ => trivial

/-- A call that maps an image leaves it recorded. -/
theorem Call.keeps_of_maps {c : Call} {m : MappedImage} (h : c.Maps m) : c.Keeps m := by
  cases c with
  | sync => exact h
  | _ => trivial

/-- The records keep one mapping per path. -/
theorem onePerPath_apply {s : Session} (one : OnePerPath s.recorded) {c : Call}
    (faithful : c.Faithful) : OnePerPath (s.apply c).recorded := by
  intro m hm n hn hpath
  rw [mem_recorded_apply faithful] at hm hn
  cases c with
  | sync mapped load =>
    -- both are among the mappings
    have hm : m ∈ mapped := hm.elim id fun h => h.2
    have hn : n ∈ mapped := hn.elim id fun h => h.2
    exact onePerPath_of_pairwise faithful.1 m hm n hn hpath
  | _ =>
    have hm := hm.resolve_left id
    have hn := hn.resolve_left id
    exact one m hm.1 n hn.1 hpath

/-- Whether the image of a recorded mapping is in place after a call. -/
theorem biases_apply_iff {s : Session} (one : OnePerPath s.recorded) {c : Call}
    (faithful : c.Faithful) {m : MappedImage} (hrec : m ∈ s.recorded) (keeps : c.Keeps m) :
    (s.apply c).images.biases m.path = [m.base] ↔
      ¬ c.Displaces m ∧ (c.Restores m ∨ s.images.biases m.path = [m.base]) := by
  cases c with
  | add i =>
    simp only [apply, addImage, images_refreshBreakpoint, Call.Displaces, Call.Restores]
    by_cases hname : i.name = m.path
    · rw [← hname, ImageTable.biases_add_self]
      simpa using fun h => Or.inl h
    · rw [ImageTable.biases_add_of_ne _ hname]
      simp [hname]
  | remove name =>
    have hremove : (s.apply (.remove name)).images = s.images.without name := by
      rw [apply, removeImage_eq]
      split
      · exact images_refreshBreakpoint _
      · rename_i absent
        exact (ImageTable.without_eq_self (Bool.eq_false_iff.2 absent)).symm
    rw [hremove]
    simp only [Call.Displaces, Call.Restores, false_or]
    by_cases hname : name = m.path
    · simp [hname, ImageTable.biases_without_self]
    · rw [ImageTable.biases_without_of_ne _ hname]
      simp [hname]
  | sync mapped load =>
    rw [apply, biases_sync_of_recorded faithful one keeps hrec]
    simp [Call.Displaces, Call.Restores]
  | setBreakpoint r => simp [apply, setBreakpoint, Call.Displaces, Call.Restores]
  | clearBreakpoint => simp [apply, clearBreakpoint, Call.Displaces, Call.Restores]

/-- The image of a mapping that is recorded only now is in place. -/
theorem biases_apply_of_maps {s : Session} {c : Call} (faithful : c.Faithful) {m : MappedImage}
    (hnew : m ∉ s.recorded) (maps : c.Maps m) :
    (s.apply c).images.biases m.path = [m.base] := by
  cases c with
  | sync mapped load => exact biases_sync_of_new faithful maps hnew
  | _ => exact maps.elim

/-! ## What a history does at one path -/

section History

variable {s : Session} {history : List Call}

/-- After a history that can be relied on, the records keep one mapping per path. -/
theorem onePerPath_run (one : OnePerPath s.recorded) (faithful : ∀ c ∈ history, c.Faithful) :
    OnePerPath (s.run history).recorded :=
  List.foldlRecOn (motive := fun r : Session => OnePerPath r.recorded) history apply one
    fun _ one c hc => onePerPath_apply one (faithful c hc)

/-- The mappings recorded after a history of a session without records are those that it has
followed. -/
theorem followed_iff (new : s.recorded = []) (faithful : ∀ c ∈ history, c.Faithful)
    (m : MappedImage) : Followed m history ↔ m ∈ (s.run history).recorded := by
  induction history using List.reverseRecOn with
  | nil =>
    rw [run, List.foldl_nil, new]
    exact iff_of_false not_since_nil List.not_mem_nil
  | append_singleton history c ih =>
    have ih := ih fun d hd => faithful d (List.mem_append_left _ hd)
    rw [run_append_singleton, mem_recorded_apply (faithful c (by simp)), ← ih]
    exact since_append_singleton

/-- A mapping is displaced after a history if it is recorded and its image is not in place. -/
theorem displaced_iff (new : s.recorded = []) (faithful : ∀ c ∈ history, c.Faithful)
    (m : MappedImage) :
    Displaced m history ↔
      m ∈ (s.run history).recorded ∧ (s.run history).images.biases m.path ≠ [m.base] := by
  induction history using List.reverseRecOn with
  | nil =>
    rw [run, List.foldl_nil, new]
    exact iff_of_false not_since_nil fun h => List.not_mem_nil h.1
  | append_singleton history c ih =>
    have earlier : ∀ d ∈ history, d.Faithful := fun d hd => faithful d (List.mem_append_left _ hd)
    have hc : c.Faithful := faithful c (by simp)
    have one : OnePerPath (s.run history).recorded :=
      onePerPath_run (by rw [new]; exact fun m hm => (List.not_mem_nil hm).elim) earlier
    have step : Displaced m (history ++ [c]) ↔
        (Followed m history ∧ c.Displaces m) ∨
          (Displaced m history ∧ c.Keeps m ∧ ¬ c.Restores m) := since_append_singleton
    rw [step, followed_iff new earlier, ih earlier, run_append_singleton, mem_recorded_apply hc]
    by_cases hrec : m ∈ (s.run history).recorded
    · by_cases keeps : c.Keeps m
      · have placed := biases_apply_iff one hc hrec keeps
        grind
      · -- a synchronisation without the mapping drops its record
        have not_displaces := mt Call.keeps_of_displaces keeps
        have not_maps := mt Call.keeps_of_maps keeps
        grind
    · have placed := biases_apply_of_maps hc hrec
      grind

/-- Synchronising with a mapping changes nothing about its being displaced. -/
theorem displaced_append_sync {mapped : List MappedImage} {load : MappedImage → Option Image}
    {m : MappedImage} (hm : m ∈ mapped) :
    Displaced m (history ++ [.sync mapped load]) ↔ Displaced m history := by
  rw [Displaced, since_append_singleton]
  simp [Call.Displaces, Call.Keeps, Call.Restores, hm]

end History

/-- After a history of a new session and one more synchronisation, in which no path is mapped twice
and every mapping loads, the table holds exactly one image for a mapping, placed at its base, unless
the mapping was displaced: followed since an earlier synchronisation, and its image meanwhile taken
out, or replaced by one of another bias, and not put back. -/
theorem biases_sync_iff (target : Target) (config : FormatterConfig) {history : List Call}
    (faithful : ∀ c ∈ history, c.Faithful) {mapped : List MappedImage}
    {load : MappedImage → Option Image} (last : (Call.sync mapped load).Faithful)
    {m : MappedImage} (hm : m ∈ mapped) :
    (((create target config).run history).syncImages mapped load).1.images.biases m.path =
        [m.base] ↔ ¬ Displaced m history := by
  have all : ∀ c ∈ history ++ [.sync mapped load], c.Faithful := by
    intro c hc
    rcases List.mem_append.1 hc with hc | hc
    · exact faithful c hc
    · exact List.mem_singleton.1 hc ▸ last
  have new : (create target config).recorded = [] := rfl
  have recorded : m ∈ (((create target config).run history).syncImages mapped load).1.recorded :=
    (mem_recorded_sync last.1 m).2 hm
  rw [← displaced_append_sync hm, displaced_iff new all, run_append_singleton, apply]
  simp [recorded]

/-- A loader that finds an image without symbols at every path. -/
def loadPlain (m : MappedImage) : Option Image :=
  some { name := m.path, symbols := ⟨[], true⟩, bias := m.base }

/-- An image that is loaded at the base of its mapping is faithful. -/
theorem faithful_loadPlain (m : MappedImage) : (Call.sync [m] loadPlain).Faithful :=
  ⟨List.pairwise_singleton _ _, fun _ _ => ⟨_, rfl, rfl, rfl⟩⟩

/-- A program that is mapped, taken out by hand, and added by hand at its base is in place after the
next synchronisation, and so it does not count as displaced. -/
theorem biases_sync_restored :
    let m : MappedImage := ⟨"/opt/app", 0x1000⟩
    let history := [.sync [m] loadPlain, .remove "/opt/app",
      .add { name := "/opt/app", symbols := ⟨[], true⟩, bias := 0x1000 }]
    (∀ c ∈ history, Call.Faithful c) ∧ (Call.sync [m] loadPlain).Faithful ∧ m ∈ [m] ∧
      ¬ Displaced m history := by
  intro m history
  have faithful : ∀ c ∈ history, Call.Faithful c := by
    simp [history, Call.Faithful, loadPlain]
  have last := faithful_loadPlain m
  have mapped : m ∈ [m] := List.mem_singleton_self m
  exact ⟨faithful, last, mapped, (biases_sync_iff .linuxX8664 {} faithful last mapped).1 rfl⟩

/-- A program that is mapped and then added by hand without a bias, as a file is that is read while
the process runs, is left without a bias by the next synchronisation. -/
theorem biases_sync_displaced :
    let m : MappedImage := ⟨"/opt/app", 0x1000⟩
    let history := [.sync [m] loadPlain, .add { name := "/opt/app", symbols := ⟨[], false⟩ }]
    (∀ c ∈ history, Call.Faithful c) ∧ (Call.sync [m] loadPlain).Faithful ∧
      (((create .linuxX8664 {}).run history).syncImages [m] loadPlain).1.images.biases m.path =
        [0] := by
  intro m history
  refine ⟨?_, faithful_loadPlain m, rfl⟩
  simp [history, Call.Faithful, loadPlain]

end HeapScope.Session
