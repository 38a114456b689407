import HeapScope.Proofs.ImageHistory
import HeapScope.Proofs.Session.Synchronisation

/-!
# What synchronising asks for and counts

Synchronising takes three passes: it finds the records that no longer describe the mappings, takes
their images out, and asks for the mappings that have no record. `syncImages_eq` puts the three
together. What is gone and what is new is read off the records before and the mappings, and the
image table changes by a history: first the removals, then the adds.

The rest follows from there. `syncImages_reconciles` says what is asked for, what is recorded, what
is counted and which images stay, for every session that calls can lead to, and that doing it again
does nothing.
-/

namespace HeapScope

namespace ImageTable

/-- Leaving a name out leaves the images of every other name loaded. -/
theorem contains_without_of_ne (t : ImageTable) {name other : String} (h : name ≠ other) :
    (t.without name).contains other = t.contains other := by
  rw [contains, without, List.any_filter, contains]
  refine congrArg (fun f => t.images.any f) (funext fun i => ?_)
  by_cases hi : i.name = other
  · simp [hi, Ne.symm h]
  · simp [hi]

/-- Nothing stands of removals. -/
theorem standing_removals {α : Type} (l : List α) (name : α → String) (later : List Change) :
    standing (l.map (fun x => .remove (name x)) ++ later) = standing later := by
  induction l with
  | nil => rfl
  | cons x rest ih => exact ih

end ImageTable

namespace Session

/-! ## The three passes -/

/-- The session and the counts after the image of a record was taken out. -/
theorem unload_eq (s : Session) (c : ImageChanges) (m : MappedImage) :
    s.unload c m =
      ({ s with images := s.images.without m.path },
       { c with unloaded := c.unloaded + (if s.images.contains m.path then 1 else 0) }) := by
  rw [unload, ImageTable.remove_eq]
  cases s.images.contains m.path <;> rfl

/-- Taking the images of records out, one after the other, counts those records that had an
image. -/
theorem foldl_unload {gone : List MappedImage} (distinct : gone.Pairwise fun m n => m.path ≠ n.path)
    (r : Session × ImageChanges) :
    gone.foldl (fun r m => r.1.unload r.2 m) r =
      ({ r.1 with images := r.1.images.run (gone.map fun m => .remove m.path) },
       { r.2 with unloaded :=
          r.2.unloaded + (gone.filter fun m => r.1.images.contains m.path).length }) := by
  induction gone generalizing r with
  | nil => rfl
  | cons m rest ih =>
    obtain ⟨hne, distinct⟩ := List.pairwise_cons.1 distinct
    have others : rest.filter (fun n => (r.1.images.without m.path).contains n.path) =
        rest.filter fun n => r.1.images.contains n.path :=
      List.filter_congr fun n hn => ImageTable.contains_without_of_ne _ (hne n hn)
    rw [List.foldl_cons, unload_eq, ih distinct]
    dsimp only
    rw [others, List.filter_cons]
    by_cases h : r.1.images.contains m.path = true
    · rw [if_pos h, if_pos h, List.length_cons, Nat.add_assoc, Nat.add_comm 1]
      rfl
    · rw [if_neg h, if_neg h]
      rfl

/-- A mapping without a record is recorded and asked for. -/
theorem loadMapped_of_new (load : MappedImage → Option Image) {s : Session} {m : MappedImage}
    (new : s.isRecorded m.path = false) (c : ImageChanges) :
    loadMapped load s c m =
      ({ s with recorded := s.recorded ++ [m],
                images := s.images.run ((load m).toList.map .add) },
       { c with asked := c.asked ++ [m], loaded := c.loaded + (load m).toList.length }) := by
  unfold loadMapped
  rw [if_neg (Bool.eq_false_iff.1 new)]
  cases load m <;> rfl

/-- Going through mappings records and asks for those that have no record, in their order. -/
theorem foldl_loadMapped (load : MappedImage → Option Image) {mapped : List MappedImage}
    (distinct : mapped.Pairwise fun m n => m.path ≠ n.path) (r : Session × ImageChanges) :
    let new := mapped.filter fun m => !r.1.isRecorded m.path
    mapped.foldl (fun r m => loadMapped load r.1 r.2 m) r =
      ({ r.1 with recorded := r.1.recorded ++ new,
                  images := r.1.images.run ((new.filterMap load).map .add) },
       { r.2 with asked := r.2.asked ++ new,
                  loaded := r.2.loaded + (new.filterMap load).length }) := by
  induction mapped generalizing r with
  | nil =>
    dsimp only [List.filter_nil, List.filterMap_nil, List.foldl_nil]
    rw [List.append_nil, List.append_nil]
    rfl
  | cons m rest ih =>
    obtain ⟨hne, distinct⟩ := List.pairwise_cons.1 distinct
    dsimp only at ih ⊢
    rw [List.foldl_cons, List.filter_cons]
    by_cases recorded : r.1.isRecorded m.path = true
    · have kept : loadMapped load r.1 r.2 m = r := by rw [loadMapped, if_pos recorded]
      rw [kept, ih distinct, if_neg (by simp [recorded])]
    · have new := Bool.eq_false_iff.2 recorded
      -- the paths of the rest are not the path that is recorded now
      have others : rest.filter (fun n => !(loadMapped load r.1 r.2 m).1.isRecorded n.path) =
          rest.filter fun n => !r.1.isRecorded n.path := by
        refine List.filter_congr fun n hn => ?_
        rw [isRecorded_loadMapped, beq_eq_false_iff_ne.2 (hne n hn), Bool.or_false]
      have found : ∀ l : List MappedImage,
          (m :: l).filterMap load = (load m).toList ++ l.filterMap load := fun l => by
        rw [List.filterMap_cons]
        cases load m <;> rfl
      rw [ih distinct, others, loadMapped_of_new load new, if_pos (by simp [new]), found]
      dsimp only
      simp only [List.append_assoc, List.singleton_append, List.map_append, List.length_append,
        ImageTable.run, List.foldl_append, Nat.add_assoc]

section Sync

variable {s : Session} {mapped : List MappedImage} {load : MappedImage → Option Image}

/-- The records that synchronising drops, if no path is mapped twice: those that are no mapping. -/
def gone (s : Session) (mapped : List MappedImage) : List MappedImage :=
  s.recorded.filter fun m => m ∉ mapped

/-- The mappings that synchronising asks for: those that are no record. -/
def unseen (s : Session) (mapped : List MappedImage) : List MappedImage :=
  mapped.filter fun m => m ∉ s.recorded

/-- The images that synchronising loads. -/
def found (s : Session) (mapped : List MappedImage) (load : MappedImage → Option Image) :
    List Image :=
  (s.unseen mapped).filterMap load

/-- What synchronising does to the image table. -/
def imageChanges (s : Session) (mapped : List MappedImage) (load : MappedImage → Option Image) :
    List ImageTable.Change :=
  (s.gone mapped).map (fun m => .remove m.path) ++ (s.found mapped load).map .add

/-- Dropping stale records takes the images of those out that are no mapping. -/
theorem dropStale_eq (once : s.recorded.Pairwise fun m n => m.path ≠ n.path)
    (distinct : mapped.Pairwise fun m n => m.path ≠ n.path) :
    s.dropStale mapped =
      ({ s with recorded := s.recorded.filter fun m => m ∈ mapped,
                images := s.images.run ((s.gone mapped).map fun m => .remove m.path) },
       { unloaded := ((s.gone mapped).filter fun m => s.images.contains m.path).length }) := by
  have one := onePerPath_of_pairwise distinct
  have current : isCurrent mapped = fun m => decide (m ∈ mapped) := by
    funext m
    rw [Bool.eq_iff_iff, isCurrent_iff one, decide_eq_true_iff]
  have stale : (s.recorded.filter fun m => !isCurrent mapped m) = s.gone mapped := by
    rw [current, gone]
    simp only [decide_not]
  have gone_once : (s.gone mapped).Pairwise fun m n => m.path ≠ n.path := once.filter _
  have dropped := foldl_unload gone_once
    ({ s with recorded := s.recorded.filter (isCurrent mapped) }, {})
  rw [dropStale, stale]
  refine dropped.trans ?_
  rw [current, Nat.zero_add]

/-- Synchronising in closed form: records, images and counts are read off the records before and the
mappings. -/
theorem syncImages_eq (once : s.recorded.Pairwise fun m n => m.path ≠ n.path)
    (distinct : mapped.Pairwise fun m n => m.path ≠ n.path) (load : MappedImage → Option Image) :
    let after := { s with
      recorded := (s.recorded.filter fun m => m ∈ mapped) ++ s.unseen mapped
      images := s.images.run (s.imageChanges mapped load) }
    let changes : ImageChanges :=
      { loaded := (s.found mapped load).length
        unloaded := ((s.gone mapped).filter fun m => s.images.contains m.path).length
        asked := s.unseen mapped }
    s.syncImages mapped load =
      (if changes.isEmpty then after else after.refreshBreakpoint, changes) := by
  intro after changes
  have new : (mapped.filter fun m => !(s.dropStale mapped).1.isRecorded m.path) =
      s.unseen mapped := by
    refine List.filter_congr fun m hm => ?_
    rw [Bool.eq_iff_iff, Bool.not_eq_true', Bool.eq_false_iff, decide_eq_true_iff]
    exact not_congr (isRecorded_dropStale_iff (onePerPath_of_pairwise distinct) hm)
  have passes : mapped.foldl (fun r m => loadMapped load r.1 r.2 m) (s.dropStale mapped) =
      (after, changes) := by
    rw [foldl_loadMapped load distinct, new, dropStale_eq once distinct]
    simp only [List.nil_append, Nat.zero_add, after, changes, imageChanges, found, ImageTable.run,
      List.foldl_append]
  have session : (s.syncImages mapped load).1 =
      if changes.isEmpty then after else after.refreshBreakpoint := by
    rw [syncImages_fst, passes]
  have counts : (s.syncImages mapped load).2 = changes := by
    unfold syncImages
    dsimp only
    split <;> exact congrArg Prod.snd passes
  exact Prod.ext session counts

/-- Where the records are the mappings, in whatever order, synchronising does nothing. -/
theorem syncImages_of_perm (distinct : mapped.Pairwise fun m n => m.path ≠ n.path)
    (same : s.recorded.Perm mapped) (load : MappedImage → Option Image) :
    s.syncImages mapped load = (s, {}) := by
  have once : s.recorded.Pairwise fun m n => m.path ≠ n.path :=
    same.symm.pairwise distinct fun h => h.symm
  have none_gone : s.gone mapped = [] :=
    List.filter_eq_nil_iff.2 fun m hm => by simpa using same.subset hm
  have none_new : s.unseen mapped = [] :=
    List.filter_eq_nil_iff.2 fun m hm => by simpa using same.symm.subset hm
  have all_kept : (s.recorded.filter fun m => m ∈ mapped) = s.recorded :=
    List.filter_eq_self.2 fun m hm => decide_eq_true (same.subset hm)
  rw [syncImages_eq once distinct, imageChanges, found, none_gone, none_new, all_kept,
    List.append_nil]
  rfl

end Sync

/-! ## Every session that calls lead to -/

/-- The sessions that a host can come to: a new one, and what any call makes of one it has come to.
Calls that change neither images nor breakpoint may change all the rest. -/
inductive Reached : Session → Prop
  | create (target : Target) (config : FormatterConfig) : Reached (create target config)
  | call {s : Session} (h : Reached s) (c : Call) : Reached (s.apply c)
  | other {s : Session} (h : Reached s) (formatters : FormatterRegistry)
      (plugins : PluginRegistry) (memory : MemorySnapshot) (process : Option StoppedProcess) :
      Reached { s with formatters, plugins, memory, process }

/-- A mapping is recorded only under a path that has no record. -/
theorem pairwise_recorded_loadMapped {s : Session}
    (once : s.recorded.Pairwise fun m n => m.path ≠ n.path) (load : MappedImage → Option Image)
    (c : ImageChanges) (m : MappedImage) :
    (loadMapped load s c m).1.recorded.Pairwise fun m n => m.path ≠ n.path := by
  rw [recorded_loadMapped]
  split
  · exact once
  · rename_i unrecorded
    refine List.pairwise_append.2 ⟨once, List.pairwise_singleton _ _, fun n hn k hk heq => ?_⟩
    rw [List.mem_singleton.1 hk] at heq
    exact unrecorded (isRecorded_iff.2 ⟨n, hn, heq⟩)

/-- Every call keeps one record per path, also one that synchronises with a path mapped twice. -/
theorem pairwise_recorded_apply {s : Session}
    (once : s.recorded.Pairwise fun m n => m.path ≠ n.path) (c : Call) :
    (s.apply c).recorded.Pairwise fun m n => m.path ≠ n.path := by
  cases c with
  | add i => rwa [apply, addImage, recorded_refreshBreakpoint]
  | remove name =>
    rw [apply, removeImage_eq]
    split
    · rwa [recorded_refreshBreakpoint]
    · exact once
  | sync mapped load =>
    rw [apply, recorded_syncImages, loadAll]
    refine List.foldlRecOn (motive := fun r : Session × ImageChanges =>
      r.1.recorded.Pairwise fun m n => m.path ≠ n.path) mapped _ ?_ fun r once m _ =>
        pairwise_recorded_loadMapped once load r.2 m
    rw [recorded_dropStale]
    exact once.filter _
  | setBreakpoint r => rwa [apply, setBreakpoint, recorded_refreshBreakpoint]
  | clearBreakpoint => exact once

/-- Whatever was called, no path is recorded twice. -/
theorem Reached.pairwise_recorded {s : Session} (h : Reached s) :
    s.recorded.Pairwise fun m n => m.path ≠ n.path := by
  induction h with
  | create target config => exact .nil
  | call h c ih => exact pairwise_recorded_apply ih c
  | other h formatters plugins memory process ih => exact ih

/-- In every session that calls lead to, synchronising with mappings of which no two have one path
asks, in their order and once each, for the mappings that have no record. Afterwards the records are
the mappings. The images that loaded are counted, and so are the dropped records that still had an
image. Every image that is neither taken out nor replaced stays where it was, ahead of what was
loaded. Doing it again with the same mappings in any order asks for nothing, counts nothing and
changes nothing. -/
theorem syncImages_reconciles {s : Session} (reached : Reached s) {mapped : List MappedImage}
    (distinct : mapped.Pairwise fun m n => m.path ≠ n.path) (load : MappedImage → Option Image) :
    let r := s.syncImages mapped load
    r.2.asked = s.unseen mapped ∧
      r.1.recorded.Perm mapped ∧
      r.2.loaded = (s.found mapped load).length ∧
      r.2.unloaded = ((s.gone mapped).filter fun m => s.images.contains m.path).length ∧
      r.1.images.images =
        (s.images.images.filter fun i =>
          i.name ∉ (s.gone mapped).map (·.path) ∧ i.name ∉ (s.found mapped load).map (·.name)) ++
        ImageTable.standing ((s.found mapped load).map .add) ∧
      ∀ again : List MappedImage, again.Perm mapped → ∀ load' : MappedImage → Option Image,
        r.1.syncImages again load' = (r.1, {}) := by
  intro r
  have once := reached.pairwise_recorded
  have closed : r = _ := syncImages_eq once distinct load
  have recorded : r.1.recorded.Perm mapped := by
    have after : r.1.recorded.Pairwise fun m n => m.path ≠ n.path :=
      pairwise_recorded_apply once (.sync mapped load)
    refine (List.perm_ext_iff_of_nodup ?_ ?_).2 (mem_recorded_sync distinct)
    · exact after.imp fun hne heq => hne (congrArg _ heq)
    · exact distinct.imp fun hne heq => hne (congrArg _ heq)
  have images : r.1.images = s.images.run (s.imageChanges mapped load) := by
    rw [closed]
    dsimp only
    split
    · rfl
    · exact images_refreshBreakpoint _
  refine ⟨by rw [closed], recorded, by rw [closed], by rw [closed], ?_, fun again perm load' => ?_⟩
  · rw [images, ImageTable.images_run, imageChanges, ImageTable.standing_removals]
    refine congrArg (· ++ _) (List.filter_congr fun i _ => ?_)
    rw [Bool.eq_iff_iff]
    simp [ImageTable.concerns, ImageTable.Change.name]
  · have again_distinct : again.Pairwise fun m n => m.path ≠ n.path :=
      perm.symm.pairwise distinct fun h => h.symm
    exact syncImages_of_perm again_distinct (recorded.trans perm.symm) load'

/-- Of three mapped libraries one moves, one vanishes and one stays, and a fourth comes that cannot
be loaded. -/
theorem syncImages_reconciles_moved :
    let load (m : MappedImage) : Option Image := if m.path = "/lib/c" then none else loadPlain m
    let s := (create .linuxX8664 {}).apply
      (.sync [⟨"/lib/a", 0x1000⟩, ⟨"/lib/b", 0x2000⟩, ⟨"/lib/d", 0x5000⟩] load)
    let mapped : List MappedImage := [⟨"/lib/a", 0x9000⟩, ⟨"/lib/c", 0x3000⟩, ⟨"/lib/d", 0x5000⟩]
    let r := s.syncImages mapped load
    Reached s ∧ mapped.Pairwise (fun m n => m.path ≠ n.path) ∧
      r.2.asked = [⟨"/lib/a", 0x9000⟩, ⟨"/lib/c", 0x3000⟩] ∧ r.2.loaded = 1 ∧ r.2.unloaded = 2 ∧
      r.1.recorded.Perm mapped ∧
      r.1.images.images.map (fun i => (i.name, i.bias)) = [("/lib/d", 0x5000), ("/lib/a", 0x9000)] ∧
      r.1.syncImages mapped.reverse load = (r.1, {}) := by
  intro load s mapped r
  have reached : Reached s := (Reached.create _ _).call _
  have distinct : mapped.Pairwise fun m n => m.path ≠ n.path := by decide
  obtain ⟨asked, recorded, loaded, unloaded, images, again⟩ :=
    syncImages_reconciles reached distinct load
  refine ⟨reached, distinct, asked.trans ?_, loaded.trans ?_, unloaded.trans ?_, recorded, ?_,
    again _ (List.reverse_perm mapped) load⟩
  · decide
  · decide
  · decide
  · rw [images]
    decide

end Session

end HeapScope
