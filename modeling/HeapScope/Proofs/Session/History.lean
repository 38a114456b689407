import HeapScope.Proofs.Breakpoint
import HeapScope.Session

/-!
# Histories of a session

A host drives a session by calls that add, take out and synchronise images and that set and clear
the exception breakpoint. What the calls do is a step function, and a history is a run of it.

The breakpoint is stored resolved, and it is resolved anew only where a call says that it changed
the images. `breakpoint_run` shows that no change is missed: after every history the stored
breakpoint is what resolving it on the present images gives.

## Shape of the argument

* `SameBut` is what synchronising does before it resolves: it leaves the breakpoint alone, and as
  long as it has counted no change it leaves the images alone too. `SameBut.unload` and
  `SameBut.loadMapped` are its steps.
* `Current` says that the stored breakpoint is the resolved one. Each call keeps it.
-/

namespace HeapScope.Session

/-- A call that changes the images or the exception breakpoint of a session. -/
inductive Call where
  | add (image : Image)
  | remove (name : String)
  | sync (mapped : List MappedImage) (load : MappedImage → Option Image)
  | setBreakpoint (resolver : ExceptionResolver)
  | clearBreakpoint

/-- The session after a call. -/
def apply (s : Session) : Call → Session
  | .add i => s.addImage i
  | .remove name => (s.removeImage name).2
  | .sync mapped load => (s.syncImages mapped load).1
  | .setBreakpoint r => s.setBreakpoint r
  | .clearBreakpoint => s.clearBreakpoint

/-- The session after a history. -/
def run (s : Session) (history : List Call) : Session := history.foldl apply s

/-- The session after a history and one more call. -/
theorem run_append_singleton (s : Session) (history : List Call) (c : Call) :
    s.run (history ++ [c]) = (s.run history).apply c := by
  rw [run, List.foldl_append]
  rfl

/-- The breakpoint that a call asks for, given the one asked for before. -/
def Call.wanted : Call → Option ExceptionResolver → Option ExceptionResolver
  | .setBreakpoint r, _ => some r
  | .clearBreakpoint, _ => none
  | _, before => before

/-- The breakpoint that a history asks for: the one set last, unless it was cleared. -/
def wantedAfter (history : List Call) : Option ExceptionResolver :=
  history.foldl (fun before c => c.wanted before) none

/-! ## What resolving anew touches -/

/-- Resolving the breakpoint anew does not touch the images. -/
@[simp] theorem images_refreshBreakpoint (s : Session) :
    s.refreshBreakpoint.images = s.images := by
  unfold refreshBreakpoint
  split <;> rfl

/-- Nor does it touch the records. -/
@[simp] theorem recorded_refreshBreakpoint (s : Session) :
    s.refreshBreakpoint.recorded = s.recorded := by
  unfold refreshBreakpoint
  split <;> rfl

/-- What is asked for stays asked for. -/
@[simp] theorem resolver_refreshBreakpoint (s : Session) :
    s.refreshBreakpoint.resolver = s.resolver := by
  unfold refreshBreakpoint
  split <;> rfl

/-- Taking an image out resolves the breakpoint anew, and a name that no image has changes
nothing. -/
theorem removeImage_eq (s : Session) (name : String) :
    s.removeImage name =
      if s.images.contains name then
        (true, { s with images := s.images.without name }.refreshBreakpoint)
      else (false, s) := by
  rw [removeImage, ImageTable.remove_eq]
  cases loaded : s.images.contains name with
  | true => rfl
  | false =>
    rw [ImageTable.without_eq_self loaded]
    rfl

/-! ## What synchronising touches -/

/-- A session after some steps of synchronising: it has the breakpoint of the one before, and its
images too if no change was counted. -/
structure SameBut (s : Session) (r : Session × ImageChanges) : Prop where
  resolver : r.1.resolver = s.resolver
  breakpoint : r.1.breakpoint = s.breakpoint
  images : r.2.isEmpty = true → r.1.images = s.images

/-- Taking out the image of a dropped record is counted if there is one. -/
theorem SameBut.unload {s : Session} {r : Session × ImageChanges} (h : SameBut s r)
    (m : MappedImage) : SameBut s (r.1.unload r.2 m) := by
  unfold Session.unload
  rw [ImageTable.remove_eq]
  cases loaded : r.1.images.contains m.path with
  | true =>
    refine ⟨h.resolver, h.breakpoint, fun quiet => ?_⟩
    simp [ImageChanges.isEmpty] at quiet
  | false =>
    rw [ImageTable.without_eq_self loaded]
    exact h

/-- Loading a mapped image is counted if it succeeds. -/
theorem SameBut.loadMapped {s : Session} {r : Session × ImageChanges} (h : SameBut s r)
    (load : MappedImage → Option Image) (m : MappedImage) :
    SameBut s (Session.loadMapped load r.1 r.2 m) := by
  unfold Session.loadMapped
  split
  · exact h
  · cases load m with
    | some i =>
      refine ⟨h.resolver, h.breakpoint, fun quiet => ?_⟩
      simp [ImageChanges.isEmpty] at quiet
    | none => exact ⟨h.resolver, h.breakpoint, h.images⟩

/-- Dropping stale records and loading what is mapped, up to resolving anew. -/
theorem SameBut.sync (s : Session) (mapped : List MappedImage)
    (load : MappedImage → Option Image) :
    SameBut s (mapped.foldl (fun r m => Session.loadMapped load r.1 r.2 m)
      (s.dropStale mapped)) := by
  have dropped : SameBut s (s.dropStale mapped) := by
    unfold dropStale
    exact List.foldlRecOn _ _ ⟨rfl, rfl, fun _ => rfl⟩ fun _ h m _ => h.unload m
  exact List.foldlRecOn _ _ dropped fun _ h m _ => h.loadMapped load m

/-- Synchronising resolves the breakpoint anew if it counted a change, and otherwise ends as its
steps do. -/
theorem syncImages_fst (s : Session) (mapped : List MappedImage)
    (load : MappedImage → Option Image) :
    (s.syncImages mapped load).1 =
      let r := mapped.foldl (fun r m => Session.loadMapped load r.1 r.2 m) (s.dropStale mapped)
      if r.2.isEmpty then r.1 else r.1.refreshBreakpoint := by
  unfold syncImages
  dsimp only
  split <;> rfl

/-! ## The stored breakpoint -/

/-- The breakpoint that a session should have: the one asked for, resolved on its images. -/
def resolvedBreakpoint (s : Session) : BreakpointSpec :=
  s.resolver.elim {} fun r => r.resolve s.images.findSymbol

/-- The stored breakpoint is the resolved one. -/
def Current (s : Session) : Prop := s.breakpoint = s.resolvedBreakpoint

/-- After resolving anew the breakpoint is current, whatever the images were before, unless none is
asked for and yet one is stored. -/
theorem current_refreshBreakpoint {s : Session} (h : s.resolver = none → s.breakpoint = {}) :
    s.refreshBreakpoint.Current := by
  unfold Current resolvedBreakpoint refreshBreakpoint
  cases hr : s.resolver with
  | some r => simp
  | none => simp [hr, h hr]

/-- A current breakpoint is empty where none is asked for. -/
theorem Current.eq_empty {s : Session} (h : s.Current) (none_wanted : s.resolver = none) :
    s.breakpoint = {} := by
  rw [h, resolvedBreakpoint, none_wanted]
  rfl

/-- Synchronising keeps the breakpoint current: where it does not resolve anew, it has not changed
the images. -/
theorem Current.sync {s : Session} (h : s.Current) (mapped : List MappedImage)
    (load : MappedImage → Option Image) : (s.syncImages mapped load).1.Current := by
  rw [syncImages_fst]
  have same := SameBut.sync s mapped load
  generalize mapped.foldl (fun r m => Session.loadMapped load r.1 r.2 m) (s.dropStale mapped) = r
    at same
  dsimp only
  split
  · rename_i quiet
    rw [Current, resolvedBreakpoint, same.breakpoint, same.resolver, same.images quiet]
    exact h
  · refine current_refreshBreakpoint fun none_wanted => ?_
    rw [same.breakpoint]
    exact h.eq_empty (same.resolver ▸ none_wanted)

/-- Every call keeps the breakpoint current. -/
theorem Current.apply {s : Session} (h : s.Current) (c : Call) : (s.apply c).Current := by
  cases c with
  | add i => exact current_refreshBreakpoint fun none_wanted => h.eq_empty none_wanted
  | remove name =>
    rw [Session.apply, removeImage_eq]
    split
    · exact current_refreshBreakpoint fun none_wanted => h.eq_empty none_wanted
    · exact h
  | sync mapped load => exact h.sync mapped load
  | setBreakpoint r => exact current_refreshBreakpoint fun none_wanted => nomatch none_wanted
  | clearBreakpoint => rfl

/-- After every history the breakpoint is current. -/
theorem Current.run {s : Session} (h : s.Current) (history : List Call) :
    (s.run history).Current :=
  List.foldlRecOn history Session.apply h fun _ h c _ => h.apply c

/-- What a call does to the breakpoint asked for. -/
theorem resolver_apply (s : Session) (c : Call) : (s.apply c).resolver = c.wanted s.resolver := by
  cases c with
  | add i => exact resolver_refreshBreakpoint _
  | remove name =>
    rw [apply, removeImage_eq]
    split
    · exact resolver_refreshBreakpoint _
    · rfl
  | sync mapped load =>
    rw [apply, syncImages_fst]
    dsimp only
    split
    · exact (SameBut.sync s mapped load).resolver
    · rw [resolver_refreshBreakpoint]
      exact (SameBut.sync s mapped load).resolver
  | setBreakpoint r => exact resolver_refreshBreakpoint _
  | clearBreakpoint => rfl

/-- The breakpoint asked for after a history, from one asked for before it. -/
theorem resolver_run (s : Session) (history : List Call) :
    (s.run history).resolver = history.foldl (fun before c => c.wanted before) s.resolver := by
  induction history generalizing s with
  | nil => rfl
  | cons c history ih =>
    rw [run, List.foldl_cons, List.foldl_cons, ← resolver_apply]
    exact ih (s.apply c)

/-- After every history of a new session the breakpoint is the one that the history asks for,
resolved on the present images, and empty if it asks for none. It is pending exactly while it is
wanted for some event and no image resolves the throwing function. -/
theorem breakpoint_run (target : Target) (config : FormatterConfig) (history : List Call) :
    let s := (create target config).run history
    (s.resolver = wantedAfter history ∧
      s.breakpoint = (match s.resolver with
        | some r => r.resolve s.images.findSymbol
        | none => {})) ∧
      (s.breakpoint.isPending = true ↔
        ∃ r, s.resolver = some r ∧ (r.catches = true ∨ r.throws = true) ∧
          ∀ i ∈ s.images.images, i.resolve ExceptionEvent.thrown.entryPoint = none) := by
  intro s
  have new : (create target config).Current := rfl
  have current : s.Current := new.run history
  have wanted : s.resolver = wantedAfter history := resolver_run _ history
  rw [Current, resolvedBreakpoint] at current
  refine ⟨⟨wanted, ?_⟩, ?_⟩
  · rw [current]
    cases s.resolver <;> rfl
  · rw [current]
    cases s.resolver with
    | none => simp [BreakpointSpec.isPending]
    | some r =>
      rw [Option.elim_some, ExceptionResolver.isPending_resolve,
        ImageTable.findSymbol_eq_none_iff]
      simp

end HeapScope.Session
