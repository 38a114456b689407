import HeapScope.Exception
import HeapScope.Proofs.ImageTable

/-!
# Where exception breakpoints are set

The runtime image is the first image in load order that resolves the throwing function. With a
runtime image there is one breakpoint for each wanted event, all of them in that image; without one
the breakpoints are pending.

The throwing function lies where the runtime image has it. The catching function is looked up among
all images and dropped if it turns up elsewhere, so an image ahead of the runtime image that
resolves it hides the runtime's own.
-/

namespace HeapScope.ExceptionResolver

/-- The wanted events are those that are switched on, each once. -/
theorem count_events (r : ExceptionResolver) (e : ExceptionEvent) :
    r.events.count e = if r.wants e then 1 else 0 := by
  obtain ⟨catches, throws⟩ := r
  cases e <;> cases catches <;> cases throws <;> rfl

/-- An event is among the wanted ones if it is switched on. -/
theorem mem_events (r : ExceptionResolver) (e : ExceptionEvent) :
    e ∈ r.events ↔ r.wants e = true := by
  rw [← List.count_pos_iff, count_events]
  cases r.wants e <;> decide

/-- No event is wanted exactly if none is switched on. -/
theorem events_eq_nil_iff (r : ExceptionResolver) :
    r.events = [] ↔ ¬ (r.catches = true ∨ r.throws = true) := by
  obtain ⟨catches, throws⟩ := r
  cases catches <;> cases throws <;> simp [events]

/-- Breakpoints are pending exactly if an event is wanted and the throwing function is not found. -/
theorem isPending_resolve (r : ExceptionResolver) (symbols : String → Option SymbolLocation) :
    (r.resolve symbols).isPending = true ↔
      (r.catches = true ∨ r.throws = true) ∧
        symbols ExceptionEvent.thrown.entryPoint = none := by
  by_cases h : r.events = []
  · have off := (events_eq_nil_iff r).1 h
    simp [resolve, h, BreakpointSpec.isPending, off]
  · have on := not_not.1 (mt (events_eq_nil_iff r).2 h)
    cases hs : symbols ExceptionEvent.thrown.entryPoint <;>
      simp [resolve, h, hs, BreakpointSpec.isPending, on]

section RuntimeImage

variable {t : ImageTable} {before : List Image} {runtime : Image}

/-- The address that a breakpoint on an event gets in the runtime image: the image's own, unless the
event is catching and an image ahead resolves the catching function. -/
theorem eventAddress_eq (first : t.FirstWith ExceptionEvent.thrown.entryPoint before runtime)
    {address : UInt64} (h : runtime.resolve ExceptionEvent.thrown.entryPoint = some address)
    (e : ExceptionEvent) :
    eventAddress t.findSymbol ⟨runtime.name, address⟩ e =
      if e = .caught ∧ ∃ i ∈ before, (i.resolve e.entryPoint).isSome then none
      else runtime.resolve e.entryPoint := by
  cases e with
  | thrown => simp [eventAddress, h]
  | caught =>
    simp only [eventAddress, ImageTable.findSymbol_filter_name _ first.ahead, true_and]

/-- With a runtime image, there is one breakpoint for each wanted event, all in that image. -/
theorem resolve_eq (r : ExceptionResolver)
    (first : t.FirstWith ExceptionEvent.thrown.entryPoint before runtime) :
    (r.resolve t.findSymbol).locations =
      r.events.map fun e =>
        ⟨e.entryPoint, e, runtime.name,
          if e = .caught ∧ ∃ i ∈ before, (i.resolve e.entryPoint).isSome then none
          else runtime.resolve e.entryPoint⟩ := by
  obtain ⟨address, h⟩ := Option.isSome_iff_exists.1 first.resolves
  have found := ImageTable.findSymbol_of_ahead first.ahead first.first h
  by_cases off : r.events = []
  · simp [resolve, off]
  · simp only [resolve, List.isEmpty_iff, off, if_false, found, eventAddress_eq first h]

end RuntimeImage

/-- With a runtime image, an exception breakpoint has one location for each wanted event, and all of
them name that image. They are the places at which the image itself has the functions unless the
catching function is wanted, the image has it, and an image ahead has it too. -/
theorem locations_in_runtime_iff {t : ImageTable} {before : List Image} {runtime : Image}
    (first : t.FirstWith ExceptionEvent.thrown.entryPoint before runtime) (r : ExceptionResolver) :
    (∀ e, ((r.resolve t.findSymbol).locations.map (·.event)).count e
        = if r.wants e then 1 else 0) ∧
      (∀ l ∈ (r.resolve t.findSymbol).locations,
        l.symbol = l.event.entryPoint ∧ l.image = runtime.name) ∧
      ((∀ l ∈ (r.resolve t.findSymbol).locations,
          l.address = runtime.resolve l.event.entryPoint) ↔
        ¬ (r.wants .caught ∧ (runtime.resolve ExceptionEvent.caught.entryPoint).isSome ∧
          ∃ i ∈ before, (i.resolve ExceptionEvent.caught.entryPoint).isSome)) := by
  rw [resolve_eq r first]
  refine ⟨fun e => ?_, fun l hl => ?_, ?_⟩
  · rw [List.map_map]
    exact (congrArg (List.count e) (List.map_id _)).trans (count_events r e)
  · obtain ⟨e, _, rfl⟩ := List.mem_map.1 hl
    exact ⟨rfl, rfl⟩
  · rw [List.forall_mem_map]
    constructor
    · rintro places ⟨wanted, resolves, shadowed⟩
      have hidden := places .caught ((mem_events r .caught).2 wanted)
      rw [if_pos ⟨rfl, shadowed⟩] at hidden
      rw [← hidden] at resolves
      cases resolves
    · intro clear e he
      split
      · -- an image ahead has the catching function, so the runtime image lacks it
        rename_i hidden
        obtain ⟨rfl, shadowed⟩ := hidden
        have lacks : ¬ (runtime.resolve ExceptionEvent.caught.entryPoint).isSome :=
          fun resolves => clear ⟨(mem_events r .caught).1 he, resolves, shadowed⟩
        exact (Option.not_isSome_iff_eq_none.1 lacks).symm
      · rfl

/-- A program that holds the runtime with both of its functions. -/
def programImage : Image where
  name := "app.kexe"
  symbols := ⟨[⟨"ThrowException", 0x1000, 0⟩, ⟨"__cxa_begin_catch", 0x2000, 0⟩], false⟩

/-- A shared library that exports the catching function as well. -/
def unwinderImage : Image where
  name := "libc++abi.so"
  symbols := ⟨[⟨"__cxa_begin_catch", 0x10, 0⟩], true⟩
  bias := 0x7000

/-- With the program loaded first, both locations are the program's own. -/
theorem locations_in_runtime_program_first :
    let t := (({} : ImageTable).add programImage).add unwinderImage
    t.FirstWith ExceptionEvent.thrown.entryPoint [] programImage ∧
      ∀ l ∈ ((⟨true, true⟩ : ExceptionResolver).resolve t.findSymbol).locations,
        l.address = programImage.resolve l.event.entryPoint := by
  intro t
  have first : t.FirstWith ExceptionEvent.thrown.entryPoint [] programImage :=
    ⟨⟨[unwinderImage], rfl⟩, rfl, by simp⟩
  exact ⟨first, (locations_in_runtime_iff first ⟨true, true⟩).2.2.2 (by simp)⟩

/-- With the shared library loaded first, the catching location has no address though the program,
which is the runtime image, has the function. -/
theorem locations_shadowed :
    let t := (({} : ImageTable).add unwinderImage).add programImage
    t.FirstWith ExceptionEvent.thrown.entryPoint [unwinderImage] programImage ∧
      programImage.resolve ExceptionEvent.caught.entryPoint = some 0x2000 ∧
      ((⟨true, true⟩ : ExceptionResolver).resolve t.findSymbol).locations =
        [⟨"ThrowException", .thrown, "app.kexe", some 0x1000⟩,
          ⟨"__cxa_begin_catch", .caught, "app.kexe", none⟩] := by
  intro t
  refine ⟨⟨⟨[], rfl⟩, rfl, ?_⟩, rfl, rfl⟩
  intro j hj
  rw [List.mem_singleton.1 hj]
  rfl

end HeapScope.ExceptionResolver
