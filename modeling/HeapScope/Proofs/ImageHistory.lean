import HeapScope.Proofs.ImageTable

/-!
# Histories of an image table

Images come and go while a process runs, and an image that comes again takes the place of the one
that had its name. What a table holds after any such history is what stands of it: each image that
was added and whose name no later change was about, in the order in which these were added.

A table is asked for the type of a tag, for the type of a name, and for the place of a symbol. The
three questions are answered in one way, by the first image that has an answer. So what a change of
the table does to an answer is said once, for every question: an image under a new name never hides
an answer, and taking an image out takes away its own answers only.
-/

namespace HeapScope

namespace ImageTable

/-! ## What stands of a history -/

/-- A change of an image table. -/
inductive Change where
  | add (image : Image)
  | remove (name : String)

namespace Change

/-- The name that a change is about. -/
def name : Change → String
  | add i => i.name
  | remove name => name

end Change

/-- The table after a change. -/
def change (t : ImageTable) : Change → ImageTable
  | .add i => t.add i
  | .remove name => (t.remove name).2

/-- The table after a history. -/
def run (t : ImageTable) (history : List Change) : ImageTable := history.foldl change t

/-- Whether some change of a history is about a name. -/
def concerns (history : List Change) (name : String) : Bool :=
  history.any fun c => c.name == name

/-- The images that were added and whose names no later change was about, in the order of their
adds. -/
def standing : List Change → List Image
  | [] => []
  | .add i :: later => if concerns later i.name then standing later else i :: standing later
  | .remove _ :: later => standing later

/-- The names of images that stand are names that the history is about. -/
theorem concerns_of_mem_standing {history : List Change} {i : Image} (h : i ∈ standing history) :
    concerns history i.name = true := by
  induction history with
  | nil => cases h
  | cons c later ih =>
    rw [concerns, List.any_cons, ← concerns, Bool.or_eq_true]
    cases c with
    | add j =>
      rw [standing] at h
      split at h
      · exact .inr (ih h)
      · rcases List.mem_cons.1 h with rfl | h
        · exact .inl (beq_self_eq_true _)
        · exact .inr (ih h)
    | remove name => exact .inr (ih h)

/-- No two images that stand have one name. -/
theorem pairwise_standing (history : List Change) :
    (standing history).Pairwise fun i j => i.name ≠ j.name := by
  induction history with
  | nil => exact .nil
  | cons c later ih =>
    cases c with
    | add i =>
      rw [standing]
      split
      · exact ih
      · rename_i untouched
        refine List.pairwise_cons.2 ⟨fun j hj heq => untouched ?_, ih⟩
        rw [heq]
        exact concerns_of_mem_standing hj
    | remove name => exact ih

/-- Of one more change at the start its image stands, unless a later change is about its name. -/
theorem standing_cons (c : Change) (later : List Change) :
    standing (c :: later) =
      (standing [c]).filter (fun i => !concerns later i.name) ++ standing later := by
  cases c with
  | add i =>
    have alone : standing [.add i] = [i] := rfl
    rw [alone, standing]
    by_cases h : concerns later i.name = true
    · rw [if_pos h, List.filter_cons_of_neg (by simp [h])]
      rfl
    · rw [if_neg h, List.filter_cons_of_pos (by simp [h])]
      rfl
  | remove name => rfl

/-- A change takes the image of its name out, and an added image comes last. -/
theorem images_change (t : ImageTable) (c : Change) :
    (t.change c).images = (t.images.filter fun i => i.name != c.name) ++ standing [c] := by
  cases c with
  | add i => rfl
  | remove name => exact (List.append_nil _).symm

/-- After a history a table holds those of its images that the history was not about, and behind
them what stands of the history. -/
theorem images_run (t : ImageTable) (history : List Change) :
    (t.run history).images =
      (t.images.filter fun i => !concerns history i.name) ++ standing history := by
  induction history generalizing t with
  | nil =>
    have all : t.images.filter (fun i => !concerns [] i.name) = t.images :=
      List.filter_eq_self.2 fun _ _ => rfl
    rw [all, standing, List.append_nil]
    rfl
  | cons c later ih =>
    have old : (t.images.filter fun i => i.name != c.name).filter
        (fun i => !concerns later i.name) =
          t.images.filter fun i => !concerns (c :: later) i.name := by
      rw [List.filter_filter]
      refine List.filter_congr fun i _ => ?_
      have swap : (i.name != c.name) = !(c.name == i.name) := by rw [bne, BEq.comm]
      rw [concerns, concerns, List.any_cons, Bool.not_or, Bool.and_comm, swap]
    calc ((t.change c).run later).images
        = (t.change c).images.filter (fun i => !concerns later i.name) ++ standing later := ih _
      _ = t.images.filter (fun i => !concerns (c :: later) i.name) ++ standing (c :: later) := by
        rw [images_change, List.filter_append, old, List.append_assoc, standing_cons c later]

end ImageTable

/-! ## Questions -/

/-- What a table is asked for. -/
inductive Query where
  | typeByTag (tag : UInt64)
  | typeByName (name : String)
  | symbol (name : String)

/-- What is found: a type, or the place of a symbol. -/
inductive Answer where
  | type (record : TypeRecord)
  | place (location : SymbolLocation)

/-- The answer of an image. -/
def Image.answer (i : Image) : Query → Option Answer
  | .typeByTag tag => (i.typeByTag tag).map .type
  | .typeByName name => (i.typeByName name).map .type
  | .symbol name => (i.resolve name).map fun a => .place ⟨i.name, a⟩

/-- An image has an answer, and of some images it is the first that has one. -/
def Image.FirstToAnswer (i : Image) (images : List Image) (q : Query) (a : Answer) : Prop :=
  ∃ before after, images = before ++ i :: after ∧ i.answer q = some a ∧
    ∀ j ∈ before, j.answer q = none

/-- The first to answer is still the first after others were taken out. -/
theorem Image.FirstToAnswer.filter {i : Image} {images : List Image} {q : Query} {a : Answer}
    (h : i.FirstToAnswer images q a) {keep : Image → Bool} (kept : keep i = true) :
    i.FirstToAnswer (images.filter keep) q a := by
  obtain ⟨before, after, rfl, answers, silent⟩ := h
  refine ⟨before.filter keep, after.filter keep, ?_, answers, fun j hj => ?_⟩
  · rw [List.filter_append, List.filter_cons_of_pos kept]
  · exact silent j (List.mem_filter.1 hj).1

/-- The first to answer is still the first after others came behind. -/
theorem Image.FirstToAnswer.append {i : Image} {images : List Image} {q : Query} {a : Answer}
    (h : i.FirstToAnswer images q a) (behind : List Image) :
    i.FirstToAnswer (images ++ behind) q a := by
  obtain ⟨before, after, rfl, answers, silent⟩ := h
  exact ⟨before, after ++ behind, by simp, answers, silent⟩

namespace ImageTable

/-- The answer of a table. -/
def answer (t : ImageTable) : Query → Option Answer
  | .typeByTag tag => (t.typeByTag tag).map .type
  | .typeByName name => (t.typeByName name).map .type
  | .symbol name => (t.findSymbol name).map .place

variable {t : ImageTable} {q : Query} {a : Answer}

/-- Every question is put to the images in turn. -/
theorem answer_eq (t : ImageTable) (q : Query) :
    t.answer q = t.images.findSome? fun i => i.answer q := by
  cases q with
  | typeByTag tag => exact List.map_findSome?
  | typeByName name => exact List.map_findSome?
  | symbol name =>
    rw [answer, findSymbol, List.map_findSome?]
    refine congrArg (fun f => t.images.findSome? f) (funext fun i => ?_)
    exact Option.map_map ..

/-- A table answers as the first of its images that has an answer. -/
theorem answer_eq_some_iff : t.answer q = some a ↔ ∃ i : Image, i.FirstToAnswer t.images q a := by
  rw [answer_eq, List.findSome?_eq_some_iff]
  constructor
  · rintro ⟨before, i, after, split⟩
    exact ⟨i, before, after, split⟩
  · rintro ⟨i, before, after, split⟩
    exact ⟨before, i, after, split⟩

/-- An image under a name that is not loaded hides no answer. -/
theorem answer_add {i : Image} (new : t.contains i.name = false) (h : t.answer q = some a) :
    (t.add i).answer q = some a := by
  obtain ⟨j, first⟩ := answer_eq_some_iff.1 h
  refine answer_eq_some_iff.2 ⟨j, ?_⟩
  have behind : (t.add i).images = t.images ++ [i] :=
    congrArg (fun s : ImageTable => s.images ++ [i]) (without_eq_self new)
  rw [behind]
  exact first.append [i]

/-- After an image was taken out, no answer comes from an image of its name. -/
theorem exists_of_answer_remove {name : String} (h : (t.remove name).2.answer q = some a) :
    ∃ i ∈ t.images, i.name ≠ name ∧ i.FirstToAnswer (t.remove name).2.images q a := by
  obtain ⟨i, first⟩ := answer_eq_some_iff.1 h
  have left : i ∈ (t.remove name).2.images := by
    obtain ⟨before, after, split, -⟩ := first
    rw [split]
    exact List.mem_append_right _ List.mem_cons_self
  obtain ⟨mem, other⟩ := List.mem_filter.1 left
  exact ⟨i, mem, bne_iff_ne.1 other, first⟩

/-- An answer that comes from an image of another name stays. -/
theorem answer_remove {name : String} {i : Image} (first : i.FirstToAnswer t.images q a)
    (other : i.name ≠ name) : (t.remove name).2.answer q = some a :=
  answer_eq_some_iff.2 ⟨i, first.filter (bne_iff_ne.2 other)⟩

/-- After every history a table holds what stands of it, one image for each name, and it answers
every question as the first of these images that has an answer. An image under a new name changes no
answer that there is. Taking an image out leaves no answer of an image of that name, and all answers
of others. -/
theorem answers_run (history : List Change) :
    let t := ({} : ImageTable).run history
    t.images = standing history ∧
      (standing history).Pairwise (fun i j => i.name ≠ j.name) ∧
      (∀ q a, t.answer q = some a ↔ ∃ i : Image, i.FirstToAnswer (standing history) q a) ∧
      (∀ i : Image, t.contains i.name = false →
        ∀ q a, t.answer q = some a → (t.add i).answer q = some a) ∧
      (∀ name q a, (t.remove name).2.answer q = some a →
        ∃ i ∈ t.images, i.name ≠ name ∧ i.FirstToAnswer (t.remove name).2.images q a) ∧
      ∀ name q a (i : Image), i.FirstToAnswer t.images q a → i.name ≠ name →
        (t.remove name).2.answer q = some a := by
  intro t
  have holds : t.images = standing history := images_run {} history
  refine ⟨holds, pairwise_standing history, fun q a => ?_, fun i new q a => answer_add new,
    fun name q a => exists_of_answer_remove, fun name q a i => answer_remove⟩
  rw [← holds]
  exact answer_eq_some_iff

/-- Of two images with one symbol the first answers. When it comes again it goes behind the other
one, which answers from then on, until it is taken out. -/
theorem answers_run_replaced :
    let first : Image := { name := "app.kexe", symbols := ⟨[⟨"Konan_main", 0x10, 0⟩], false⟩ }
    let other : Image := { name := "lib.so", symbols := ⟨[⟨"Konan_main", 0x20, 0⟩], false⟩ }
    let question := Query.symbol "Konan_main"
    let t := ({} : ImageTable).run [.add first, .add other, .add first]
    t.images = [other, first] ∧ t.answer question = some (.place ⟨"lib.so", 0x20⟩) ∧
      (t.remove "app.kexe").2.answer question = some (.place ⟨"lib.so", 0x20⟩) ∧
      ∃ i ∈ t.images, i.name ≠ "lib.so" ∧
        i.FirstToAnswer (t.remove "lib.so").2.images question (.place ⟨"app.kexe", 0x10⟩) := by
  intro first other question t
  obtain ⟨holds, -, answers, -, left, stays⟩ :=
    answers_run [.add first, .add other, .add first]
  have standing_images : standing [.add first, .add other, .add first] = [other, first] := rfl
  have ahead : other.FirstToAnswer [other, first] question (.place ⟨"lib.so", 0x20⟩) :=
    ⟨[], [first], rfl, rfl, by simp⟩
  rw [standing_images] at holds answers
  refine ⟨holds, (answers _ _).2 ⟨other, ahead⟩, ?_, left _ _ _ rfl⟩
  exact stays _ _ _ other (by rw [holds]; exact ahead) (by decide)

end ImageTable

end HeapScope
