import HeapScope.Proofs.Reading
import HeapScope.Proofs.Resolution
import HeapScope.Proofs.TypeLookup

/-!
# From a value to its type information

A value that may have any class is followed to the type information of its object over up to four
words: the slot that refers to the object, the header of the object, the word that the header points
to and, behind a meta object, the word that this one points to. Each of them can be missing,
misaligned, zero, or lead nowhere.

`resolve_by_header` sorts what can happen into five ends and says which words lead to each of them.
It also says what the tag bits of a header are worth: nothing, unless the header is read a second
time as something else.

## Shape of the argument

* `HoldsWord` and `StandsFor` say which words are there, and `PointsTo` where a header points. The
  conditions for the ends, `Unreadable`, `Headless` and `Tagged`, are put together from these.
* `outcome_resolve_preferStatic` writes resolving as reading the object, then its tag, then the
  record. Each condition has a lemma on what reading the tag comes to.
* `ends_cases` says that one of the conditions always holds. As no two of the ends are alike, a
  condition is met exactly if its end is reached.
-/

namespace HeapScope

namespace Context

variable {c : Context} {v : Value}

/-! ## Words -/

/-- A word lies at an address: the address is a multiple of the pointer width, as many bytes can be
read there, and the word is their number. -/
def HoldsWord (c : Context) (address word : UInt64) : Prop :=
  address % c.abi.pointerSize = 0 ∧
    ∃ bytes, c.memory address c.abi.pointerSize.toNat = .ok bytes ∧
      bytes.length = c.abi.pointerSize.toNat ∧ word = UInt64.ofNat (littleEndian bytes)

/-- At an address lies one word. -/
theorem HoldsWord.unique {address a b : UInt64} (ha : c.HoldsWord address a)
    (hb : c.HoldsWord address b) : a = b := by
  obtain ⟨-, bytes, read, -, rfl⟩ := ha
  obtain ⟨-, bytes', read', -, rfl⟩ := hb
  rw [Except.ok.inj (read.symm.trans read')]

/-- A pointer of a target has four or eight bytes. -/
def HasWords (c : Context) : Prop := c.abi.pointerSize = 4 ∨ c.abi.pointerSize = 8

/-- A word has four or eight bytes. -/
theorem HasWords.toNat (words : c.HasWords) :
    c.abi.pointerSize.toNat = 4 ∨ c.abi.pointerSize.toNat = 8 :=
  words.imp (congrArg UInt64.toNat) (congrArg UInt64.toNat)

/-- A word has some bytes. -/
theorem HasWords.pointerSize_ne_zero (words : c.HasWords) : c.abi.pointerSize ≠ 0 := by
  rcases words with four | eight
  · simp [four]
  · simp [eight]

/-- Reading a word is one read of memory, at a multiple of the pointer width. -/
theorem readPointer_eq (words : c.HasWords) (address : UInt64) :
    c.readPointer address =
      if address % c.abi.pointerSize = 0 then
        recordRead address c.abi.pointerSize.toNat
          (Memory.readPointer c.memory address c.abi.pointerSize.toNat)
      else Probe.fail (.inaccessible address "misaligned pointer") := by
  have rest : modExact address c.abi.pointerSize = .ok (address % c.abi.pointerSize) :=
    if_neg words.pointerSize_ne_zero
  rw [readPointer, rest, Probe.liftM_ok_bind, if_pos words.toNat, ite_not]

/-- Reading a word gives the number of the bytes, if there are as many as its width. -/
theorem outcome_readPointer (words : c.HasWords) {address : UInt64}
    (aligned : address % c.abi.pointerSize = 0) :
    (c.readPointer address).outcome = match c.memory address c.abi.pointerSize.toNat with
      | .ok bytes =>
        if bytes.length = c.abi.pointerSize.toNat then .ok (UInt64.ofNat (littleEndian bytes))
        else .error (.failed (.inaccessible address
          (Memory.wrongLength address bytes.length c.abi.pointerSize.toNat)))
      | .error reason => .error (.failed (.inaccessible address reason)) := by
  rw [readPointer_eq words, if_pos aligned, Memory.readPointer, if_pos words.toNat,
    Memory.readNumber]
  cases c.memory address c.abi.pointerSize.toNat with
  | error reason => rfl
  | ok bytes =>
    show (recordRead _ _ (Except.map _ (if _ then _ else _))).outcome = if _ then _ else _
    by_cases full : bytes.length = c.abi.pointerSize.toNat
    · rw [if_pos full, if_pos full]
      rfl
    · rw [if_neg full, if_neg full]
      rfl

/-- A word that lies at an address is read. -/
theorem outcome_readPointer_of_holds (words : c.HasWords) {address word : UInt64}
    (holds : c.HoldsWord address word) : (c.readPointer address).outcome = .ok word := by
  obtain ⟨aligned, bytes, read, full, rfl⟩ := holds
  rw [outcome_readPointer words aligned, read]
  exact if_pos full

/-- Where no word lies, memory is not accessible. -/
theorem outcome_readPointer_of_missing (words : c.HasWords) {address : UInt64}
    (missing : ∀ word, ¬ c.HoldsWord address word) :
    ∃ reason,
      (c.readPointer address).outcome = .error (.failed (.inaccessible address reason)) := by
  by_cases aligned : address % c.abi.pointerSize = 0
  · rw [outcome_readPointer words aligned]
    cases read : c.memory address c.abi.pointerSize.toNat with
    | error reason => exact ⟨reason, rfl⟩
    | ok bytes =>
      -- fewer or more bytes than a word has are refused
      have short : bytes.length ≠ c.abi.pointerSize.toNat := fun full =>
        missing _ ⟨aligned, bytes, read, full, rfl⟩
      exact ⟨_, if_neg short⟩
  · rw [readPointer_eq words, if_neg aligned]
    exact ⟨_, rfl⟩

/-! ## Where a value leads -/

/-- A value in memory stands for an object: its slot refers to the object, or the value is the
object itself. -/
inductive StandsFor (c : Context) : Value → UInt64 → Prop where
  | reference {t : TypeDescriptor} {slot object stop : UInt64} (holds : c.HoldsWord slot object) :
    StandsFor c ⟨t, .memory slot, .reference, stop⟩ object
  | object {t : TypeDescriptor} {address stop : UInt64} :
    StandsFor c ⟨t, .memory address, .object, stop⟩ address

/-- The header of the object that a value stands for points to an address. -/
def PointsTo (c : Context) (v : Value) (pointer : UInt64) : Prop :=
  ∃ object header, c.StandsFor v object ∧ object ≠ 0 ∧ c.HoldsWord object header ∧
    untagged header = pointer

/-- A word on the way is missing: the slot of the value, the header of its object, or the word that
the header points to. -/
def Unreadable (c : Context) (v : Value) : Prop :=
  (∀ object, ¬ c.StandsFor v object) ∨
    (∃ object, c.StandsFor v object ∧ object ≠ 0 ∧ ∀ header, ¬ c.HoldsWord object header) ∨
    ∃ pointer, c.PointsTo v pointer ∧ pointer ≠ 0 ∧ ∀ first, ¬ c.HoldsWord pointer first

/-- The header points nowhere, or to a word that neither points to itself nor to a word that
does. -/
def Headless (c : Context) (v : Value) : Prop :=
  c.PointsTo v 0 ∨
    ∃ pointer first, c.PointsTo v pointer ∧ pointer ≠ 0 ∧ c.HoldsWord pointer first ∧
      first ≠ pointer ∧ ¬ (first ≠ 0 ∧ c.HoldsWord first first)

/-- The header points to the type information at a tag, or to a meta object that points there. -/
def Tagged (c : Context) (v : Value) (tag : UInt64) : Prop :=
  ∃ pointer first, c.PointsTo v pointer ∧ pointer ≠ 0 ∧ c.HoldsWord pointer first ∧
    ((first = pointer ∧ tag = pointer) ∨
      (first ≠ pointer ∧ (first ≠ 0 ∧ c.HoldsWord first first) ∧ tag = first))

/-- A tag is not zero, and its first word points to itself. -/
theorem Tagged.holdsWord {tag : UInt64} (h : c.Tagged v tag) : tag ≠ 0 ∧ c.HoldsWord tag tag := by
  obtain ⟨pointer, first, -, nonzero, holds, ⟨rfl, rfl⟩ | ⟨-, beyond, rfl⟩⟩ := h
  · exact ⟨nonzero, holds⟩
  · exact beyond

/-- A value leads to a missing word, to null, to no type information, or to a tag. -/
theorem ends_cases (c : Context) (v : Value) :
    c.Unreadable v ∨ c.StandsFor v 0 ∨ c.Headless v ∨ ∃ tag, c.Tagged v tag := by
  -- word by word along the way, as long as it goes on
  by_cases stands : ∃ object, c.StandsFor v object
  case neg => exact .inl (.inl (not_exists.1 stands))
  obtain ⟨object, stands⟩ := stands
  by_cases null : object = 0
  · exact .inr (.inl (null ▸ stands))
  by_cases headed : ∃ header, c.HoldsWord object header
  case neg => exact .inl (.inr (.inl ⟨object, stands, null, not_exists.1 headed⟩))
  obtain ⟨header, headed⟩ := headed
  have points : c.PointsTo v (untagged header) := ⟨object, header, stands, null, headed, rfl⟩
  by_cases empty : untagged header = 0
  · exact .inr (.inr (.inl (.inl (empty ▸ points))))
  by_cases leads : ∃ first, c.HoldsWord (untagged header) first
  case neg => exact .inl (.inr (.inr ⟨_, points, empty, not_exists.1 leads⟩))
  obtain ⟨first, leads⟩ := leads
  by_cases direct : first = untagged header
  · exact .inr (.inr (.inr ⟨_, _, first, points, empty, leads, .inl ⟨direct, rfl⟩⟩))
  by_cases beyond : first ≠ 0 ∧ c.HoldsWord first first
  · exact .inr (.inr (.inr ⟨first, _, first, points, empty, leads, .inr ⟨direct, beyond, rfl⟩⟩))
  · exact .inr (.inr (.inl (.inr ⟨_, first, points, empty, leads, direct, beyond⟩)))

/-! ## What reading the tag comes to -/

/-- The object that a value stands for is found. -/
theorem outcome_objectAddress_of_standsFor (words : c.HasWords) {object : UInt64}
    (stands : c.StandsFor v object) : (c.objectAddress v).outcome = .ok object := by
  cases stands with
  | reference holds => exact outcome_readPointer_of_holds words holds
  | object => rfl

/-- A value stands for one object. -/
theorem StandsFor.unique (words : c.HasWords) {a b : UInt64} (ha : c.StandsFor v a)
    (hb : c.StandsFor v b) : a = b := by
  have same := outcome_objectAddress_of_standsFor words ha
  rw [outcome_objectAddress_of_standsFor words hb] at same
  exact (Except.ok.inj same).symm

/-- A header points to one address. -/
theorem PointsTo.unique (words : c.HasWords) {a b : UInt64} (ha : c.PointsTo v a)
    (hb : c.PointsTo v b) : a = b := by
  obtain ⟨object, header, stands, -, holds, rfl⟩ := ha
  obtain ⟨object', header', stands', -, holds', rfl⟩ := hb
  cases stands.unique words stands'
  rw [holds.unique holds']

/-- A value in memory that stands for nothing has no word in its slot. -/
theorem outcome_objectAddress_of_missing (words : c.HasWords) {address : UInt64}
    (location : v.location = .memory address) (kind : v.kind = .reference ∨ v.kind = .object)
    (missing : ∀ object, ¬ c.StandsFor v object) :
    ∃ reason, (c.objectAddress v).outcome = .error (.failed (.inaccessible address reason)) := by
  obtain ⟨t, place, way, stop⟩ := v
  dsimp only at location kind
  subst location
  rcases kind with rfl | rfl
  · exact outcome_readPointer_of_missing words fun object holds => missing object (.reference holds)
  · exact absurd .object (missing address)

/-- The tag of an object whose header points to an address. -/
def tagAt (c : Context) (object pointer : UInt64) : Probe UInt64 :=
  if pointer = 0 then
    Probe.fail (.malformed ("object at " ++ Text.hex object ++ " has an empty header"))
  else do
    let first ← c.readPointer pointer
    if first = pointer then pure pointer
    else
      match ← (c.readPointer first).attempt with
      | .ok typeInfo =>
        if first ≠ 0 ∧ typeInfo = first then pure first
        else Probe.fail (strangeHeader object pointer)
      | .error _ => Probe.fail (strangeHeader object pointer)

/-- The tag of an object is read from its header on. -/
theorem readTag_eq (c : Context) (object : UInt64) :
    c.readTag object = (do c.tagAt object (untagged (← c.readPointer object))) := rfl

section Tag

variable {object pointer first : UInt64}

/-- Nothing lies where the header points. -/
theorem outcome_tagAt_of_missing (object : UInt64) (words : c.HasWords) (nonzero : pointer ≠ 0)
    (missing : ∀ first, ¬ c.HoldsWord pointer first) :
    ∃ reason, (c.tagAt object pointer).outcome
      = .error (.failed (.inaccessible pointer reason)) := by
  obtain ⟨reason, read⟩ := outcome_readPointer_of_missing words missing
  refine ⟨reason, ?_⟩
  rw [tagAt, if_neg nonzero]
  exact Probe.outcome_bind_of_error read _

/-- Where the header points lies the type information itself. -/
theorem outcome_tagAt_of_direct (words : c.HasWords) (nonzero : pointer ≠ 0)
    (leads : c.HoldsWord pointer pointer) : (c.tagAt object pointer).outcome = .ok pointer := by
  rw [tagAt, if_neg nonzero,
    Probe.outcome_bind_of_ok (outcome_readPointer_of_holds words leads), if_pos rfl,
    Probe.outcome_pure]

/-- Where the header points lies a meta object, or nothing of the kind. -/
theorem outcome_tagAt_of_indirect (words : c.HasWords) (nonzero : pointer ≠ 0)
    (leads : c.HoldsWord pointer first) (indirect : first ≠ pointer)
    [Decidable (first ≠ 0 ∧ c.HoldsWord first first)] :
    (c.tagAt object pointer).outcome =
      if first ≠ 0 ∧ c.HoldsWord first first then .ok first
      else .error (.failed (strangeHeader object pointer)) := by
  rw [tagAt, if_neg nonzero,
    Probe.outcome_bind_of_ok (outcome_readPointer_of_holds words leads), if_neg indirect]
  by_cases present : ∃ typeInfo, c.HoldsWord first typeInfo
  · -- the word there may or may not be its own address
    obtain ⟨typeInfo, holds⟩ := present
    have read := outcome_readPointer_of_holds words holds
    have same : typeInfo = first ↔ c.HoldsWord first first :=
      ⟨fun h => h ▸ holds, fun h => holds.unique h⟩
    rw [Probe.outcome_bind_of_ok (Probe.outcome_attempt_of_ok read)]
    simp only [same]
    split <;> rfl
  · -- a failed read behind the header is not an error about memory
    have missing := not_exists.1 present
    obtain ⟨reason, read⟩ := outcome_readPointer_of_missing words missing
    rw [Probe.outcome_bind_of_ok (Probe.outcome_attempt_of_failed read),
      if_neg fun h => missing first h.2]
    rfl

end Tag

/-! ## How resolving in place ends -/

/-- What a tag resolves to where the value stays in place. -/
def recorded (c : Context) (v : Value) (tag : UInt64) : Except Stop DynamicValue :=
  match c.metadata.typeByTag tag with
  | some record => .ok ⟨.ofRecord record, v.location, v.kind⟩
  | none => .error (.failed (.unknownType tag))

section Resolve

variable {object pointer tag : UInt64} (words : c.HasWords) (fresh : v.stop = c.stop)
  (unsettled : v.staticType.isReference = true ∧ v.staticType.isFinal = false)
include fresh unsettled

/-- Resolving in place reads the object, then its tag, and then looks the tag up. -/
theorem outcome_resolve_preferStatic :
    (c.resolve v .preferStatic).outcome = (do
      let object ← (c.objectAddress v).outcome
      if object = 0 then .ok (.unchanged v)
      else c.recorded v (← (c.readTag object).outcome)) := by
  have valid : c.validate v = pure () := if_pos (beq_iff_eq.2 fresh)
  have opened : (!couldBeDynamic v.staticType || v.staticType.isFinal) = false := by
    rw [couldBeDynamic, unsettled.1, unsettled.2]
    rfl
  rw [resolve, findClass, valid, pure_bind, opened, if_neg Bool.false_ne_true, bind_assoc,
    Probe.outcome_bind]
  refine congrArg _ (funext fun object => ?_)
  by_cases null : object = 0
  · rw [if_pos null, if_pos null]
    rfl
  · rw [if_neg null, if_neg null, runtimeType]
    simp only [bind_assoc, pure_bind, Probe.outcome_bind]
    refine congrArg _ (funext fun tag => ?_)
    rw [recorded]
    cases c.metadata.typeByTag tag <;> rfl

include words

/-- Once the object is known, it is its tag that counts, unless it is null. -/
theorem outcome_resolve_of_standsFor (stands : c.StandsFor v object) :
    (c.resolve v .preferStatic).outcome =
      if object = 0 then .ok (.unchanged v) else (c.readTag object).outcome >>= c.recorded v := by
  rw [outcome_resolve_preferStatic fresh unsettled, outcome_objectAddress_of_standsFor words stands]
  rfl

/-- Once it is known where the header points, it is the tag there that counts. -/
theorem outcome_resolve_of_pointsTo (points : c.PointsTo v pointer) :
    ∃ object, (c.resolve v .preferStatic).outcome =
      (c.tagAt object pointer).outcome >>= c.recorded v := by
  obtain ⟨object, header, stands, nonzero, headed, rfl⟩ := points
  refine ⟨object, ?_⟩
  have read := outcome_readPointer_of_holds words headed
  rw [outcome_resolve_of_standsFor words fresh unsettled stands, if_neg nonzero, readTag_eq,
    Probe.outcome_bind_of_ok read]

/-- A missing word ends in an error about memory. -/
theorem outcome_resolve_of_unreadable {address : UInt64} (location : v.location = .memory address)
    (kind : v.kind = .reference ∨ v.kind = .object) (h : c.Unreadable v) :
    ∃ address reason, (c.resolve v .preferStatic).outcome =
      .error (.failed (.inaccessible address reason)) := by
  rcases h with missing | ⟨object, stands, nonzero, missing⟩ | ⟨pointer, points, nonzero, missing⟩
  · obtain ⟨reason, read⟩ := outcome_objectAddress_of_missing words location kind missing
    refine ⟨address, reason, ?_⟩
    rw [outcome_resolve_preferStatic fresh unsettled, read]
    rfl
  · obtain ⟨reason, read⟩ := outcome_readPointer_of_missing words missing
    refine ⟨object, reason, ?_⟩
    rw [outcome_resolve_of_standsFor words fresh unsettled stands, if_neg nonzero, readTag_eq,
      Probe.outcome_bind_of_error read]
    rfl
  · obtain ⟨object, ends⟩ := outcome_resolve_of_pointsTo words fresh unsettled points
    obtain ⟨reason, read⟩ := outcome_tagAt_of_missing object words nonzero missing
    refine ⟨pointer, reason, ?_⟩
    rw [ends, read]
    rfl

/-- Null stays as it is declared. -/
theorem outcome_resolve_of_null (stands : c.StandsFor v 0) :
    (c.resolve v .preferStatic).outcome = .ok (.unchanged v) := by
  rw [outcome_resolve_of_standsFor words fresh unsettled stands, if_pos rfl]

/-- A header without type information ends in an error about the value. -/
theorem outcome_resolve_of_headless (h : c.Headless v) :
    ∃ message, (c.resolve v .preferStatic).outcome = .error (.failed (.malformed message)) := by
  classical
  rcases h with points | ⟨pointer, first, points, nonzero, leads, indirect, strange⟩
  · obtain ⟨object, ends⟩ := outcome_resolve_of_pointsTo words fresh unsettled points
    rw [ends, tagAt, if_pos rfl]
    exact ⟨_, rfl⟩
  · obtain ⟨object, ends⟩ := outcome_resolve_of_pointsTo words fresh unsettled points
    rw [ends, outcome_tagAt_of_indirect words nonzero leads indirect, if_neg strange]
    exact ⟨_, rfl⟩

/-- A tag is looked up. -/
theorem outcome_resolve_of_tagged (h : c.Tagged v tag) :
    (c.resolve v .preferStatic).outcome = c.recorded v tag := by
  classical
  obtain ⟨pointer, first, points, nonzero, leads, ⟨rfl, rfl⟩ | ⟨indirect, beyond, rfl⟩⟩ := h
  · obtain ⟨object, ends⟩ := outcome_resolve_of_pointsTo words fresh unsettled points
    rw [ends, outcome_tagAt_of_direct words nonzero leads]
    rfl
  · obtain ⟨object, ends⟩ := outcome_resolve_of_pointsTo words fresh unsettled points
    rw [ends, outcome_tagAt_of_indirect words nonzero leads indirect, if_pos beyond]
    rfl

end Resolve

/-- How a value resolves in place, told by the words that it leads to. -/
structure SortedByHeader (c : Context) (images : ImageTable) (v : Value)
    (ends : Except Stop DynamicValue) : Prop where
  inaccessible :
    (∃ address reason, ends = .error (.failed (.inaccessible address reason))) ↔ c.Unreadable v
  null : ends = .ok (.unchanged v) ↔ c.StandsFor v 0
  malformed : (∃ message, ends = .error (.failed (.malformed message))) ↔ c.Headless v
  unknown : ∀ tag, ends = .error (.failed (.unknownType tag)) ↔
    c.Tagged v tag ∧ ∀ i ∈ images.images, ¬ i.Knows tag
  found : ∀ d, (ends = .ok d ∧ d ≠ .unchanged v) ↔
    ∃ tag record, c.Tagged v tag ∧ images.typeByTag tag = some record ∧ record.tag = tag ∧
      d = ⟨.ofRecord record, v.location, v.kind⟩

section Sorted

variable {images : ImageTable}

/-- What is looked up is the type of the tag, unless no image has one. -/
theorem recorded_cases (known : c.metadata = images.metadata) (v : Value) (tag : UInt64) :
    (c.recorded v tag = .error (.failed (.unknownType tag)) ∧ images.typeByTag tag = none) ∨
      ∃ record, c.recorded v tag = .ok ⟨.ofRecord record, v.location, v.kind⟩ ∧
        images.typeByTag tag = some record := by
  have lookup : c.metadata.typeByTag tag = images.typeByTag tag := by rw [known]; rfl
  rw [recorded, lookup]
  cases images.typeByTag tag with
  | none => exact .inl ⟨rfl, rfl⟩
  | some record => exact .inr ⟨record, rfl, rfl⟩

/-- A value whose class was found is not as it was declared. -/
theorem ofRecord_ne_unchanged (unsettled : v.staticType.isFinal = false) (record : TypeRecord) :
    (⟨.ofRecord record, v.location, v.kind⟩ : DynamicValue) ≠ .unchanged v := by
  intro same
  have types : TypeDescriptor.ofRecord record = v.staticType := congrArg DynamicValue.type same
  rw [← types, TypeDescriptor.isFinal_ofRecord] at unsettled
  cases unsettled

/-- Resolving in place ends in one of five ways, by the words that the value leads to. -/
theorem sortedByHeader (known : c.metadata = images.metadata) (words : c.HasWords)
    (fresh : v.stop = c.stop)
    (unsettled : v.staticType.isReference = true ∧ v.staticType.isFinal = false) {address : UInt64}
    (location : v.location = .memory address) (kind : v.kind = .reference ∨ v.kind = .object) :
    c.SortedByHeader images v (c.resolve v .preferStatic).outcome := by
  have missing := outcome_resolve_of_unreadable words fresh unsettled location kind
  have null := outcome_resolve_of_null (v := v) words fresh unsettled
  have headless := outcome_resolve_of_headless (v := v) words fresh unsettled
  have tagged : ∀ tag, c.Tagged v tag →
      (c.resolve v .preferStatic).outcome = c.recorded v tag :=
    fun _ => outcome_resolve_of_tagged words fresh unsettled
  have lookup := recorded_cases known v
  have changed := ofRecord_ne_unchanged (v := v) unsettled.2
  have cases := c.ends_cases v
  generalize (c.resolve v .preferStatic).outcome = ends at *
  -- no two of the ends are alike, so each is reached under its own condition only
  exact
    { inaccessible := ⟨by grind, missing⟩
      null := ⟨by grind, null⟩
      malformed := ⟨by grind, headless⟩
      unknown := fun tag => by grind [ImageTable.typeByTag_eq_none_iff]
      found := fun d => by grind [ImageTable.tag_of_typeByTag] }

end Sorted

/-! ## What is read on the way -/

/-- Beside the header of its object, resolving a value reads a word at an address: it is the slot of
the value, the place where the header points, or the place where the word there points. -/
def ReadsBeside (c : Context) (v : Value) (address : UInt64) : Prop :=
  (v.kind = .reference ∧ v.location = .memory address) ∨
    (c.PointsTo v address ∧ address ≠ 0) ∨
    ∃ pointer, c.PointsTo v pointer ∧ pointer ≠ 0 ∧ c.HoldsWord pointer address ∧
      address ≠ pointer

/-- What is read is a word that lies there. -/
theorem holdsWord_of_outcome (words : c.HasWords) {address word : UInt64}
    (read : (c.readPointer address).outcome = .ok word) : c.HoldsWord address word := by
  by_cases present : ∃ w, c.HoldsWord address w
  · obtain ⟨w, holds⟩ := present
    rw [outcome_readPointer_of_holds words holds] at read
    cases read
    exact holds
  · obtain ⟨reason, failed⟩ := outcome_readPointer_of_missing words (not_exists.1 present)
    rw [failed] at read
    cases read

/-- Reading a word leaves the read of one word in the trace, or nothing. -/
theorem leaves_readPointer (words : c.HasWords) {P : Event → Prop} {address : UInt64}
    (h : P (.memory address c.abi.pointerSize.toNat)) : (c.readPointer address).Leaves P := by
  rw [readPointer_eq words]
  split
  · simp [recordRead, h]
  · simp

/-- An event is the read of the word at an address of some kind. -/
def IsWordRead (c : Context) (P : UInt64 → Prop) (e : Event) : Prop :=
  ∃ address, e = .memory address c.abi.pointerSize.toNat ∧ P address

/-- What is found as the object of a value in memory is the object that the value stands for. -/
theorem standsFor_of_outcome (words : c.HasWords) {address object : UInt64}
    (location : v.location = .memory address) (kind : v.kind = .reference ∨ v.kind = .object)
    (found : (c.objectAddress v).outcome = .ok object) : c.StandsFor v object := by
  obtain ⟨t, place, way, stop⟩ := v
  dsimp only at location kind
  subst location
  rcases kind with rfl | rfl
  · exact .reference (holdsWord_of_outcome words found)
  · cases found
    exact .object

/-- Reading a tag reads where the header points and, behind a meta object, where that points. -/
theorem leaves_tagAt (words : c.HasWords) (object : UInt64) {pointer : UInt64}
    (points : c.PointsTo v pointer) :
    (c.tagAt object pointer).Leaves
      (c.IsWordRead fun a => c.StandsFor v a ∨ c.ReadsBeside v a) := by
  rw [tagAt]
  split
  · simp
  · rename_i nonzero
    refine (Probe.leaves_bind _ _).2 ⟨?_, fun first read => ?_⟩
    · exact leaves_readPointer words ⟨pointer, rfl, .inr (.inr (.inl ⟨points, nonzero⟩))⟩
    · have leads := holdsWord_of_outcome words read
      split
      · simp
      · rename_i indirect
        refine (Probe.leaves_bind _ _).2 ⟨(Probe.leaves_attempt _).2 ?_, fun beyond _ => ?_⟩
        · exact leaves_readPointer words
            ⟨first, rfl, .inr (.inr (.inr ⟨pointer, points, nonzero, leads, indirect⟩))⟩
        · split
          · split <;> simp
          · simp

/-- A value is resolved in place by reading words: the header of its object, and those beside it. -/
theorem leaves_resolve (words : c.HasWords) {address : UInt64}
    (location : v.location = .memory address) (kind : v.kind = .reference ∨ v.kind = .object) :
    (c.resolve v .preferStatic).Leaves
      (c.IsWordRead fun a => c.StandsFor v a ∨ c.ReadsBeside v a) := by
  have slot : (c.objectAddress v).Leaves
      (c.IsWordRead fun a => c.StandsFor v a ∨ c.ReadsBeside v a) := by
    rcases kind with reference | object
    · rw [objectAddress, reference, location]
      exact leaves_readPointer words ⟨address, rfl, .inr (.inl ⟨reference, location⟩)⟩
    · rw [objectAddress, object, location]
      simp
  have valid : (c.validate v).Leaves
      (c.IsWordRead fun a => c.StandsFor v a ∨ c.ReadsBeside v a) := by
    rw [validate]
    split <;> simp
  rw [resolve, Probe.leaves_bind, findClass, Probe.leaves_bind]
  refine ⟨⟨valid, fun _ _ => ?_⟩, fun _ _ => Probe.leaves_pure _⟩
  split
  · simp
  · refine (Probe.leaves_bind _ _).2 ⟨slot, fun object found => ?_⟩
    have stands := standsFor_of_outcome words location kind found
    split
    · simp
    · rename_i nonzero
      refine (Probe.leaves_bind _ _).2 ⟨?_, fun record _ => Probe.leaves_pure _⟩
      rw [runtimeType, readTag_eq]
      refine (Probe.leaves_bind _ _).2 ⟨(Probe.leaves_bind _ _).2 ⟨?_, fun header read => ?_⟩,
        fun tag _ => by split <;> simp⟩
      · exact leaves_readPointer words ⟨object, rfl, .inl stands⟩
      · exact leaves_tagAt words object
          ⟨object, header, stands, nonzero, holdsWord_of_outcome words read, rfl⟩

/-! ## Tag bits -/

/-- Two memories hold the same words, but for the tag bits of the word at one address. -/
structure SameButTagBits (c : Context) (memory : MemoryReader) (object : UInt64) : Prop where
  elsewhere : ∀ address, address % c.abi.pointerSize = 0 → address ≠ object →
    memory address c.abi.pointerSize.toNat = c.memory address c.abi.pointerSize.toNat
  header : ∃ old new, c.HoldsWord object old ∧ HoldsWord { c with memory } object new ∧
    untagged new = untagged old

section TagBits

variable {memory : MemoryReader} {object : UInt64} (words : c.HasWords)
  (same : c.SameButTagBits memory object)
include words same

/-- Words at other addresses are read as before. -/
theorem readPointer_elsewhere {address : UInt64} (other : address ≠ object) :
    readPointer { c with memory } address = c.readPointer address := by
  rw [readPointer_eq (c := { c with memory }) words, readPointer_eq words]
  dsimp only
  by_cases aligned : address % c.abi.pointerSize = 0
  · rw [if_pos aligned, if_pos aligned, Memory.readPointer, Memory.readPointer, Memory.readNumber,
      Memory.readNumber, same.elsewhere address aligned other]
  · rw [if_neg aligned, if_neg aligned]

/-- The tag is the same from where the header points on, if the header is not read again there. -/
theorem tagAt_elsewhere {pointer : UInt64} (points : c.PointsTo v pointer)
    (once : ¬ c.ReadsBeside v object) :
    tagAt { c with memory } object pointer = c.tagAt object pointer := by
  rw [tagAt, tagAt]
  by_cases empty : pointer = 0
  · rw [if_pos empty, if_pos empty]
  · have other : pointer ≠ object := fun h => once (.inr (.inl ⟨h ▸ points, h ▸ empty⟩))
    rw [if_neg empty, if_neg empty, readPointer_elsewhere words same other]
    refine Probe.bind_congr fun first read => ?_
    by_cases direct : first = pointer
    · rw [if_pos direct, if_pos direct]
    · have beyond : first ≠ object := by
        rintro rfl
        exact once (.inr (.inr ⟨pointer, points, empty, holdsWord_of_outcome words read, direct⟩))
      rw [if_neg direct, if_neg direct, readPointer_elsewhere words same beyond]

/-- The object of a value is the same, if its header is not the slot that refers to it. -/
theorem standsFor_elsewhere (stands : c.StandsFor v object) (once : ¬ c.ReadsBeside v object) :
    StandsFor { c with memory } v object := by
  cases stands with
  | @reference t slot _ stop holds =>
    have other : slot ≠ object := by
      rintro rfl
      exact once (.inl ⟨rfl, rfl⟩)
    refine .reference (holdsWord_of_outcome (c := { c with memory }) words ?_)
    rw [readPointer_elsewhere words same other]
    exact outcome_readPointer_of_holds words holds
  | object => exact .object

/-- The tag bits of a header that is read once do not count. -/
theorem outcome_resolve_of_sameButTagBits (fresh : v.stop = c.stop)
    (unsettled : v.staticType.isReference = true ∧ v.staticType.isFinal = false)
    (stands : c.StandsFor v object) (once : ¬ c.ReadsBeside v object) :
    (resolve { c with memory } v .preferStatic).outcome = (c.resolve v .preferStatic).outcome := by
  have stands' := standsFor_elsewhere words same stands once
  rw [outcome_resolve_of_standsFor words fresh unsettled stands,
    outcome_resolve_of_standsFor (c := { c with memory }) words fresh unsettled stands']
  by_cases null : object = 0
  · rw [if_pos null, if_pos null]
  · obtain ⟨old, new, holds, holds', bits⟩ := same.header
    have points : c.PointsTo v (untagged old) := ⟨object, old, stands, null, holds, rfl⟩
    rw [if_neg null, if_neg null, readTag_eq, readTag_eq,
      Probe.outcome_bind_of_ok (outcome_readPointer_of_holds words holds),
      Probe.outcome_bind_of_ok (outcome_readPointer_of_holds (c := { c with memory }) words holds'),
      bits, tagAt_elsewhere words same points once]
    rfl

end TagBits

/-- Resolving a value of the current stop in place, where its static type leaves its class open and
it lies in memory as a reference or as an object, ends in one of five ways, and the words that the
value leads to say in which. Every tag that is reported is not zero, and the word there is the tag.
The words that are read are the header of the object and at most three beside it; if the header is
not among these, its tag bits do not change how resolving ends. -/
theorem resolve_by_header {images : ImageTable} (known : c.metadata = images.metadata)
    (words : c.HasWords) (fresh : v.stop = c.stop)
    (unsettled : v.staticType.isReference = true ∧ v.staticType.isFinal = false) {address : UInt64}
    (location : v.location = .memory address) (kind : v.kind = .reference ∨ v.kind = .object) :
    let ends := (c.resolve v .preferStatic).outcome
    c.SortedByHeader images v ends ∧
      (∀ tag, (ends = .error (.failed (.unknownType tag)) ∨
          ∃ d, ends = .ok d ∧ d ≠ .unchanged v ∧ d.type.tag = some tag) →
        tag ≠ 0 ∧ c.HoldsWord tag tag) ∧
      (c.resolve v .preferStatic).Leaves
        (c.IsWordRead fun a => c.StandsFor v a ∨ c.ReadsBeside v a) ∧
      ∀ object memory, c.StandsFor v object → ¬ c.ReadsBeside v object →
        c.SameButTagBits memory object →
          (resolve { c with memory } v .preferStatic).outcome = ends := by
  intro ends
  have sorted : c.SortedByHeader images v ends :=
    sortedByHeader known words fresh unsettled location kind
  refine ⟨sorted, fun tag reported => ?_, leaves_resolve words location kind,
    fun object memory stands once same =>
      outcome_resolve_of_sameButTagBits words same fresh unsettled stands once⟩
  rcases reported with unknown | ⟨d, ok, changed, hasTag⟩
  · exact ((sorted.unknown tag).1 unknown).1.holdsWord
  · obtain ⟨tag', record, tagged, -, recorded, rfl⟩ := (sorted.found d).1 ⟨ok, changed⟩
    cases hasTag
    exact recorded ▸ tagged.holdsWord

/-- On a target with pointers of four bytes, an object whose header points to a meta object has the
class whose type information lies behind it, whichever tag bits the header has. -/
theorem resolve_by_header_meta :
    let word (header address : UInt64) : Nat :=
      (if address = 0x1000 then 0x1010 else if address = 0x1010 then header else 0x3000).toNat
    let memory (header : UInt64) : MemoryReader := fun address size =>
      .ok (toLittleEndian size (word header address))
    let images := ImageTable.add {}
      { name := "app.kexe", symbols := ⟨[⟨"ktype:app.Node", 0x3000, 0x40⟩], false⟩ }
    let c : Context := { memory := memory 0x2001, metadata := images.metadata, abi := ⟨4⟩ }
    let v : Value := .referenceAt .anyReference 0x1000 1
    let d : DynamicValue := ⟨.ofRecord ⟨"app.Node", 0x3000, none⟩, .memory 0x1000, .reference⟩
    c.HasWords ∧ v.stop = c.stop ∧
      (v.staticType.isReference = true ∧ v.staticType.isFinal = false) ∧
      (c.resolve v .preferStatic).outcome = .ok d ∧
      (resolve { c with memory := memory 0x2002 } v .preferStatic).outcome = .ok d := by
  intro word memory images c v d
  have words : c.HasWords := .inl rfl
  have unsettled : v.staticType.isReference = true ∧ v.staticType.isFinal = false := by decide
  have known : c.metadata = images.metadata := rfl
  have fresh : v.stop = c.stop := rfl
  have location : v.location = .memory 0x1000 := rfl
  obtain ⟨sorted, -, -, bits⟩ :=
    resolve_by_header known words fresh unsettled location (.inl rfl)
  have slot : c.HoldsWord 0x1000 0x1010 := ⟨by decide, _, rfl, by decide, by decide⟩
  have header : c.HoldsWord 0x1010 0x2001 := ⟨by decide, _, rfl, by decide, by decide⟩
  have beyond : c.HoldsWord 0x2000 0x3000 := ⟨by decide, _, rfl, by decide, by decide⟩
  have info : c.HoldsWord 0x3000 0x3000 := ⟨by decide, _, rfl, by decide, by decide⟩
  have stands : c.StandsFor v 0x1010 := .reference slot
  have points : c.PointsTo v 0x2000 := ⟨0x1010, 0x2001, stands, by decide, header, by decide⟩
  have tagged : c.Tagged v 0x3000 :=
    ⟨0x2000, 0x3000, points, by decide, beyond, .inr ⟨by decide, ⟨by decide, info⟩, rfl⟩⟩
  have lookup : images.typeByTag 0x3000 = some ⟨"app.Node", 0x3000, none⟩ := by decide +kernel
  have ends : (c.resolve v .preferStatic).outcome = .ok d :=
    ((sorted.found d).2 ⟨0x3000, _, tagged, lookup, rfl, rfl⟩).1
  have once : ¬ c.ReadsBeside v 0x1010 := by
    rintro (⟨-, location⟩ | ⟨elsewhere, -⟩ | ⟨pointer, elsewhere, -, leads, -⟩)
    · exact absurd location (by decide)
    · exact absurd (elsewhere.unique words points) (by decide)
    · rw [elsewhere.unique words points] at leads
      exact absurd (leads.unique beyond) (by decide)
  have same : c.SameButTagBits (memory 0x2002) 0x1010 := by
    refine ⟨fun address _ other => ?_, 0x2001, 0x2002, header,
      ⟨by decide, _, rfl, by decide, by decide⟩, by decide⟩
    show Except.ok (toLittleEndian _ (word 0x2002 address)) = Except.ok _
    rw [show word 0x2002 address = word 0x2001 address by simp only [word, if_neg other]]
  exact ⟨words, fresh, unsettled, ends, (bits 0x1010 (memory 0x2002) stands once same).trans ends⟩

end Context

end HeapScope
