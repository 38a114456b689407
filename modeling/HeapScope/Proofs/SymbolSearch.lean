import HeapScope.Proofs.SymbolTable
import Mathlib.Data.List.Nodup

/-!
# Searching symbols by a part of their name

The symbols that are found are those with a text in their linker name or in the name that is shown,
in the order of their addresses, less some that repeat the linker name of another one. A repeat is
left out only if it comes right behind what it repeats, so the outcome depends on how the symbols of
one name lie among the others.

Every name that is found before the repeats are left out is found after it
(`mem_map_name_dropRepeats`). A name stays in twice exactly if a symbol of another name is found
between two symbols of it (`nodup_dropRepeats_iff`): names that differ from each other stay where
they are, as any list of names without immediate repeats does (`sublist_dropRepeats`).
-/

namespace HeapScope

/-! ## Texts inside names -/

/-- A text occurs in another if the other one is the text with something on both sides of it. -/
theorem SymbolTable.isInfix_iff {part s : List Char} : isInfix part s = true ↔ part <:+: s := by
  induction s with
  | nil => simp [isInfix]
  | cons c s ih =>
    have front : (dropMarker part (c :: s)).isSome = true ↔ part <+: c :: s := by
      rw [Option.isSome_iff_exists]
      exact exists_congr fun rest => dropMarker_eq_some_iff.trans eq_comm
    rw [isInfix, Bool.or_eq_true, front, ih, List.infix_cons_iff]

/-- A symbol has a text in its linker name or in the name that is shown. -/
def Symbol.Mentions (s : Symbol) (pattern : String) : Prop :=
  pattern.toList <:+: s.name.toList ∨ pattern.toList <:+: s.displayName.toList

instance (s : Symbol) (pattern : String) : Decidable (s.Mentions pattern) :=
  decidable_of_iff (SymbolTable.isInfix pattern.toList s.name.toList ∨
    SymbolTable.isInfix pattern.toList s.displayName.toList)
    (or_congr SymbolTable.isInfix_iff SymbolTable.isInfix_iff)

namespace SymbolTable

/-! ## Leaving out repeats -/

variable {l : List Symbol} {n : String}

/-- Leaving out repeats leaves the order of the others as it is. -/
theorem dropRepeats_sublist (l : List Symbol) : (dropRepeats l).Sublist l := by
  fun_induction dropRepeats l with
  | case1 a b r same ih => exact ih.trans ((List.sublist_cons_self b r).cons_cons a)
  | case2 a b r differ ih => exact ih.cons_cons a
  | case3 => exact List.Sublist.refl _

/-- No name is lost with the repeats. -/
theorem mem_map_name_dropRepeats :
    n ∈ (dropRepeats l).map (·.name) ↔ n ∈ l.map (·.name) := by
  fun_induction dropRepeats l with
  | case1 a b r same ih =>
    rw [ih, List.map_cons, List.map_cons, List.map_cons, ← eq_of_beq same, List.mem_cons,
      List.mem_cons, List.mem_cons, or_self_left]
  | case2 a b r differ ih =>
    rw [List.map_cons, List.mem_cons, ih]
    exact List.mem_cons.symm
  | case3 => exact Iff.rfl

/-- Names that occur one after the other, none of them twice in a row, are all kept. -/
theorem sublist_dropRepeats {names : List String} (sub : names.Sublist (l.map (·.name)))
    (alternate : names.IsChain (· ≠ ·)) : names.Sublist ((dropRepeats l).map (·.name)) := by
  fun_induction dropRepeats l generalizing names with
  | case1 a b r same ih =>
    refine ih ?_ alternate
    rw [List.map_cons, List.map_cons, ← eq_of_beq same] at sub
    rw [List.map_cons]
    rcases List.sublist_cons_iff.1 sub with skips | ⟨rest, rfl, behind⟩
    · exact skips
    · rcases List.sublist_cons_iff.1 behind with skips | ⟨others, rfl, -⟩
      · exact skips.cons_cons _
      · exact absurd rfl (List.isChain_cons_cons.1 alternate).1
  | case2 a b r differ ih =>
    rw [List.map_cons] at sub ⊢
    rcases List.sublist_cons_iff.1 sub with skips | ⟨rest, rfl, behind⟩
    · exact (ih skips alternate).cons _
    · exact (ih behind (List.isChain_of_isChain_cons alternate)).cons_cons _
  | case3 => exact sub

/-- A name stays in twice exactly if a symbol of another name comes between two symbols of it. -/
theorem nodup_dropRepeats_iff :
    ((dropRepeats l).map (·.name)).Nodup ↔
      ∀ a b c, [a, b, c].Sublist l → a.name = c.name → b.name = c.name := by
  constructor
  · intro distinct a b c sub same
    by_contra other
    have names : [a.name, b.name, c.name].Sublist (l.map (·.name)) := sub.map Symbol.name
    have alternate : [a.name, b.name, c.name].IsChain (· ≠ ·) := by
      simp [same, other, Ne.symm other]
    have kept := distinct.sublist (sublist_dropRepeats names alternate)
    simp [same] at kept
  · intro grouped
    fun_induction dropRepeats l with
    | case1 a b r same ih =>
      have fewer : (a :: r).Sublist (a :: b :: r) := (List.sublist_cons_self b r).cons_cons a
      exact ih fun x y z sub => grouped x y z (sub.trans fewer)
    | case2 a b r differ ih =>
      rw [List.map_cons, List.nodup_cons, mem_map_name_dropRepeats]
      refine ⟨fun again => ?_, ih fun x y z sub => grouped x y z (sub.cons a)⟩
      -- `b` would come between `a` and a symbol of the same name
      obtain ⟨c, hc, same⟩ := List.mem_map.1 again
      refine differ (beq_iff_eq.2 ?_)
      rcases List.mem_cons.1 hc with rfl | hc
      · exact same.symm
      · have between : [a, b, c].Sublist (a :: b :: r) :=
          ((List.singleton_sublist.2 hc).cons_cons b).cons_cons a
        rw [grouped a b c between same.symm, same]
    | case3 l short =>
      match l with
      | [] => exact List.nodup_nil
      | [a] => exact List.nodup_singleton _
      | a :: b :: r => exact (short a b r rfl).elim

/-! ## What is found -/

/-- The symbols that have a text in a name, in the order of their addresses. -/
def mentioning (t : SymbolTable) (pattern : String) : List Symbol :=
  t.byAddress.filter fun s => s.Mentions pattern

/-- A symbol of another name comes between two symbols of one name, in the order of addresses, and
all three have the text in a name. -/
def Parted (t : SymbolTable) (pattern : String) : Prop :=
  ∃ a b c, [a, b, c].Sublist (t.mentioning pattern) ∧ a.name = c.name ∧ b.name ≠ c.name

/-- The symbols that mention a pattern are found among all. -/
theorem mem_mentioning {t : SymbolTable} {pattern : String} {s : Symbol} :
    s ∈ t.mentioning pattern ↔ s ∈ t.given ∧ s.Mentions pattern := by
  rw [mentioning, List.mem_filter, mem_byAddress, decide_eq_true_iff]

/-- A search leaves out the repeats among those that mention the pattern. -/
theorem find_eq (t : SymbolTable) (pattern : String) :
    t.find pattern = dropRepeats (t.mentioning pattern) := by
  refine congrArg dropRepeats (List.filter_congr fun s _ => ?_)
  rw [Bool.eq_iff_iff, Bool.or_eq_true, isInfix_iff, isInfix_iff, decide_eq_true_iff,
    Symbol.Mentions]

/-- The symbols that are found have the text in a name, come in ascending order of their addresses,
and leave out no name that belongs there. A name occurs twice exactly if two symbols of it are
parted by one of another name. -/
theorem find_distinct_iff (t : SymbolTable) (pattern : String) :
    (∀ s ∈ t.find pattern, s ∈ t.given ∧ s.Mentions pattern) ∧
      (t.find pattern).Pairwise (fun a b => a.address ≤ b.address) ∧
      (∀ s ∈ t.given, s.Mentions pattern → s.name ∈ (t.find pattern).map (·.name)) ∧
      (((t.find pattern).map (·.name)).Nodup ↔ ¬ t.Parted pattern) := by
  rw [find_eq]
  refine ⟨fun s hs => ?_, ?_, fun s given mentions => ?_, ?_⟩
  · exact mem_mentioning.1 ((dropRepeats_sublist _).mem hs)
  · have sorted := t.pairwise_byAddress
    exact (sorted.sublist List.filter_sublist).sublist (dropRepeats_sublist _)
  · exact mem_map_name_dropRepeats.2 (List.mem_map_of_mem (mem_mentioning.2 ⟨given, mentions⟩))
  · rw [nodup_dropRepeats_iff, Parted]
    push Not
    rfl

/-- A symbol that is listed twice at one address is found once, as no other one comes between. -/
theorem find_distinct_iff_listed_twice :
    let init : Symbol := ⟨"init", 0x1000, 0⟩
    let t : SymbolTable := ⟨[init, init, ⟨"Konan_init", 0x1100, 0⟩], false⟩
    init.Mentions "init" ∧ "init" ∈ (t.find "init").map (·.name) ∧ ¬ t.Parted "init" ∧
      ((t.find "init").map (·.name)).Nodup := by
  intro init t
  obtain ⟨-, -, complete, distinct_iff⟩ := t.find_distinct_iff "init"
  have order : t.byAddress = t.given := List.mergeSort_of_pairwise (by decide)
  have whole : init.Mentions "init" := by decide
  have together : ¬ t.Parted "init" := by
    rintro ⟨a, b, c, sub, same, other⟩
    have all := (order ▸ sub.trans List.filter_sublist).eq_of_length rfl
    obtain ⟨rfl, rfl, rfl⟩ : a = init ∧ b = init ∧ c = ⟨"Konan_init", 0x1100, 0⟩ := by
      simpa [t] using all
    exact absurd same (by decide)
  exact ⟨whole, complete init (by simp [t]) whole, together, distinct_iff.2 together⟩

/-- Two files that are linked together have an `init` of their own, and that of a third name lies
between them: what is found for `init` names it twice. -/
theorem find_repeats_name :
    let t : SymbolTable :=
      ⟨[⟨"init", 0x1000, 0⟩, ⟨"Konan_init", 0x1100, 0⟩, ⟨"init", 0x1200, 0⟩], false⟩
    (t.find "init").map (·.name) = ["init", "Konan_init", "init"] ∧
      ¬ ((t.find "init").map (·.name)).Nodup := by
  intro t
  have order : t.byAddress = t.given := List.mergeSort_of_pairwise (by decide)
  have all : t.mentioning "init" = t.given := by
    rw [mentioning, order]
    decide +kernel
  have names : (t.find "init").map (·.name) = ["init", "Konan_init", "init"] := by
    rw [find_eq, all]
    simp [t, dropRepeats]
  exact ⟨names, by rw [names]; decide⟩

end SymbolTable

end HeapScope
