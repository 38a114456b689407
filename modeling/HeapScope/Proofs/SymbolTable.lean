import HeapScope.Symbol
import Mathlib.Data.List.Induction

/-!
# Looking symbols up by name and by address

By name a symbol is looked up in an index that is filled one symbol after the other. A symbol takes
the place of whatever stands under its own name, and the name without its underscore only if nothing
stands there. One symbol's name may be another one's name without the underscore, and still nobody
loses a name to an alias. `resolve_last_or_underscored` says who has a name at the end, in whatever
order the symbols came.

By address a symbol is looked up by halves among the symbols in ascending order. `bisect_spec` says
where the halving ends, `reverseResolve_cases` what is answered from there. The answer is right
wherever there is one. There is none exactly if the sum of an address and a size is needed that
passes the end of the address space, as `reverseResolve_answers_iff` shows.
-/

namespace HeapScope

/-- What is left behind a start is what the whole has behind it. -/
theorem dropMarker_eq_some_iff {marker s rest : List Char} :
    dropMarker marker s = some rest ↔ s = marker ++ rest := by
  induction marker generalizing s with
  | nil => simp [dropMarker]
  | cons m marker ih =>
    cases s with
    | nil => simp [dropMarker]
    | cons c s =>
      by_cases h : m = c
      · subst h
        simp [dropMarker, ih]
      · simp [dropMarker, h, Ne.symm h]

/-! ## Entering names -/

/-- A symbol goes by a name, which is its linker name as it is or without an underscore in front. -/
def Symbol.IsNamed (s : Symbol) (name : String) : Prop := s.name = name ∨ s.name = "_" ++ name

instance (s : Symbol) (name : String) : Decidable (s.IsNamed name) :=
  inferInstanceAs (Decidable (_ ∨ _))

/-- A name has an underscore in front of another. -/
theorem eq_underscore_append_iff {name bare : String} :
    name = "_" ++ bare ↔ name.toList = ['_'] ++ bare.toList := by
  rw [← String.toList_inj, String.toList_append]
  rfl

namespace NameIndex

variable {index : NameIndex} {s : Symbol} {name n : String}

/-- A symbol entered under a name is found under it, and nothing else changes. -/
theorem lookup_put :
    (index.put name s).lookup n = if n = name then some s else index.lookup n := by
  split
  · rename_i same
    rw [same, put, List.lookup_cons_self]
  · rename_i other
    rw [put, List.lookup_cons, beq_false_of_ne other]

/-- A symbol entered under a vacant name is found there behind what was there. -/
theorem lookup_putIfVacant :
    (index.putIfVacant name s).lookup n =
      if n = name then (index.lookup n).or (some s) else index.lookup n := by
  rw [putIfVacant]
  split
  · rename_i taken
    obtain ⟨old, hold⟩ := Option.isSome_iff_exists.1 taken
    split
    · rename_i same
      rw [same, hold, Option.some_or]
    · rfl
  · rename_i vacant
    rw [lookup_put]
    split
    · rename_i same
      rw [same, Option.not_isSome_iff_eq_none.1 vacant, Option.none_or]
    · rfl

/-- A symbol takes its own name in any case, and the name without its underscore if it is vacant. -/
theorem lookup_enter :
    (index.enter s).lookup n =
      if s.name = n then some s
      else if s.name = "_" ++ n then (index.lookup n).or (some s)
      else index.lookup n := by
  have own : (index.put s.name s).lookup n = if s.name = n then some s else index.lookup n := by
    rw [lookup_put]
    simp only [eq_comm]
  rw [enter]
  split
  case h_1 bare stripped =>
    have spelled : s.name = "_" ++ String.ofList bare := by
      rw [eq_underscore_append_iff, String.toList_ofList]
      exact dropMarker_eq_some_iff.1 stripped
    have alias_iff : n = String.ofList bare ↔ s.name = "_" ++ n := by
      rw [spelled, String.append_right_inj]
      exact eq_comm
    rw [lookup_putIfVacant, own]
    simp only [alias_iff]
    split <;> split <;> rfl
  case h_2 plain =>
    have no_alias : s.name ≠ "_" ++ n := by
      intro spelled
      have stripped := dropMarker_eq_some_iff.2 (eq_underscore_append_iff.1 spelled)
      rw [stripped] at plain
      cases plain
    rw [own, if_neg no_alias]

end NameIndex

namespace SymbolTable

variable {t : SymbolTable} {s : Symbol}

/-- In the index that symbols make, a name has the last symbol of that name, or if there is none the
first one that has it behind an underscore. -/
theorem lookup_foldl_enter (given : List Symbol) (n : String) :
    (given.foldl NameIndex.enter []).lookup n =
      ((given.filter fun s => s.name = n).getLast?).or
        ((given.filter fun s => s.name = "_" ++ n).head?) := by
  -- on one symbol more at the end, as the names that stand depend on what came before it
  induction given using List.reverseRecOn with
  | nil => rfl
  | append_singleton given s ih =>
    rw [List.foldl_append, List.foldl_cons, List.foldl_nil, NameIndex.lookup_enter, ih,
      List.filter_append, List.filter_append, List.getLast?_append, List.head?_append]
    by_cases own : s.name = n
    · rw [if_pos own, List.filter_cons_of_pos (by simpa using own)]
      rfl
    · rw [if_neg own, List.filter_cons_of_neg (by simpa using own)]
      by_cases behind : s.name = "_" ++ n
      · rw [if_pos behind, List.filter_cons_of_pos (by simpa using behind), Option.or_assoc]
        rfl
      · rw [if_neg behind, List.filter_cons_of_neg (by simpa using behind)]
        simp

/-- A name resolves to the address of the last symbol that was given under it. Where there is none,
it resolves to that of the first symbol that was given under the name with an underscore in front,
and otherwise to nothing. -/
theorem resolve_last_or_underscored (t : SymbolTable) (name : String) :
    t.resolve name =
      (((t.given.filter fun s => s.name = name).getLast?).or
        ((t.given.filter fun s => s.name = "_" ++ name).head?)).map (·.address) := by
  rw [resolve, lookup?, byName, lookup_foldl_enter]

/-- An alias that was there first gives way to the symbol that has the name itself. -/
example :
    let t : SymbolTable := ⟨[⟨"__x", 1, 0⟩, ⟨"_x", 2, 0⟩, ⟨"__x", 3, 0⟩], false⟩
    t.resolve "_x" = some 2 ∧ t.resolve "x" = some 2 ∧ t.resolve "__x" = some 3 := by decide +kernel

end SymbolTable

/-! ## Searching by halves -/

section Search

variable {n : Nat}

/-- Halving a range ends at its last entry that passes a test, or at its start if none passes, as
long as the entries that pass come before the others. -/
theorem bisect_spec {passes : Fin n → Bool} (ordered : ∀ i j, i ≤ j → passes j → passes i)
    (start size : Nat) (inside : 0 < size ∧ start + size ≤ n) :
    (passes (bisect passes start size inside) ∨ (bisect passes start size inside).val = start) ∧
      ∀ j, bisect passes start size inside < j → j.val < start + size → ¬ passes j := by
  fun_induction bisect passes start size inside with
  | case1 start size inside more middle pass ih =>
    -- the back half is kept, which ends where the range does
    obtain ⟨reached, none_behind⟩ := ih
    refine ⟨.inl (reached.elim id fun at_middle => ?_), fun j behind within => ?_⟩
    · rwa [Fin.ext at_middle]
    · exact none_behind j behind (by simp only [middle]; omega)
  | case2 start size inside more middle fail ih =>
    -- of the half that is given up, no entry comes before the middle
    obtain ⟨reached, none_behind⟩ := ih
    refine ⟨reached, fun j behind within pass => ?_⟩
    by_cases kept : j.val < start + (size - size / 2)
    · exact none_behind j behind kept pass
    · exact fail (ordered middle j (Fin.mk_le_of_le_val (by omega)) pass)
  | case3 start size inside least =>
    refine ⟨.inr rfl, fun j behind within => ?_⟩
    have : start < j.val := behind
    omega

variable {addressAt : Fin n → UInt64} {address : UInt64}

/-- A search among entries in ascending order ends at the last one with the address, or between
those below the address and those above it. -/
theorem searchSorted_cases (ascending : ∀ i j, i ≤ j → addressAt i ≤ addressAt j)
    (address : UInt64) :
    (∃ i, searchSorted addressAt address = .found i ∧ addressAt i = address ∧
        ∀ j, i < j → address < addressAt j) ∨
      ∃ ahead, searchSorted addressAt address = .missing ahead ∧
        (∀ j : Fin n, j.val < ahead.val → addressAt j < address) ∧
        ∀ j : Fin n, ahead.val ≤ j.val → address < addressAt j := by
  rw [searchSorted]
  split
  case isFalse empty =>
    refine .inr ⟨0, rfl, fun j => ?_, fun j => ?_⟩ <;> exact absurd j.pos empty
  case isTrue nonempty =>
    have ordered : ∀ i j, i ≤ j →
        decide (addressAt j ≤ address) → decide (addressAt i ≤ address) := by
      intro i j hij pass
      exact decide_eq_true (UInt64.le_trans (ascending i j hij) (of_decide_eq_true pass))
    obtain ⟨reached, none_behind⟩ := bisect_spec ordered 0 n ⟨nonempty, by omega⟩
    generalize bisect _ 0 n _ = i at reached none_behind ⊢
    have above : ∀ j, i < j → address < addressAt j := by
      intro j behind
      have fails := none_behind j behind (by omega)
      simpa using fails
    dsimp only
    split
    case isTrue hit => exact .inl ⟨i, rfl, hit, above⟩
    case isFalse miss =>
      refine .inr ⟨_, rfl, ?_⟩
      split
      case isTrue below =>
        -- the search ended at the last entry below the address
        refine ⟨fun j ahead => ?_, fun j behind => above j (Nat.lt_of_succ_le behind)⟩
        exact UInt64.lt_of_le_of_lt (ascending j i (Nat.le_of_lt_succ ahead)) below
      case isFalse not_below =>
        -- the search ended at the first entry, which lies above the address as the others do
        have beyond : address < addressAt i :=
          UInt64.lt_of_le_of_ne (UInt64.not_lt.1 not_below) (Ne.symm miss)
        have first : i.val = 0 := by
          refine reached.resolve_left fun pass => ?_
          exact UInt64.not_le.2 beyond (of_decide_eq_true pass)
        refine ⟨fun j ahead => ?_, fun j behind => ?_⟩
        · simp only [Fin.val_castSucc] at ahead
          omega
        · exact UInt64.lt_of_lt_of_le beyond (ascending i j (Fin.le_def.2 behind))

end Search

namespace SymbolTable

variable {t : SymbolTable} {address : UInt64} {s : Symbol}

/-! ## The order of addresses -/

/-- Sorting by address keeps the symbols. -/
theorem mem_byAddress : s ∈ t.byAddress ↔ s ∈ t.given := List.mem_mergeSort

/-- The symbols are in ascending order of their addresses. -/
theorem pairwise_byAddress (t : SymbolTable) :
    t.byAddress.Pairwise fun a b => a.address ≤ b.address := by
  have trans : ∀ a b c : Symbol, decide (a.address ≤ b.address) → decide (b.address ≤ c.address) →
      decide (a.address ≤ c.address) := by
    intro a b c hab hbc
    exact decide_eq_true (UInt64.le_trans (of_decide_eq_true hab) (of_decide_eq_true hbc))
  have total : ∀ a b : Symbol,
      (decide (a.address ≤ b.address) || decide (b.address ≤ a.address)) = true := by
    intro a b
    simpa using UInt64.le_total a.address b.address
  have sorted := List.pairwise_mergeSort trans total t.given
  exact sorted.imp of_decide_eq_true

/-- A symbol does not lie above an address, and all that come behind it in the order of addresses
do. -/
structure LastUpTo (t : SymbolTable) (address : UInt64) (s : Symbol) : Prop where
  upTo : s.address ≤ address
  above : ∃ before after, t.byAddress = before ++ s :: after ∧ ∀ r ∈ after, address < r.address

/-- The last symbol up to an address is one of the table. -/
theorem LastUpTo.mem (h : t.LastUpTo address s) : s ∈ t.given := by
  obtain ⟨before, after, split, -⟩ := h.above
  rw [← mem_byAddress, split]
  exact List.mem_append_right _ List.mem_cons_self

/-- The last symbol up to an address has the highest of the addresses up to it. -/
theorem LastUpTo.le_of_mem (h : t.LastUpTo address s) {r : Symbol} (hr : r ∈ t.given)
    (upTo : r.address ≤ address) : r.address ≤ s.address := by
  obtain ⟨before, after, split, above⟩ := h.above
  have sorted := t.pairwise_byAddress
  rw [← mem_byAddress, split] at hr
  rw [split] at sorted
  rcases List.mem_append.1 hr with ahead | here_or_behind
  · exact (List.pairwise_append.1 sorted).2.2 r ahead s List.mem_cons_self
  · rcases List.mem_cons.1 here_or_behind with rfl | behind
    · exact UInt64.le_refl _
    · exact absurd (above r behind) (UInt64.not_lt.2 upTo)

/-- Only one symbol is the last up to an address. -/
theorem LastUpTo.unique {r : Symbol} (hs : t.LastUpTo address s) (hr : t.LastUpTo address r) :
    s = r := by
  -- read from the end, it is the first symbol that does not lie above the address
  have found : ∀ {q}, t.LastUpTo address q →
      t.byAddress.reverse.find? (fun r => decide (r.address ≤ address)) = some q := by
    rintro q ⟨upTo, before, after, split, above⟩
    rw [split, List.reverse_append, List.reverse_cons, List.append_assoc, List.find?_append,
      List.find?_eq_none.2, Option.none_or]
    · simp [upTo]
    · intro r hr
      simpa using above r (List.mem_reverse.1 hr)
  exact Option.some.inj ((found hs).symm.trans (found hr))

/-- The symbol at a place in the order of addresses is the last up to an address if those behind it
lie above the address. -/
theorem lastUpTo_of_getElem {i : Nat} (inside : i < t.byAddress.length)
    (upTo : t.byAddress[i].address ≤ address)
    (above : ∀ j (h : j < t.byAddress.length), i < j → address < t.byAddress[j].address) :
    t.LastUpTo address t.byAddress[i] := by
  refine ⟨upTo, t.byAddress.take i, t.byAddress.drop (i + 1), ?_, fun r hr => ?_⟩
  · rw [List.getElem_cons_drop, List.take_append_drop]
  · obtain ⟨j, hj, rfl⟩ := List.mem_iff_getElem.1 hr
    rw [List.getElem_drop]
    exact above _ _ (by omega)

/-! ## The symbol of an address -/

/-- Either all symbols lie above an address and none is found, or the last one up to the address is
tested and found if it passes. -/
theorem reverseResolve_cases (t : SymbolTable) (address : UInt64) :
    ((∀ s ∈ t.given, address < s.address) ∧ t.reverseResolve address = .ok none) ∨
      ∃ s, t.LastUpTo address s ∧ t.reverseResolve address =
        if s.address = address ∨ s.size = 0 then .ok (some s)
        else (addExact s.address s.size).map fun limit =>
          if address < limit then some s else none := by
  have ascending : ∀ i j : Fin t.byAddress.toArray.size, i ≤ j →
      t.byAddress.toArray[i].address ≤ t.byAddress.toArray[j].address := by
    intro i j hij
    rcases Nat.eq_or_lt_of_le (Fin.le_def.1 hij) with same | ahead
    · rw [Fin.ext same]
      exact UInt64.le_refl _
    · simpa using List.pairwise_iff_getElem.1 t.pairwise_byAddress i j i.isLt j.isLt ahead
  rcases searchSorted_cases ascending address with
    ⟨i, search, hit, above⟩ | ⟨ahead, search, below, above⟩
  · refine .inr ⟨t.byAddress.toArray[i], ?_, ?_⟩
    · exact lastUpTo_of_getElem i.isLt (UInt64.le_of_eq hit) fun j hj behind => above ⟨j, hj⟩ behind
    · rw [if_pos (.inl hit), reverseResolve, search]
  · obtain ⟨k, inside⟩ := ahead
    cases k with
    | zero =>
      refine .inl ⟨fun s hs => ?_, by rw [reverseResolve, search]⟩
      obtain ⟨j, hj, rfl⟩ := List.mem_iff_getElem.1 (mem_byAddress.2 hs)
      exact above ⟨j, hj⟩ (Nat.zero_le j)
    | succ i =>
      have bound : i < t.byAddress.length := Nat.lt_of_succ_lt_succ inside
      have lower : t.byAddress[i].address < address := below ⟨i, bound⟩ (Nat.lt_succ_self i)
      refine .inr ⟨t.byAddress[i], ?_, ?_⟩
      · exact lastUpTo_of_getElem bound (UInt64.le_of_lt lower) fun j hj behind =>
          above ⟨j, hj⟩ behind
      · rw [reverseResolve, search]
        simp only [UInt64.ne_of_lt lower, false_or]
        rfl

/-- A symbol is the right answer to an address if it was given, if no other lies between it and the
address, and if it lies at the address, has no size, or reaches beyond the address. No symbol is
the right answer if all lie above the address or if the last one up to it lies ahead of it and ends
there. -/
def Answers (t : SymbolTable) (address : UInt64) : Option Symbol → Prop
  | some s => s ∈ t.given ∧ s.address ≤ address ∧
      (∀ r ∈ t.given, ¬ (s.address < r.address ∧ r.address ≤ address)) ∧
      (s.address = address ∨ s.size = 0 ∨ address.toNat < s.address.toNat + s.size.toNat)
  | none => (∀ s ∈ t.given, address < s.address) ∨
      ∃ s, t.LastUpTo address s ∧ s.address < address ∧ s.size ≠ 0 ∧
        s.address.toNat + s.size.toNat ≤ address.toNat

/-- A symbol lies ahead of an address and ends only at the end of the address space or behind it. -/
structure RunsOut (s : Symbol) (address : UInt64) : Prop where
  ahead : s.address < address
  sized : s.size ≠ 0
  past : UInt64.size ≤ s.address.toNat + s.size.toNat

/-- The last symbol up to an address is the right answer unless it ends ahead of the address. -/
theorem LastUpTo.answers (h : t.LastUpTo address s)
    (covers : s.address = address ∨ s.size = 0 ∨
      address.toNat < s.address.toNat + s.size.toNat) : t.Answers address (some s) := by
  refine ⟨h.mem, h.upTo, fun r hr between => ?_, covers⟩
  exact UInt64.not_lt.2 (h.le_of_mem hr between.2) between.1

/-- The last symbol up to an address is found or turned down, rightly either way, unless it ends at
the end of the address space or behind it: then the lookup crashes on its end. -/
theorem LastUpTo.outcome (h : t.LastUpTo address s) :
    (¬ RunsOut s address ∧
        ∃ found, t.reverseResolve address = .ok found ∧ t.Answers address found) ∨
      RunsOut s address ∧ t.reverseResolve address = .error .addOverflow := by
  obtain ⟨above, -⟩ | ⟨r, hr, resolved⟩ := t.reverseResolve_cases address
  · exact absurd h.upTo (UInt64.not_le.2 (above s h.mem))
  obtain rfl := h.unique hr
  rw [resolved]
  by_cases settled : s.address = address ∨ s.size = 0
  · -- its end is not asked for
    rw [if_pos settled]
    refine .inl ⟨fun out => ?_, _, rfl, h.answers (settled.imp_right .inl)⟩
    exact settled.elim (UInt64.ne_of_lt out.ahead) out.sized
  · obtain ⟨off, sized⟩ := not_or.1 settled
    have ahead := UInt64.lt_of_le_of_ne h.upTo off
    rw [if_neg settled, addExact]
    split
    case isTrue fits =>
      have limit : (s.address + s.size).toNat = s.address.toNat + s.size.toNat := by
        rw [UInt64.toNat_add, Nat.mod_eq_of_lt fits]
      refine .inl ⟨fun out => Nat.not_lt.2 out.past fits, _, rfl, ?_⟩
      dsimp only
      split
      case isTrue reached =>
        refine h.answers (.inr (.inr ?_))
        rwa [← limit, ← UInt64.lt_iff_toNat_lt]
      case isFalse missed =>
        refine .inr ⟨s, h, ahead, sized, ?_⟩
        rwa [← limit, ← UInt64.le_iff_toNat_le, ← UInt64.not_lt]
    case isFalse overflow =>
      exact .inr ⟨⟨ahead, sized, Nat.not_lt.1 overflow⟩, rfl⟩

/-- What is answered to an address is the right answer. There is an answer unless the last symbol up
to the address lies ahead of it and ends at the end of the address space or behind it. -/
theorem reverseResolve_answers_iff (t : SymbolTable) (address : UInt64) :
    (∀ found, t.reverseResolve address = .ok found → t.Answers address found) ∧
      ((∃ found, t.reverseResolve address = .ok found) ↔
        ∀ s, t.LastUpTo address s → ¬ RunsOut s address) := by
  obtain ⟨above, resolved⟩ | ⟨s, last, -⟩ := t.reverseResolve_cases address
  · refine ⟨fun found hfound => ?_, fun _ s last => ?_, fun _ => ⟨none, resolved⟩⟩
    · rw [resolved] at hfound
      cases hfound
      exact .inl above
    · exact absurd last.upTo (UInt64.not_le.2 (above s last.mem))
  · obtain ⟨fits, found, resolved, right⟩ | ⟨out, crashed⟩ := last.outcome
    · refine ⟨fun other hother => ?_, fun _ r hr => ?_, fun _ => ⟨found, resolved⟩⟩
      · rw [resolved] at hother
        cases hother
        exact right
      · rwa [hr.unique last]
    · refine ⟨fun other hother => ?_, fun ⟨other, hother⟩ => ?_, fun all => ?_⟩
      · rw [crashed] at hother
        cases hother
      · rw [crashed] at hother
        cases hother
      · exact absurd out (all s last)

/-- Of two symbols at one address the one that was given last is tested. It has no size and so is
found past the end of the other. -/
theorem reverseResolve_answers_sizeless :
    let start : Symbol := ⟨"Konan_start", 0x2000, 0x10⟩
    let main : Symbol := ⟨"Konan_main", 0x2000, 0⟩
    let t : SymbolTable := ⟨[start, main], false⟩
    t.reverseResolve 0x2040 = .ok (some main) ∧ t.Answers 0x2040 (some main) := by
  intro start main t
  have order : t.byAddress = [start, main] := List.mergeSort_of_pairwise (by decide)
  have last : t.LastUpTo 0x2040 main := ⟨by decide, [start], [], order, by simp⟩
  have found : t.reverseResolve 0x2040 = .ok (some main) := by
    obtain ⟨above, -⟩ | ⟨s, hs, resolved⟩ := t.reverseResolve_cases 0x2040
    · exact absurd (above main last.mem) (by decide)
    · rw [resolved, ← last.unique hs]
      rfl
  exact ⟨found, (t.reverseResolve_answers_iff 0x2040).1 _ found⟩

/-- A symbol that fills the end of the address space covers all addresses there, but looking one of
them up crashes on the end of the symbol. -/
theorem reverseResolve_last_page :
    let s : Symbol := ⟨"Konan_main", 0xfffffffffffffff0, 0x10⟩
    let t : SymbolTable := ⟨[s], false⟩
    t.LastUpTo 0xfffffffffffffff8 s ∧ t.Answers 0xfffffffffffffff8 (some s) ∧
      t.reverseResolve 0xfffffffffffffff8 = .error .addOverflow := by
  intro s t
  have alone : t.byAddress = [s] := List.mergeSort_singleton s
  have last : t.LastUpTo 0xfffffffffffffff8 s := ⟨by decide, [], [], alone, by simp⟩
  have out : RunsOut s 0xfffffffffffffff8 := ⟨by decide, by decide, by decide⟩
  refine ⟨last, last.answers (.inr (.inr (by decide))), ?_⟩
  exact (last.outcome.resolve_left fun fits => fits.1 out).2

end SymbolTable

end HeapScope
