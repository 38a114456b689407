import Mathlib.Data.List.Basic
import Mathlib.Data.List.Pairwise

/-!
# What is left behind a removal

Images, plugins and formatters are held in lists, and members are taken out by a key. Whether
something was taken out is told from the lengths of the list before and after, and a member that is
the only one of its kind is taken out by looking for the first one.
-/

namespace HeapScope

variable {α : Type} {p : α → Bool} {l : List α}

/-- A list without the members of a key is of another length if some member has the key. -/
theorem length_bne_length_filter {κ : Type} [DecidableEq κ] (l : List α) (key : α → κ) (k : κ) :
    (l.length != (l.filter fun a => key a != k).length) = l.any fun a => key a == k := by
  rw [Bool.eq_iff_iff, bne_iff_ne, Ne, eq_comm, List.length_filter_eq_length_iff, List.any_eq_true]
  simp

/-- Where at most one member of a list is of some kind, taking the first such out takes out all. -/
theorem eraseP_eq_filter_not (single : l.Pairwise fun a b => p a = true → p b = false) :
    l.eraseP p = l.filter fun a => !p a := by
  induction l with
  | nil => rfl
  | cons a l ih =>
    obtain ⟨others, rest⟩ := List.pairwise_cons.1 single
    cases ha : p a with
    | true =>
      have kept : l.filter (fun a => !p a) = l :=
        List.filter_eq_self.2 fun b hb => by rw [others b hb ha, Bool.not_false]
      rw [List.eraseP_cons_of_pos ha, List.filter_cons_of_neg (by simp [ha]), kept]
    | false =>
      rw [List.eraseP_cons_of_neg (by simp [ha]), List.filter_cons_of_pos (by simp [ha]), ih rest]

end HeapScope
