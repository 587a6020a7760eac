import Mathlib.Data.List.Nodup
import Mathlib.Data.Nat.Basic
import Mathlib.Order.Lattice

/-!
# Lists sorted by place

Whatever is listed is sorted by a comparison that gives each item a place in a linear order. A
list that is sorted so goes by place, and if no two items have one place there is only one way
to sort them.
-/

namespace AdvisoryLedger

variable {α β : Type} [LinearOrder β] {precedes : α → α → Bool} {place : α → β}

theorem pairwise_le_mergeSort (h : ∀ a b, precedes a b = true ↔ place a ≤ place b)
    (xs : List α) : (xs.mergeSort precedes).Pairwise fun a b => place a ≤ place b := by
  refine (List.pairwise_mergeSort ?_ ?_ xs).imp fun {a b} hab => (h a b).mp hab
  · intro a b c hab hbc
    rw [h] at hab hbc ⊢
    exact hab.trans hbc
  · intro a b
    rw [Bool.or_eq_true, h, h]
    exact le_total _ _

theorem pairwise_lt_mergeSort (h : ∀ a b, precedes a b = true ↔ place a ≤ place b)
    {xs : List α} (hplaces : (xs.map place).Nodup) :
    (xs.mergeSort precedes).Pairwise fun a b => place a < place b := by
  have hne : ((xs.mergeSort precedes).map place).Nodup :=
    ((List.mergeSort_perm xs precedes).map place).nodup_iff.mpr hplaces
  exact ((pairwise_le_mergeSort h xs).and (List.pairwise_map.mp hne)).imp
    fun hab => lt_of_le_of_ne hab.1 hab.2

theorem mergeSort_eq_of_perm (h : ∀ a b, precedes a b = true ↔ place a ≤ place b)
    {xs ys : List α} (hperm : xs.Perm ys) (hplaces : (xs.map place).Nodup) :
    xs.mergeSort precedes = ys.mergeSort precedes := by
  apply List.Perm.eq_of_pairwise ?_ (pairwise_le_mergeSort h xs) (pairwise_le_mergeSort h ys)
  · exact (List.mergeSort_perm xs _).trans (hperm.trans (List.mergeSort_perm ys _).symm)
  · intro a b ha hb hab hba
    rw [List.mem_mergeSort] at ha hb
    exact List.inj_on_of_nodup_map hplaces ha (hperm.mem_iff.mpr hb) (le_antisymm hab hba)

end AdvisoryLedger
