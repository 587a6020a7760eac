import Mathlib.Data.List.Basic

/-!
# Interleaved lists

What several workers write stands in one list, and what each of them wrote stands there in
its order. `Interleaved parts xs` says so. It is built up at the end, as the list is: one
more element is the next one of one of the parts.

The list has the elements of its parts. And where all elements of some kind are in one part,
they stand in the list as they stand in that part, so the list cannot tell the order in which
the workers took turns.
-/

namespace AdvisoryLedger

variable {α : Type} {parts : List (List α)} {xs : List α}

/-- The list is made of the parts, each in its order. -/
inductive Interleaved : List (List α) → List α → Prop
  | nil {parts : List (List α)} : (∀ part ∈ parts, part = []) → Interleaved parts []
  | concat {before after : List (List α)} {part xs : List α} {x : α} :
    Interleaved (before ++ part :: after) xs →
      Interleaved (before ++ (part ++ [x]) :: after) (xs ++ [x])

namespace Interleaved

/-- A part with nothing in it may be added. -/
theorem newPart (h : Interleaved parts xs) : Interleaved (parts ++ [[]]) xs := by
  induction h with
  | nil hparts =>
      refine .nil ?_
      intro part hpart
      rcases List.mem_append.mp hpart with hold | hlast
      · exact hparts part hold
      · exact List.mem_singleton.mp hlast
  | concat _ ih =>
      rw [List.append_assoc, List.cons_append] at ih ⊢
      exact .concat ih

/-- Any number of elements may be added to one part. -/
theorem append {before after : List (List α)} {part : List α}
    (h : Interleaved (before ++ part :: after) xs) (new : List α) :
    Interleaved (before ++ (part ++ new) :: after) (xs ++ new) := by
  induction new generalizing part xs with
  | nil =>
      rw [List.append_nil, List.append_nil]
      exact h
  | cons x new ih =>
      rw [List.append_cons part, List.append_cons xs]
      exact ih (.concat h)

theorem perm (h : Interleaved parts xs) : xs.Perm parts.flatten := by
  induction h with
  | nil hparts => rw [List.flatten_eq_nil_iff.mpr hparts]
  | @concat before after part xs x _ ih =>
      rw [List.flatten_append, List.flatten_cons] at ih ⊢
      -- the new element goes from the end of the list to the end of its part
      refine (ih.append_right [x]).trans ?_
      simp only [List.append_assoc]
      exact .append_left _ (.append_left _ List.perm_append_comm)

/-- What stands in the list stands in one of the parts. -/
theorem exists_of_mem {β : Type} {ys : List β} {part : β → List α}
    (h : Interleaved (ys.map part) xs) {x : α} (hx : x ∈ xs) : ∃ y ∈ ys, x ∈ part y := by
  obtain ⟨_, hmem, hx⟩ := List.mem_flatten.mp (h.perm.subset hx)
  obtain ⟨y, hy, rfl⟩ := List.mem_map.mp hmem
  exact ⟨y, hy, hx⟩

/-- Where only one of the parts has elements of a kind, these stand in the order of the parts. -/
theorem filter_eq {q : α → Bool} (h : Interleaved parts xs)
    (hone : parts.Pairwise fun x y => x.filter q = [] ∨ y.filter q = []) :
    xs.filter q = parts.flatten.filter q := by
  induction h with
  | nil hparts => rw [List.flatten_eq_nil_iff.mpr hparts]
  | @concat before after part xs x _ ih =>
      rw [List.pairwise_append, List.pairwise_cons] at hone
      obtain ⟨hbefore, ⟨hpart, hafter⟩, hacross⟩ := hone
      have hshorter : (part ++ [x]).filter q = [] → part.filter q = [] := by
        rw [List.filter_append, List.append_eq_nil_iff]
        exact And.left
      have hrest := ih (by
        rw [List.pairwise_append, List.pairwise_cons]
        refine ⟨hbefore, ⟨?_, hafter⟩, ?_⟩
        · intro y hy
          exact (hpart y hy).imp_left hshorter
        · intro y hy z hz
          rcases List.mem_cons.mp hz with rfl | hz
          · exact (hacross y hy _ (List.mem_cons_self ..)).imp_right hshorter
          · exact hacross y hy z (List.mem_cons_of_mem _ hz))
      rw [List.filter_append, hrest]
      simp only [List.flatten_append, List.flatten_cons, List.filter_append, List.append_assoc]
      cases hx : q x with
      | false => simp [hx]
      | true =>
          -- the parts after this one have nothing of the kind, so the new element comes last
          have hnone : after.flatten.filter q = [] := by
            rw [List.filter_flatten, List.flatten_eq_nil_iff]
            intro y hy
            obtain ⟨z, hz, rfl⟩ := List.mem_map.mp hy
            exact (hpart z hz).resolve_left (by simp [hx])
          rw [hnone, List.append_nil, List.nil_append]

end Interleaved
end AdvisoryLedger
