import AdvisoryLedger.Text.Basic
import Mathlib.Data.List.Basic

/-!
# Pieces of texts

Range expressions are cut at commas and package URLs at slashes. A piece that comes out stands
in the text as it is and does not have the mark in it, and trimming takes it only from its
ends.
-/

namespace AdvisoryLedger
namespace Text

variable {mark : Char} {cs piece : List Char}

theorem isInfix_trim (cs : List Char) : trim cs <:+: cs := by
  obtain ⟨g, g', -, -, h⟩ := exists_trim cs
  exact ⟨g, g', h.symm⟩

theorem trim_subset (cs : List Char) : trim cs ⊆ cs := (isInfix_trim cs).subset

/-- A piece between marks stands in the text that was cut. -/
theorem infix_of_mem_splitOn (h : piece ∈ cs.splitOn mark) : piece <:+: cs := by
  have hpieces (ls : List (List Char)) (hl : piece ∈ ls) : piece <:+: [mark].intercalate ls := by
    induction ls with
    | nil => cases hl
    | cons l ls ih =>
        cases ls with
        | nil =>
            obtain rfl := List.mem_singleton.mp hl
            simp
        | cons l' ls =>
            rw [List.intercalate_cons_cons, List.append_assoc]
            rcases List.mem_cons.mp hl with rfl | hrest
            · exact List.infix_append' [] _ _
            · have hlater := ih hrest
              exact hlater.trans ((List.suffix_append _ _).trans (List.suffix_append _ _)).isInfix
  have hwhole : [mark].intercalate (cs.splitOn mark) = cs := List.intercalate_splitOn mark
  rw [← hwhole]
  exact hpieces _ h

/-- It does not have the mark in it. -/
theorem not_mem_of_mem_splitOn (h : piece ∈ cs.splitOn mark) : mark ∉ piece := by
  induction cs generalizing piece with
  | nil =>
      rw [List.splitOn_nil, List.mem_singleton] at h
      simp [h]
  | cons c cs ih =>
      rw [List.splitOn_cons_eq_if_modifyHead] at h
      split at h
      · rcases List.mem_cons.mp h with rfl | h
        · exact List.not_mem_nil
        · exact ih h
      · next hc =>
        obtain ⟨first, rest, hsplit⟩ := List.exists_cons_of_ne_nil (List.splitOn_ne_nil mark cs)
        rw [hsplit, List.modifyHead_cons] at h
        rcases List.mem_cons.mp h with rfl | h
        · rw [List.mem_cons, not_or]
          exact ⟨fun heq => hc (by simp [heq]), ih (by rw [hsplit]; exact List.mem_cons_self ..)⟩
        · exact ih (by rw [hsplit]; exact List.mem_cons_of_mem _ h)

end Text
end AdvisoryLedger
