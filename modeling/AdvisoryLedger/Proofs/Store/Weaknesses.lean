import AdvisoryLedger.Advisory.Draft
import AdvisoryLedger.Proofs.Sorting
import AdvisoryLedger.Proofs.Store.LastWrite

/-!
# Weaknesses

The problems of an advisory name weaknesses by their numbers. A draft has those that the store
knows, each once and in the order in which the problems name them; a store gives them back in
the order of their numbers. Renaming a weakness changes neither list of numbers, and no number
is ever forgotten.
-/

namespace AdvisoryLedger

theorem eraseDups_eq_self {α : Type} [DecidableEq α] {xs : List α} (h : xs.Nodup) :
    xs.eraseDups = xs := by
  induction xs using List.reverseRecOn with
  | nil => rfl
  | append_singleton xs x ih =>
      rw [← List.concat_eq_append, List.nodup_concat] at h
      rw [eraseDups_append_singleton, if_neg h.1, ih h.2]

/-- Values that a function tells apart are repeated where their images are. -/
theorem map_eraseDups {α β : Type} [DecidableEq α] [DecidableEq β] {f : α → β} {xs : List α}
    (h : ∀ x ∈ xs, ∀ y ∈ xs, f x = f y → x = y) :
    xs.eraseDups.map f = (xs.map f).eraseDups := by
  induction xs using List.reverseRecOn with
  | nil => simp
  | append_singleton xs x ih =>
      have hxs := ih fun y hy z hz => h y (List.mem_append_left _ hy) z (List.mem_append_left _ hz)
      have hmem : f x ∈ xs.map f ↔ x ∈ xs := by
        refine ⟨fun hfx => ?_, List.mem_map_of_mem⟩
        obtain ⟨y, hy, hyx⟩ := List.mem_map.mp hfx
        rw [← h y (List.mem_append_left _ hy) x (List.mem_append_right _ (by simp)) hyx]
        exact hy
      rw [List.map_append, List.map_singleton, eraseDups_append_singleton,
        eraseDups_append_singleton, ← hxs]
      by_cases hx : x ∈ xs
      · rw [if_pos hx, if_pos (hmem.mpr hx)]
      · rw [if_neg hx, if_neg (fun hfx => hx (hmem.mp hfx)), List.map_append, List.map_singleton]

/-- The weaknesses among some problems are those that they name, without repetitions. -/
theorem weaknessesAmong_eq (resolve : String → Option Weakness) (problems : List String) :
    weaknessesAmong resolve problems = (problems.filterMap resolve).eraseDups := by
  induction problems using List.reverseRecOn with
  | nil => simp [weaknessesAmong]
  | append_singleton problems problem ih =>
      unfold weaknessesAmong at ih ⊢
      rw [List.foldl_append, ih, List.foldl_cons, List.foldl_nil, List.filterMap_append]
      cases hw : resolve problem with
      | none => rw [List.filterMap_cons_none hw, List.filterMap_nil, List.append_nil]
      | some w =>
          rw [List.filterMap_cons_some hw, List.filterMap_nil, eraseDups_append_singleton]
          simp only [List.mem_eraseDups]

namespace Store

variable {s t : Store}

/-! ## The table of weaknesses -/

/-- The numbers of the weaknesses that a store knows. -/
def weaknessIds (s : Store) : List Nat := s.weaknesses.map (·.id)

theorem weakness?_eq_some_iff (h : s.WellFormed) {id : Nat} {w : Weakness} :
    s.weakness? id = some w ↔ w ∈ s.weaknesses ∧ w.id = id :=
  find?_eq_some_iff_of_nodup h.weaknessIds

theorem weakness?_eq_none_iff {id : Nat} : s.weakness? id = none ↔ id ∉ s.weaknessIds :=
  find?_eq_none_iff_not_mem

theorem weakness?_eq (h : t.weaknesses = s.weaknesses) : t.weakness? = s.weakness? := by
  funext id
  unfold weakness?
  rw [h]

theorem subset_weaknessIds_insertWeakness (s : Store) (w : Weakness) :
    s.weaknessIds ⊆ (s.insertWeakness w).weaknessIds := by
  unfold insertWeakness weaknessIds
  split
  · rw [map_replace (·.id) w]
    exact List.Subset.refl _
  · rw [List.map_append]
    exact List.subset_append_left _ _

theorem subset_weaknessIds_perform (h : s.WellFormed) (op : Operation) :
    s.weaknessIds ⊆ (s.perform op).2.weaknessIds := by
  cases op with
  | upsertComponent c =>
      show s.weaknessIds ⊆ (s.upsertComponent c).weaknessIds
      rw [upsertComponent_eq]
      exact List.Subset.refl _
  | insertWeakness w => exact subset_weaknessIds_insertWeakness s w
  | synchronize d =>
      rcases perform_synchronize_cases h d with ⟨e, heq⟩ | ⟨_, _, _, t, _, heq, ht⟩
      · rw [heq]
        exact List.Subset.refl _
      · rw [heq]
        unfold weaknessIds
        rw [ht.weaknesses]
        exact List.Subset.refl _
  | attach v component now =>
      rcases perform_attach_cases h v component now with heq | ⟨row, -, ht⟩
      · rw [heq]
        exact List.Subset.refl _
      · rw [ht.eq]
        exact List.Subset.refl _
  | find p => exact List.Subset.refl _
  | get source vulnId => exact List.Subset.refl _

/-- No weakness is forgotten. -/
theorem subset_weaknessIds_after (h : s.WellFormed) (ops : List Operation) :
    s.weaknessIds ⊆ (s.after ops).weaknessIds := by
  induction ops generalizing s with
  | nil => exact List.Subset.refl _
  | cons op ops ih => exact List.Subset.trans (subset_weaknessIds_perform h op) (ih (h.perform op))

/-! ## The weaknesses of a draft -/

theorem resolve?_eq_some (h : s.WellFormed) {problem : String} {w : Weakness}
    (hw : s.resolve? problem = some w) : s.weakness? w.id = some w := by
  obtain ⟨id, -, hid⟩ := Option.bind_eq_some_iff.mp hw
  rw [((weakness?_eq_some_iff h).mp hid).2]
  exact hid

/-- The numbers of the weaknesses of a draft are those in its problems that the store knows. -/
theorem map_id_weaknessesAmong (h : s.WellFormed) (problems : List String) :
    (weaknessesAmong s.resolve? problems).map (·.id)
      = ((problems.filterMap Weakness.parseId?).filter (· ∈ s.weaknessIds)).eraseDups := by
  rw [weaknessesAmong_eq, map_eraseDups]
  · congr 1
    rw [List.map_filterMap, List.filter_filterMap]
    apply List.filterMap_congr
    intro problem _
    unfold resolve?
    cases Weakness.parseId? problem with
    | none => rfl
    | some id =>
        rw [Option.bind_some, Option.filter_some]
        cases hw : s.weakness? id with
        | none => simp [weakness?_eq_none_iff.mp hw]
        | some w =>
            obtain ⟨hmem, rfl⟩ := (weakness?_eq_some_iff h).mp hw
            have hknown : w.id ∈ s.weaknessIds := List.mem_map_of_mem hmem
            simp [hknown]
  · intro w hw w' hw' hid
    obtain ⟨_, -, hw⟩ := List.mem_filterMap.mp hw
    obtain ⟨_, -, hw'⟩ := List.mem_filterMap.mp hw'
    have heq := resolve?_eq_some h hw
    rw [hid, resolve?_eq_some h hw'] at heq
    exact (Option.some.inj heq).symm

theorem weakness?_of_mem_weaknessesAmong (h : s.WellFormed) {problems : List String} {w : Weakness}
    (hw : w ∈ weaknessesAmong s.resolve? problems) : s.weakness? w.id = some w := by
  rw [weaknessesAmong_eq, List.mem_eraseDups] at hw
  obtain ⟨problem, -, hw⟩ := List.mem_filterMap.mp hw
  exact resolve?_eq_some h hw

/-- No number is named twice. -/
theorem nodup_map_id_weaknessesAmong (h : s.WellFormed) (problems : List String) :
    ((weaknessesAmong s.resolve? problems).map (·.id)).Nodup := by
  rw [map_id_weaknessesAmong h]
  exact nodup_eraseDups _

/-- A number is among them if the store knows it and some problem has it. -/
theorem mem_map_id_weaknessesAmong (h : s.WellFormed) {problems : List String} {id : Nat} :
    id ∈ (weaknessesAmong s.resolve? problems).map (·.id) ↔
      id ∈ s.weaknessIds ∧ ∃ problem ∈ problems, Weakness.parseId? problem = some id := by
  rw [map_id_weaknessesAmong h, List.mem_eraseDups, List.mem_filter, List.mem_filterMap,
    decide_eq_true_eq, and_comm]

/-! ## Reading weaknesses -/

theorem weaknessesOf_eq (s : Store) (row : Nat) : s.weaknessesOf row =
    ((s.weaknessIdsOf row).mergeSort fun a b => decide (a ≤ b)).filterMap s.weakness? := rfl

/-- Weaknesses that a store knows are given back from their numbers, sorted by number. -/
theorem filterMap_weakness?_mergeSort {ws : List Weakness}
    (h : ∀ w ∈ ws, s.weakness? w.id = some w) :
    (((ws.map (·.id)).mergeSort fun a b => decide (a ≤ b))).filterMap s.weakness?
      = ws.mergeSort fun a b => decide (a.id ≤ b.id) := by
  rw [← List.map_mergeSort (r := fun a b => decide (a.id ≤ b.id)) (fun _ _ _ _ => rfl),
    List.filterMap_map]
  have hall : ∀ w ∈ ws.mergeSort (fun a b => decide (a.id ≤ b.id)),
      (s.weakness? ∘ (·.id)) w = some w :=
    fun w hw => h w ((List.mergeSort_perm ws _).subset hw)
  rw [List.filterMap_congr hall]
  exact List.filterMap_some

/-- No link is there twice. -/
theorem nodup_weaknessIdsOf (h : s.WellFormed) (row : Nat) : (s.weaknessIdsOf row).Nodup := by
  refine List.Nodup.map_on ?_ (h.weaknessLinks.filter _)
  intro l hl l' hl' heq
  rw [List.mem_filter, beq_iff_eq] at hl hl'
  cases l
  cases l'
  simp_all

/-- The weaknesses of a vulnerability are read in the order of their numbers, each once. -/
theorem pairwise_weaknessesOf (h : s.WellFormed) (row : Nat) :
    (s.weaknessesOf row).Pairwise fun v w => v.id < w.id := by
  have hids : ((s.weaknessIdsOf row).map id).Nodup := by
    rw [List.map_id]
    exact nodup_weaknessIdsOf h row
  have hsorted := pairwise_lt_mergeSort (fun _ _ => decide_eq_true_iff) hids
  rw [weaknessesOf_eq]
  refine List.Pairwise.filterMap s.weakness? ?_ hsorted
  intro a b hab v hv w hw
  obtain rfl := ((weakness?_eq_some_iff h).mp hv).2
  obtain rfl := ((weakness?_eq_some_iff h).mp hw).2
  exact hab

/-- They are the rows of the table that the vulnerability is linked to. -/
theorem mem_weaknessesOf (h : s.WellFormed) {row : Nat} {w : Weakness} :
    w ∈ s.weaknessesOf row ↔ w ∈ s.weaknesses ∧ w.id ∈ s.weaknessIdsOf row := by
  rw [weaknessesOf_eq, List.mem_filterMap]
  simp only [List.mem_mergeSort, weakness?_eq_some_iff h]
  constructor
  · rintro ⟨id, hid, hw, rfl⟩
    exact ⟨hw, hid⟩
  · rintro ⟨hw, hid⟩
    exact ⟨w.id, hid, hw, rfl⟩

end Store
end AdvisoryLedger
