import AdvisoryLedger.Proofs.Store.Predicates

/-!
# How links are replaced

All links of a vulnerability are dropped and then put in again, those to weaknesses and those
to predicates alike. `relink` is that step on a list of links, whatever they are links to: the
links of the owner become the new ones and those of others stay.
-/

namespace AdvisoryLedger
namespace Store

variable {s : Store}

/-! ## Links -/

/-- The links of a vulnerability to weaknesses. -/
def weaknessBlock (row : Nat) (ids : List Nat) : List WeaknessLink := ids.map (⟨row, ·⟩)

/-- The links of a vulnerability to predicates, in places that count from a first one. -/
def predicateBlock (row position : Nat) (ids : List Nat) : List PredicateLink :=
  (ids.zipIdx position).map fun e => ⟨row, e.1, e.2⟩

theorem vulnerability_of_mem_weaknessBlock {row : Nat} {ids : List Nat} :
    ∀ l ∈ weaknessBlock row ids, l.vulnerability = row := by
  intro l hl
  obtain ⟨id, -, rfl⟩ := List.mem_map.mp hl
  rfl

theorem vulnerability_of_mem_predicateBlock {row position : Nat} {ids : List Nat} :
    ∀ l ∈ predicateBlock row position ids, l.vulnerability = row := by
  intro l hl
  obtain ⟨e, -, rfl⟩ := List.mem_map.mp hl
  rfl

/-- The weaknesses and the predicates of a block are those that it was made of. -/
theorem map_weaknessBlock (row : Nat) (ids : List Nat) :
    (weaknessBlock row ids).map (·.weakness) = ids := by
  simp [weaknessBlock, Function.comp_def]

theorem map_predicateBlock (row position : Nat) (ids : List Nat) :
    (predicateBlock row position ids).map (·.predicate) = ids := by
  simp [predicateBlock, Function.comp_def]

/-! ## Replacing the links of one owner -/

/-- The links after those of one owner were replaced. -/
def relink {α : Type} (owner : α → Nat) (links : List α) (block : Nat × List α) : List α :=
  links.filter (owner · != block.1) ++ block.2

section Relink

variable {α : Type} {owner : α → Nat} {row : Nat} {block : List α}

/-- A link is one that was there, of another owner, or a new one. -/
theorem of_mem_relink {links : List α} {l : α} (hl : l ∈ relink owner links (row, block)) :
    l ∈ links ∧ owner l ≠ row ∨ l ∈ block := by
  rcases List.mem_append.mp hl with hold | hnew
  · exact .inl ⟨List.mem_of_mem_filter hold, by simpa using List.of_mem_filter hold⟩
  · exact .inr hnew

/-- The links of the owner are what was put there, those of others what they were. -/
theorem filter_relink (h : ∀ l ∈ block, owner l = row) (links : List α) (other : Nat) :
    (relink owner links (row, block)).filter (owner · == other) =
      if other = row then block else links.filter (owner · == other) := by
  unfold relink
  rw [List.filter_append, List.filter_filter]
  by_cases ho : other = row
  · subst ho
    have hnone : links.filter (fun l => owner l == other && owner l != other) = [] := by
      rw [List.filter_eq_nil_iff]
      intro l _
      simp
    have hall : block.filter (owner · == other) = block := by
      rw [List.filter_eq_self]
      intro l hl
      exact beq_iff_eq.mpr (h l hl)
    rw [if_pos rfl, hnone, hall, List.nil_append]
  · have hnone : block.filter (owner · == other) = [] := by
      rw [List.filter_eq_nil_iff]
      intro l hl
      rw [h l hl, beq_iff_eq]
      exact Ne.symm ho
    rw [if_neg ho, hnone, List.append_nil]
    apply List.filter_congr
    intro l _
    by_cases hl : owner l = other <;> simp [hl, ho]

end Relink

/-! ## Linking one by one -/

theorem linkWeakness_eq {l : WeaknessLink} (hrow : l.vulnerability ∈ s.vulnerabilityIds) :
    s.linkWeakness l = .ok { s with
      weaknessLinks :=
        if l ∈ s.weaknessLinks then s.weaknessLinks else s.weaknessLinks ++ [l] } := by
  have hsome : (s.vulnerabilityAt? l.vulnerability).isNone ≠ true :=
    fun hn => vulnerabilityAt?_isNone_iff.mp hn hrow
  unfold linkWeakness
  rw [if_neg hsome]
  split <;> rfl

theorem linkPredicate_eq {l : PredicateLink} (hrow : l.vulnerability ∈ s.vulnerabilityIds)
    (hid : l.predicate ∈ s.predicateIds)
    (hnew : ∀ m ∈ s.predicateLinks, m.vulnerability = l.vulnerability → m.predicate ≠ l.predicate) :
    s.linkPredicate l = .ok { s with predicateLinks := s.predicateLinks ++ [l] } := by
  have hrow' : (s.vulnerabilityAt? l.vulnerability).isNone ≠ true :=
    fun hn => vulnerabilityAt?_isNone_iff.mp hn hrow
  have hid' : (s.predicateAt? l.predicate).isNone ≠ true :=
    fun hn => predicateAt?_isNone_iff.mp hn hid
  unfold linkPredicate
  rw [if_neg (by simp only [Bool.or_eq_true, not_or]; exact ⟨hrow', hid'⟩), if_neg]
  rw [List.any_eq_true]
  rintro ⟨m, hm, heq⟩
  rw [Bool.and_eq_true, beq_iff_eq, beq_iff_eq] at heq
  exact hnew m hm heq.1 heq.2

/-- Weaknesses are linked once each: those in `done` are linked already. -/
theorem linkWeaknesses_eq {row : Nat} (hrow : row ∈ s.vulnerabilityIds) {base : List WeaknessLink}
    (hbase : ∀ l ∈ base, l.vulnerability ≠ row) (done : List Nat)
    (hdone : s.weaknessLinks = base ++ weaknessBlock row done.eraseDups) (ws : List Weakness) :
    s.linkWeaknesses row ws = .ok { s with
      weaknessLinks := base ++ weaknessBlock row (done ++ ws.map (·.id)).eraseDups } := by
  unfold linkWeaknesses
  -- on the weaknesses that are left, from any store where those in `done` are linked
  induction ws generalizing s done with
  | nil =>
      rw [List.map_nil, List.append_nil, ← hdone]
      rfl
  | cons w ws ih =>
      have hmem : (⟨row, w.id⟩ : WeaknessLink) ∈ s.weaknessLinks ↔ w.id ∈ done := by
        rw [hdone, List.mem_append]
        constructor
        · rintro (hb | hd)
          · exact absurd rfl (hbase _ hb)
          · simpa [weaknessBlock] using hd
        · intro hd
          exact .inr (by simpa [weaknessBlock] using hd)
      have hlinks : (if (⟨row, w.id⟩ : WeaknessLink) ∈ s.weaknessLinks then s.weaknessLinks
          else s.weaknessLinks ++ [⟨row, w.id⟩])
          = base ++ weaknessBlock row (done ++ [w.id]).eraseDups := by
        rw [eraseDups_append_singleton, hdone]
        by_cases hw : w.id ∈ done
        · rw [if_pos (hdone ▸ hmem.mpr hw), if_pos hw]
        · rw [if_neg (fun h => hw (hmem.mp (hdone ▸ h))), if_neg hw]
          simp [weaknessBlock]
      rw [List.foldlM_cons, linkWeakness_eq (show row ∈ _ from hrow), hlinks]
      have hrest := ih (s := { s with
        weaknessLinks := base ++ weaknessBlock row (done ++ [w.id]).eraseDups }) hrow _ rfl
      rw [List.append_assoc] at hrest
      exact hrest

/-- Predicates that the store has and that are not linked yet can be linked. -/
theorem linkPredicates_eq {row : Nat} (hrow : row ∈ s.vulnerabilityIds) {ids : List Nat}
    (hids : ids ⊆ s.predicateIds) (hnodup : ids.Nodup)
    (hnew : ∀ l ∈ s.predicateLinks, l.vulnerability = row → l.predicate ∉ ids) (position : Nat) :
    s.linkPredicates row position ids =
      .ok { s with predicateLinks := s.predicateLinks ++ predicateBlock row position ids } := by
  induction ids generalizing s position with
  | nil => simp [linkPredicates, predicateBlock]
  | cons id ids ih =>
      rw [List.nodup_cons] at hnodup
      -- the predicate that is linked here does not come again
      have hnew' : ∀ l ∈ s.predicateLinks ++ [(⟨row, id, position⟩ : PredicateLink)],
          l.vulnerability = row → l.predicate ∉ ids := by
        intro l hl hl' hmem
        rcases List.mem_append.mp hl with hold | hlast
        · exact hnew l hold hl' (List.mem_cons_of_mem _ hmem)
        · rw [List.mem_singleton.mp hlast] at hmem
          exact hnodup.1 hmem
      have hstep := linkPredicate_eq (l := ⟨row, id, position⟩) hrow
        (hids (List.mem_cons_self ..))
        (fun m hm hrow' heq => hnew m hm hrow' (heq ▸ List.mem_cons_self ..))
      rw [linkPredicates, hstep]
      have hrest := ih (s := { s with
        predicateLinks := s.predicateLinks ++ [⟨row, id, position⟩] }) hrow
        (fun _ h => hids (List.mem_cons_of_mem _ h)) hnodup.2 hnew' (position + 1)
      rw [List.append_assoc] at hrest
      exact hrest

/-! ## The links of a vulnerability in the tables -/

theorem WellFormed.relinkWeaknesses (h : s.WellFormed) {row : Nat} (hrow : row ∈ s.vulnerabilityIds)
    {ids : List Nat} (hids : ids.Nodup) :
    { s with
      weaknessLinks := (s.unlinkWeaknesses row).weaknessLinks ++ weaknessBlock row ids
      }.WellFormed := by
  refine { h with weaknessLinks := ?_, weaknessLink_vulnerability := ?_ }
  · refine List.nodup_append.mpr ⟨h.weaknessLinks.filter _, ?_, ?_⟩
    · exact hids.map (fun a b hab => (WeaknessLink.mk.inj hab).2)
    · -- what is left of the old links has other owners
      intro l hl m hm hlm
      have howner := vulnerability_of_mem_weaknessBlock m hm
      rw [← hlm] at howner
      simpa [howner] using List.of_mem_filter hl
  · intro l hl
    rcases of_mem_relink hl with ⟨hold, -⟩ | hnew
    · exact h.weaknessLink_vulnerability l hold
    · rw [vulnerability_of_mem_weaknessBlock l hnew]
      exact hrow

theorem WellFormed.relinkPredicates (h : s.WellFormed) {row : Nat} (hrow : row ∈ s.vulnerabilityIds)
    {ids : List Nat} (hids : ids ⊆ s.predicateIds) (hnodup : ids.Nodup) :
    { s with
      predicateLinks := (s.unlinkPredicates row).predicateLinks ++ predicateBlock row 0 ids
      }.WellFormed := by
  have hlinks (other : Nat) :
      Store.predicateLinksOf { s with
        predicateLinks :=
          (s.unlinkPredicates row).predicateLinks ++ predicateBlock row 0 ids } other
      = if other = row then predicateBlock row 0 ids else s.predicateLinksOf other :=
    filter_relink vulnerability_of_mem_predicateBlock s.predicateLinks other
  -- positions and repetitions are about the links of one owner, so this decides them
  refine { h with positions := ?_, linkedPredicates := ?_, predicateLink_vulnerability := ?_,
                  predicateLink_predicate := ?_ }
  · intro other
    rw [hlinks]
    split
    · simp [predicateBlock, Function.comp_def, List.zipIdx_map_snd, List.range_eq_range']
    · exact h.positions other
  · intro other
    rw [hlinks]
    split
    · rw [map_predicateBlock]
      exact hnodup
    · exact h.linkedPredicates other
  · intro l hl
    rcases of_mem_relink hl with ⟨hold, -⟩ | hnew
    · exact h.predicateLink_vulnerability l hold
    · rw [vulnerability_of_mem_predicateBlock l hnew]
      exact hrow
  · intro l hl
    rcases of_mem_relink hl with ⟨hold, -⟩ | hnew
    · exact h.predicateLink_predicate l hold
    · have hmem : l.predicate ∈ (predicateBlock row 0 ids).map (·.predicate) :=
        List.mem_map_of_mem hnew
      rw [map_predicateBlock] at hmem
      exact hids hmem

end Store
end AdvisoryLedger
