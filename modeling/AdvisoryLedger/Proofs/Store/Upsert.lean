import AdvisoryLedger.Proofs.Store.Invariant

/-!
# How a vulnerability is written over

A vulnerability is known by its source and its identifier. Where the table has a row for
them the columns of that row are overwritten, and else a row is added. `Upserted` says both,
and the lemmas below it are all that later proofs ask of the table.
-/

namespace AdvisoryLedger
namespace Store

variable {s : Store}

/-! ## The row of a vulnerability -/

/-- A row after a vulnerability was written: the row of its key has new columns. -/
def overwrite (vulnId : String) (v : Vulnerability) (r : VulnerabilityRow) : VulnerabilityRow :=
  if r.source = v.source ∧ r.vulnId = vulnId then vulnerabilityRow r.id vulnId v else r

theorem overwrite_of_key {vulnId : String} {v : Vulnerability} {r : VulnerabilityRow}
    (h : r.key = (v.source, vulnId)) : overwrite vulnId v r = vulnerabilityRow r.id vulnId v :=
  if_pos (Prod.mk.injEq .. ▸ h)

theorem overwrite_of_key_ne {vulnId : String} {v : Vulnerability} {r : VulnerabilityRow}
    (h : r.key ≠ (v.source, vulnId)) : overwrite vulnId v r = r :=
  if_neg (fun hk => h (Prod.ext hk.1 hk.2))

@[simp] theorem overwrite_id (vulnId : String) (v : Vulnerability) (r : VulnerabilityRow) :
    (overwrite vulnId v r).id = r.id := by
  unfold overwrite
  split <;> rfl

@[simp] theorem overwrite_key (vulnId : String) (v : Vulnerability) (r : VulnerabilityRow) :
    (overwrite vulnId v r).key = r.key := by
  unfold overwrite
  split
  · next h => exact Prod.ext h.1.symm h.2.symm
  · rfl

/-- The table of vulnerabilities after one was written, with the number of its row. -/
inductive Upserted (old : List VulnerabilityRow) (vulnId : String) (v : Vulnerability) :
    Nat → List VulnerabilityRow → Prop
  | overwritten {r : VulnerabilityRow} : r ∈ old → r.key = (v.source, vulnId) →
    Upserted old vulnId v r.id (old.map (overwrite vulnId v))
  | added {row : Nat} : (v.source, vulnId) ∉ old.map (·.key) → row ∉ old.map (·.id) →
    Upserted old vulnId v row (old ++ [vulnerabilityRow row vulnId v])

namespace Upserted

variable {old new : List VulnerabilityRow} {vulnId : String} {v : Vulnerability} {row : Nat}

/-- The row that was written is there. -/
theorem mem (h : Upserted old vulnId v row new) : vulnerabilityRow row vulnId v ∈ new := by
  cases h with
  | overwritten hr hkey => exact List.mem_map.mpr ⟨_, hr, overwrite_of_key hkey⟩
  | added _ _ => exact List.mem_append_right _ (List.mem_singleton_self _)

/-- The other rows are there too. -/
theorem overwrite_mem (h : Upserted old vulnId v row new) {r : VulnerabilityRow} (hr : r ∈ old) :
    overwrite vulnId v r ∈ new := by
  cases h with
  | overwritten _ _ => exact List.mem_map_of_mem hr
  | added hkey _ =>
      have hne : r.key ≠ (v.source, vulnId) := fun he => hkey (he ▸ List.mem_map_of_mem hr)
      rw [overwrite_of_key_ne hne]
      exact List.mem_append_left _ hr

/-- No row comes from elsewhere. -/
theorem of_mem (h : Upserted old vulnId v row new) {r : VulnerabilityRow} (hr : r ∈ new) :
    r = vulnerabilityRow row vulnId v ∨ ∃ r' ∈ old, r = overwrite vulnId v r' := by
  cases h with
  | overwritten _ _ =>
      obtain ⟨r', hr', rfl⟩ := List.mem_map.mp hr
      exact .inr ⟨r', hr', rfl⟩
  | added hkey _ =>
      rcases List.mem_append.mp hr with hold | hnew
      · have hne : r.key ≠ (v.source, vulnId) := fun he => hkey (he ▸ List.mem_map_of_mem hold)
        exact .inr ⟨r, hold, (overwrite_of_key_ne hne).symm⟩
      · exact .inl (List.mem_singleton.mp hnew)

/-- A key that was there is overwritten. -/
theorem eq_map (h : Upserted old vulnId v row new) {r : VulnerabilityRow} (hr : r ∈ old)
    (hkey : r.key = (v.source, vulnId)) : new = old.map (overwrite vulnId v) := by
  cases h with
  | overwritten _ _ => rfl
  | added hnew _ => exact absurd (hkey ▸ List.mem_map_of_mem hr) hnew

end Upserted

theorem map_id_overwrite (vulnId : String) (v : Vulnerability) (rows : List VulnerabilityRow) :
    (rows.map (overwrite vulnId v)).map (·.id) = rows.map (·.id) := by
  simp [Function.comp_def]

theorem map_key_overwrite (vulnId : String) (v : Vulnerability) (rows : List VulnerabilityRow) :
    (rows.map (overwrite vulnId v)).map (·.key) = rows.map (·.key) := by
  simp [Function.comp_def]

/-- A table of vulnerabilities in order that keeps the row numbers keeps the links right. -/
theorem WellFormed.withVulnerabilities (h : s.WellFormed) {rows : List VulnerabilityRow}
    {last : Nat} (hkeys : (rows.map (·.key)).Nodup) (hids : (rows.map (·.id)).Nodup)
    (hle : ∀ r ∈ rows, r.id ≤ last) (hblank : ∀ r ∈ rows, Text.trim r.vulnId.toList ≠ [])
    (hsub : s.vulnerabilityIds ⊆ rows.map (·.id)) :
    { s with vulnerabilities := rows, lastVulnerability := last }.WellFormed :=
  { h with
    vulnerabilityKeys := hkeys
    vulnerabilityIds := hids
    vulnerabilityId_le := by
      intro id hid
      obtain ⟨r, hr, rfl⟩ := List.mem_map.mp hid
      exact hle r hr
    vulnId_ne_blank := hblank
    weaknessLink_vulnerability := fun l hl => hsub (h.weaknessLink_vulnerability l hl)
    predicateLink_vulnerability := fun l hl => hsub (h.predicateLink_vulnerability l hl)
    attribution_vulnerability := fun a ha => hsub (h.attribution_vulnerability a ha) }

theorem WellFormed.id_le (h : s.WellFormed) {r : VulnerabilityRow} (hr : r ∈ s.vulnerabilities) :
    r.id ≤ s.lastVulnerability :=
  h.vulnerabilityId_le r.id (List.mem_map_of_mem hr)

theorem WellFormed.overwriteVulnerability (h : s.WellFormed) {vulnId : String}
    (hblank : Text.trim vulnId.toList ≠ []) (v : Vulnerability) :
    { s with
      vulnerabilities := s.vulnerabilities.map (overwrite vulnId v)
      lastVulnerability := s.lastVulnerability + 1 }.WellFormed := by
  apply h.withVulnerabilities
  · rw [map_key_overwrite]
    exact h.vulnerabilityKeys
  · rw [map_id_overwrite]
    exact h.vulnerabilityIds
  · intro r hr
    obtain ⟨r', hr', rfl⟩ := List.mem_map.mp hr
    rw [overwrite_id]
    exact Nat.le_succ_of_le (h.id_le hr')
  · intro r hr
    obtain ⟨r', hr', rfl⟩ := List.mem_map.mp hr
    by_cases hkey : r'.key = (v.source, vulnId)
    · rw [overwrite_of_key hkey]
      exact hblank
    · rw [overwrite_of_key_ne hkey]
      exact h.vulnId_ne_blank r' hr'
  · rw [map_id_overwrite]
    exact List.Subset.refl _

theorem WellFormed.addVulnerability (h : s.WellFormed) {vulnId : String}
    (hblank : Text.trim vulnId.toList ≠ []) {v : Vulnerability}
    (hkey : (v.source, vulnId) ∉ s.vulnerabilityKeys)
    (hfree : s.lastVulnerability + 1 ∉ s.vulnerabilityIds) :
    { s with
      vulnerabilities := s.vulnerabilities ++ [vulnerabilityRow (s.lastVulnerability + 1) vulnId v]
      lastVulnerability := s.lastVulnerability + 1 }.WellFormed := by
  apply h.withVulnerabilities
  · rw [List.map_append]
    exact nodup_append_singleton h.vulnerabilityKeys hkey
  · rw [List.map_append]
    exact nodup_append_singleton h.vulnerabilityIds hfree
  · intro r hr
    rcases List.mem_append.mp hr with hold | hnew
    · exact Nat.le_succ_of_le (h.id_le hold)
    · rw [List.mem_singleton.mp hnew]
      exact Nat.le_refl _
  · intro r hr
    rcases List.mem_append.mp hr with hold | hnew
    · exact h.vulnId_ne_blank r hold
    · rw [List.mem_singleton.mp hnew]
      exact hblank
  · rw [List.map_append]
    exact List.subset_append_left _ _

/-- A vulnerability with an identifier gets a row or is written over the one that it has. -/
theorem upsertVulnerability_spec (h : s.WellFormed) {vulnId : String}
    (hblank : Text.trim vulnId.toList ≠ []) (v : Vulnerability) :
    ∃ row rows last,
      s.upsertVulnerability vulnId v
        = .ok (row, { s with vulnerabilities := rows, lastVulnerability := last }) ∧
      { s with vulnerabilities := rows, lastVulnerability := last }.WellFormed ∧
      Upserted s.vulnerabilities vulnId v row rows := by
  unfold upsertVulnerability
  cases hrow : s.vulnerabilityRow? v.source vulnId with
  | some r =>
      have hr := (vulnerabilityRow?_eq_some_iff h).mp hrow
      exact ⟨r.id, _, _, rfl, h.overwriteVulnerability hblank v, .overwritten hr.1 hr.2⟩
  | none =>
      have hkey := vulnerabilityRow?_eq_none_iff.mp hrow
      have hfree : s.lastVulnerability + 1 ∉ s.vulnerabilityIds := by
        intro hmem
        have := h.vulnerabilityId_le _ hmem
        omega
      have hany : s.vulnerabilities.any (·.id == s.lastVulnerability + 1) = false := by
        simpa [vulnerabilityIds] using hfree
      exact ⟨_, _, _, by simp only [hany]; rfl, h.addVulnerability hblank hkey hfree,
        .added hkey hfree⟩

end Store
end AdvisoryLedger
