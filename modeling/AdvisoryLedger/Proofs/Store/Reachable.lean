import AdvisoryLedger.Proofs.Store.Synchronize

/-!
# What holds along every history

Each operation keeps the representation invariant and every row that is there, so every
history does. The main statement is `after_wellFormed_extends`: whatever was asked of an
empty store, its tables are well-formed, and whatever is asked of it later, no row goes and
no number passes from one key to another.
-/

namespace AdvisoryLedger
namespace Store

variable {s t : Store}

/-- A write either fails and leaves the store alone or is the one that `Synchronized` tells of. -/
theorem perform_synchronize_cases (h : s.WellFormed) (d : Draft) :
    (∃ e, s.perform (.synchronize d) = (.synchronized (.error e), s)) ∨
    ∃ vulnId row kept t, storableId? d.record = some vulnId ∧
      s.perform (.synchronize d) = (.synchronized (.ok (answer d row kept)), t) ∧
      Synchronized s d vulnId row kept t := by
  cases hid : storableId? d.record with
  | none =>
      left
      refine ⟨.payload .missingIdentifier, ?_⟩
      simp only [perform, synchronize_of_storableId?_eq_none hid]
  | some vulnId =>
      right
      obtain ⟨row, kept, t, heq, ht⟩ := synchronize_spec h hid
      refine ⟨vulnId, row, kept, t, rfl, ?_, ht⟩
      simp only [perform, heq]

/-- An attachment leaves the store alone or is one that `Attached` tells of. -/
theorem perform_attach_cases (h : s.WellFormed) (v : Vulnerability) (component : String)
    (now : Instant) :
    (s.perform (.attach v component now)).2 = s ∨
    ∃ row ∈ s.vulnerabilityIds, Attached s component row (s.perform (.attach v component now)).2 := by
  cases heq : s.attach v component now with
  | error e =>
      left
      simp only [perform, heq]
  | ok r =>
      simp only [perform, heq]
      exact attached_of_attach_ok h heq

theorem WellFormed.perform (h : s.WellFormed) (op : Operation) : (s.perform op).2.WellFormed := by
  cases op with
  | upsertComponent c => exact h.upsertComponent c
  | insertWeakness w => exact h.insertWeakness w
  | synchronize d =>
      rcases perform_synchronize_cases h d with ⟨e, heq⟩ | ⟨_, _, _, t, _, heq, ht⟩
      · rw [heq]
        exact h
      · rw [heq]
        exact ht.wellFormed
  | attach v component now =>
      rcases perform_attach_cases h v component now with heq | ⟨row, hrow, ht⟩
      · rw [heq]
        exact h
      · exact ht.wellFormed h hrow
  | find p => exact h
  | get source vulnId => exact h

theorem Extends.perform (h : s.WellFormed) (op : Operation) : s.Extends (s.perform op).2 := by
  cases op with
  | upsertComponent c => exact .upsertComponent s c
  | insertWeakness w => exact .insertWeakness s w
  | synchronize d =>
      rcases perform_synchronize_cases h d with ⟨e, heq⟩ | ⟨_, _, _, t, _, heq, ht⟩
      · rw [heq]
        exact .refl s
      · rw [heq]
        exact ht.extends
  | attach v component now =>
      rcases perform_attach_cases h v component now with heq | ⟨row, hrow, ht⟩
      · rw [heq]
        exact .refl s
      · exact ht.extends
  | find p => exact .refl s
  | get source vulnId => exact .refl s

theorem WellFormed.after (h : s.WellFormed) (ops : List Operation) : (s.after ops).WellFormed := by
  induction ops generalizing s with
  | nil => exact h
  | cons op ops ih => exact ih (h.perform op)

theorem Extends.after (h : s.WellFormed) (ops : List Operation) : s.Extends (s.after ops) := by
  induction ops generalizing s with
  | nil => exact .refl s
  | cons op ops ih => exact (Extends.perform h op).trans (ih (h.perform op))

/-- The row numbers of vulnerabilities tell their keys apart, also between an earlier store and
a later one. -/
theorem Extends.id_eq_iff_key_eq (h : s.Extends t) (ht : t.WellFormed) {r r' : VulnerabilityRow}
    (hr : r ∈ s.vulnerabilities) (hr' : r' ∈ t.vulnerabilities) :
    r.id = r'.id ↔ r.key = r'.key := by
  -- what the later store has in place of the row has the same number and key
  obtain ⟨r₁, hr₁, hid, hkey⟩ := h.vulnerabilities r hr
  constructor
  · intro heq
    have : r₁ = r' := List.inj_on_of_nodup_map ht.vulnerabilityIds hr₁ hr' (hid.trans heq)
    rw [← hkey, this]
  · intro heq
    have : r₁ = r' := List.inj_on_of_nodup_map ht.vulnerabilityKeys hr₁ hr' (hkey.trans heq)
    rw [← hid, this]

/-- The same for predicates. -/
theorem Extends.id_eq_iff_identity_eq (h : s.Extends t) (ht : t.WellFormed) {r r' : PredicateRow}
    (hr : r ∈ s.predicates) (hr' : r' ∈ t.predicates) :
    r.id = r'.id ↔ r.identity = r'.identity := by
  constructor
  · intro heq
    rw [List.inj_on_of_nodup_map ht.predicateIds (h.predicates hr) hr' heq]
  · intro heq
    rw [List.inj_on_of_nodup_map ht.identities (h.predicates hr) hr' heq]

/-- **The representation invariant holds along every history, and rows last.** The store that a
history leads to is well-formed, a longer history keeps its rows, and a row number belongs to
one key for good. -/
theorem after_wellFormed_extends (ops later : List Operation) :
    (empty.after ops).WellFormed ∧
    (empty.after ops).Extends (empty.after (ops ++ later)) ∧
    (∀ r ∈ (empty.after ops).vulnerabilities,
      ∀ r' ∈ (empty.after (ops ++ later)).vulnerabilities, r.id = r'.id ↔ r.key = r'.key) ∧
    (∀ r ∈ (empty.after ops).predicates,
      ∀ r' ∈ (empty.after (ops ++ later)).predicates, r.id = r'.id ↔ r.identity = r'.identity) := by
  have hs : (empty.after ops).WellFormed := wellFormed_empty.after ops
  have ht : (empty.after (ops ++ later)).WellFormed := wellFormed_empty.after _
  have hext : (empty.after ops).Extends (empty.after (ops ++ later)) := by
    rw [after_append]
    exact .after hs later
  exact ⟨hs, hext, fun r hr r' hr' => hext.id_eq_iff_key_eq ht hr hr',
    fun r hr r' hr' => hext.id_eq_iff_identity_eq ht hr hr'⟩

end Store
end AdvisoryLedger
