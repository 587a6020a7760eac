import AdvisoryLedger.Proofs.Store.Links
import AdvisoryLedger.Proofs.Store.Upsert

/-!
# What a write does to the tables

A draft is written in four steps: its predicates are entered, its vulnerability gets a row,
and its two lists of links are replaced. `synchronize_spec` puts the steps together: a draft
with an identifier is always written, and `Synchronized` is all there is to know about the
store afterwards. `attach_spec` does the same for `attach`. Nothing later looks into either
operation again.
-/

namespace AdvisoryLedger
namespace Store

variable {s t : Store}

/-! ## A whole write -/

/-- An identifier that can be stored is one that is not blank. -/
theorem storableId?_eq_some_iff {v : Vulnerability} {vulnId : String} :
    storableId? v = some vulnId ↔ v.vulnId = some vulnId ∧ Text.trim vulnId.toList ≠ [] := by
  unfold storableId?
  rw [Option.filter_eq_some_iff, Bool.not_eq_true', ← Bool.not_eq_true, Text.isBlankText,
    ← Text.trim_eq_nil_iff]

/-- The record that is answered for a draft. -/
def answer (d : Draft) (row : Nat) (kept : List (Nat × Predicate)) : Vulnerability :=
  { d.record with
    row := some (row : Int)
    software := kept.map fun e => { e.2 with row := some (e.1 : Int) } }

/-- The store `t` is `s` after the draft `d` was written under `vulnId`, in row `row` and with
the predicates `kept`. -/
structure Synchronized (s : Store) (d : Draft) (vulnId : String) (row : Nat)
    (kept : List (Nat × Predicate)) (t : Store) : Prop where
  wellFormed : t.WellFormed
  components : t.components = s.components
  weaknesses : t.weaknesses = s.weaknesses
  attributions : t.attributions = s.attributions
  predicates : Entered s.predicates d.software t.predicates
  keeps : Kept t.predicates d.software kept
  vulnerabilities : Upserted s.vulnerabilities vulnId d.record row t.vulnerabilities
  weaknessLinks : t.weaknessLinks = (s.unlinkWeaknesses row).weaknessLinks ++
    weaknessBlock row (d.record.weaknesses.map (·.id)).eraseDups
  predicateLinks : t.predicateLinks = (s.unlinkPredicates row).predicateLinks ++
    predicateBlock row 0 (kept.map (·.1))

/-- A computation that begins with a step that succeeds is the rest of it. -/
theorem bind_eq_of_eq_ok {ε α β : Type} {x : Except ε α} {a : α} {f : α → Except ε β}
    {r : Except ε β} (hx : x = .ok a) (hf : f a = r) : x >>= f = r := by
  subst hx
  exact hf

/-- A draft with an identifier is always written. -/
theorem synchronize_spec (h : s.WellFormed) {d : Draft} {vulnId : String}
    (hid : storableId? d.record = some vulnId) :
    ∃ row kept t, s.synchronize d = .ok (answer d row kept, t) ∧
      Synchronized s d vulnId row kept t := by
  have hblank := (storableId?_eq_some_iff.mp hid).2
  -- the tables after each of the four parts, of which none can fail
  obtain ⟨kept, rows, last, heq₁, hwf₁, hentered, hkept⟩ := persistAll_spec h (.nil _) d.software
  obtain ⟨row, vrows, vlast, heq₂, hwf₂, hupserted⟩ :=
    upsertVulnerability_spec hwf₁ hblank d.record
  have hrow : row ∈ vrows.map (·.id) := List.mem_map.mpr ⟨_, hupserted.mem, rfl⟩
  have hwf₃ := hwf₂.relinkWeaknesses hrow (nodup_eraseDups (d.record.weaknesses.map (·.id)))
  have hwf₄ := hwf₃.relinkPredicates hrow (Kept.subset hkept) (Kept.nodup hwf₃ hkept)
  refine ⟨row, kept, _, ?_, hwf₄, rfl, rfl, rfl, hentered, hkept, hupserted, rfl, rfl⟩
  have heq₃ := linkWeaknesses_eq
    (s := { s with
      predicates := rows, lastPredicate := last, vulnerabilities := vrows,
      lastVulnerability := vlast }.unlinkWeaknesses row)
    hrow (fun l hl => by simpa using List.of_mem_filter hl) [] (List.append_nil _).symm
    d.record.weaknesses
  have heq₄ := linkPredicates_eq
    (s := Store.unlinkPredicates { s with
      predicates := rows, lastPredicate := last, vulnerabilities := vrows,
      lastVulnerability := vlast
      weaknessLinks := (s.unlinkWeaknesses row).weaknessLinks ++
        weaknessBlock row (d.record.weaknesses.map (·.id)).eraseDups } row)
    hrow (Kept.subset hkept) (Kept.nodup hwf₃ hkept)
    (fun l hl hl' => absurd hl' (by simpa using List.of_mem_filter hl)) 0
  unfold synchronize
  rw [hid]
  exact bind_eq_of_eq_ok heq₁ (bind_eq_of_eq_ok heq₂ (bind_eq_of_eq_ok heq₃
    (bind_eq_of_eq_ok heq₄ rfl)))

/-- A draft without one never is. -/
theorem synchronize_of_storableId?_eq_none {d : Draft} (hid : storableId? d.record = none) :
    s.synchronize d = .error (.payload .missingIdentifier) := by
  unfold synchronize
  rw [hid]

section Synchronized

variable {d : Draft} {vulnId : String} {row : Nat} {kept : List (Nat × Predicate)}

theorem Synchronized.extends (h : Synchronized s d vulnId row kept t) : s.Extends t where
  components := by
    unfold componentIds
    rw [h.components]
    exact List.Subset.refl _
  vulnerabilities := fun r hr =>
    ⟨_, h.vulnerabilities.overwrite_mem hr, overwrite_id .., overwrite_key ..⟩
  predicates := h.predicates.subset
  attributions := by
    rw [h.attributions]
    exact List.Subset.refl _

/-- The row of the draft is the one that is found under its key. -/
theorem Synchronized.vulnerabilityRow? (h : Synchronized s d vulnId row kept t) :
    t.vulnerabilityRow? d.record.source vulnId = some (vulnerabilityRow row vulnId d.record) :=
  (vulnerabilityRow?_eq_some_iff h.wellFormed).mpr ⟨h.vulnerabilities.mem, rfl⟩

/-- Under another key nothing changes. -/
theorem Synchronized.vulnerabilityRow?_of_ne (hs : s.WellFormed)
    (h : Synchronized s d vulnId row kept t) {source : Source} {other : String}
    (hne : (source, other) ≠ (d.record.source, vulnId)) :
    t.vulnerabilityRow? source other = s.vulnerabilityRow? source other := by
  apply Option.ext
  intro r
  rw [vulnerabilityRow?_eq_some_iff hs, vulnerabilityRow?_eq_some_iff h.wellFormed]
  constructor
  · rintro ⟨hr, hkey⟩
    rcases h.vulnerabilities.of_mem hr with rfl | ⟨r', hr', rfl⟩
    · exact absurd hkey.symm hne
    · rw [overwrite_key] at hkey
      rw [overwrite_of_key_ne (hkey ▸ hne)]
      exact ⟨hr', hkey⟩
  · rintro ⟨hr, hkey⟩
    have hmem := h.vulnerabilities.overwrite_mem hr
    rw [overwrite_of_key_ne (hkey ▸ hne)] at hmem
    exact ⟨hmem, hkey⟩

/-- A key that was there keeps its row. -/
theorem Synchronized.row_eq (h : Synchronized s d vulnId row kept t) {r : VulnerabilityRow}
    (hr : r ∈ s.vulnerabilities) (hkey : r.key = (d.record.source, vulnId)) : r.id = row := by
  have hmem := h.vulnerabilities.overwrite_mem hr
  rw [overwrite_of_key hkey] at hmem
  have heq := List.inj_on_of_nodup_map h.wellFormed.vulnerabilityKeys hmem
    h.vulnerabilities.mem rfl
  exact congrArg VulnerabilityRow.id heq

/-- A row that was there under another key has another number. -/
theorem Synchronized.row_ne (h : Synchronized s d vulnId row kept t) {r : VulnerabilityRow}
    (hr : r ∈ s.vulnerabilities) (hkey : r.key ≠ (d.record.source, vulnId)) : r.id ≠ row := by
  have hmem := h.vulnerabilities.overwrite_mem hr
  rw [overwrite_of_key_ne hkey] at hmem
  -- otherwise the row of the draft would have two keys
  intro hid
  have heq := List.inj_on_of_nodup_map h.wellFormed.vulnerabilityIds hmem
    h.vulnerabilities.mem hid
  exact hkey (heq ▸ rfl)

end Synchronized

/-! ## Attributions -/

/-- The store `t` is `s` after the vulnerability in row `row` was attached to a component. -/
inductive Attached (s : Store) (component : String) (row : Nat) : Store → Prop
  /-- The component is not known. -/
  | unknown : component ∉ s.componentIds → Attached s component row s
  /-- The component has the vulnerability. -/
  | kept {a : Attribution} : a ∈ s.attributions → a.component = component →
    a.vulnerability = row → Attached s component row s
  /-- The component gets the vulnerability. -/
  | added {a : Attribution} : component ∈ s.componentIds → a.component = component →
    a.vulnerability = row → (∀ b ∈ s.attributions, b.component = component → b.vulnerability ≠ row) →
    Attached s component row { s with attributions := s.attributions ++ [a] }

section Attached

variable {component : String} {row : Nat}

theorem Attached.wellFormed (h : Attached s component row t) (hs : s.WellFormed)
    (hrow : row ∈ s.vulnerabilityIds) : t.WellFormed := by
  cases h with
  | unknown _ => exact hs
  | kept _ _ _ => exact hs
  | @added a hcomponent ha ha' hnew =>
      refine { hs with attributions := ?_, attribution_component := ?_,
                       attribution_vulnerability := ?_ }
      · rw [List.map_append]
        refine nodup_append_singleton hs.attributions ?_
        rw [List.mem_map]
        rintro ⟨b, hb, heq⟩
        rw [Prod.mk.injEq, ha, ha'] at heq
        exact hnew b hb heq.1 heq.2
      · intro b hb
        rcases List.mem_append.mp hb with hold | hlast
        · exact hs.attribution_component b hold
        · rw [List.mem_singleton.mp hlast, ha]
          exact hcomponent
      · intro b hb
        rcases List.mem_append.mp hb with hold | hlast
        · exact hs.attribution_vulnerability b hold
        · rw [List.mem_singleton.mp hlast, ha']
          exact hrow

/-- Nothing but attributions changes. -/
theorem Attached.eq (h : Attached s component row t) :
    t = { s with attributions := t.attributions } := by
  cases h <;> rfl

theorem Attached.extends (h : Attached s component row t) : s.Extends t := by
  cases h with
  | unknown _ => exact .refl s
  | kept _ _ _ => exact .refl s
  | added _ _ _ _ => exact { Extends.refl s with attributions := List.subset_append_left _ _ }

theorem recordAttribution_spec (h : s.WellFormed) (hcomponent : component ∈ s.componentIds)
    (hrow : row ∈ s.vulnerabilityIds) (analyzer attributedOn : String) :
    ∃ t, s.recordAttribution component row analyzer attributedOn = .ok t ∧
      Attached s component row t := by
  obtain ⟨c, hc⟩ := Option.ne_none_iff_exists'.mp
    (fun hn => component?_isNone_iff.mp (Option.isNone_iff_eq_none.mpr hn) hcomponent)
  obtain ⟨r, hr, rfl⟩ := List.mem_map.mp hrow
  unfold recordAttribution
  rw [hc, (vulnerabilityAt?_eq_some_iff h).mpr ⟨hr, rfl⟩]
  by_cases hany : s.attributions.any (fun a => a.component == component && a.vulnerability == r.id)
  · refine ⟨s, if_pos hany, ?_⟩
    obtain ⟨a, ha, heq⟩ := List.any_eq_true.mp hany
    rw [Bool.and_eq_true, beq_iff_eq, beq_iff_eq] at heq
    exact .kept ha heq.1 heq.2
  · refine ⟨_, if_neg hany, .added hcomponent rfl rfl ?_⟩
    intro b hb hb' hid
    exact hany (List.any_eq_true.mpr ⟨b, hb, by simp [hb', hid]⟩)

/-- A record whose row exists is attached where the component is known. -/
theorem attach_spec (h : s.WellFormed) {v : Vulnerability} (hv : v.row = some (row : Int))
    (hrow : row ∈ s.vulnerabilityIds) (component : String) (now : Instant) :
    ∃ known t, s.attach v component now = .ok (known, t) ∧ Attached s component row t := by
  unfold attach
  rw [hv]
  by_cases hcomponent : component ∈ s.componentIds
  · obtain ⟨t, heq, ht⟩ := recordAttribution_spec h hcomponent hrow analyzer now.timestamp
    refine ⟨true, t, ?_, ht⟩
    simp only [heq, component?_isNone_iff, not_not_intro hcomponent]
    rfl
  · exact ⟨false, s, if_pos (component?_isNone_iff.mpr hcomponent), .unknown hcomponent⟩

/-- A record that was attached has a row that exists. -/
theorem row_of_attach_ok {v : Vulnerability} {now : Instant} {known : Bool}
    (heq : s.attach v component now = .ok (known, t)) :
    component ∉ s.componentIds ∧ t = s ∨
      ∃ row ∈ s.vulnerabilityIds, v.row = some (row : Int) := by
  unfold attach at heq
  split at heq
  · cases heq
  · next row hv =>
    split at heq
    · next hnone =>
      cases heq
      exact .inl ⟨component?_isNone_iff.mp hnone, rfl⟩
    · unfold recordAttribution at heq
      split at heq
      · next c r _ hr =>
        have hid : (r.id : Int) = row := by simpa using List.find?_some hr
        exact .inr ⟨r.id, List.mem_map_of_mem (List.mem_of_find?_eq_some hr), by rw [hv, hid]⟩
      · cases heq

/-- Whatever is attached, the store afterwards is one of the three that `Attached` names. -/
theorem attached_of_attach_ok (h : s.WellFormed) {v : Vulnerability} {now : Instant} {known : Bool}
    (heq : s.attach v component now = .ok (known, t)) :
    t = s ∨ ∃ row ∈ s.vulnerabilityIds, Attached s component row t := by
  rcases row_of_attach_ok heq with ⟨-, rfl⟩ | ⟨row, hrow, hv⟩
  · exact .inl rfl
  · obtain ⟨known', t', heq', ht'⟩ := attach_spec h hv hrow component now
    rw [heq'] at heq
    cases heq
    exact .inr ⟨row, hrow, ht'⟩

end Attached

end Store
end AdvisoryLedger