import AdvisoryLedger.Store.History
import Mathlib.Data.List.Nodup

/-!
# What holds of every store

`Store.WellFormed` is the representation invariant of the tables: the keys and row numbers
that look-ups go by are unique, a key of a predicate is the one that its own columns give,
the places of a list of predicates count from zero without gaps, and every link leads to
rows that exist. `Store.Extends` says of a later store that rows of an earlier one are still
there under their numbers.

With unique keys a look-up is the same as membership, and that is what the lemmas of the
section on look-ups say. Every later proof goes through them.
-/

namespace AdvisoryLedger

/-- What a vulnerability is known by. -/
def VulnerabilityRow.key (r : VulnerabilityRow) : Source × String := (r.source, r.vulnId)

namespace Store

/-! ## The columns that rows are known by -/

def componentIds (s : Store) : List String := s.components.map (·.id)

def vulnerabilityIds (s : Store) : List Nat := s.vulnerabilities.map (·.id)

def vulnerabilityKeys (s : Store) : List (Source × String) := s.vulnerabilities.map (·.key)

def predicateIds (s : Store) : List Nat := s.predicates.map (·.id)

def identities (s : Store) : List String := s.predicates.map (·.identity)

/-- The links of a vulnerability to its predicates. -/
def predicateLinksOf (s : Store) (row : Nat) : List PredicateLink :=
  s.predicateLinks.filter (·.vulnerability == row)

/-- The representation invariant. -/
structure WellFormed (s : Store) : Prop where
  componentIds : s.componentIds.Nodup
  weaknessIds : (s.weaknesses.map (·.id)).Nodup
  vulnerabilityKeys : s.vulnerabilityKeys.Nodup
  vulnerabilityIds : s.vulnerabilityIds.Nodup
  vulnerabilityId_le : ∀ id ∈ s.vulnerabilityIds, id ≤ s.lastVulnerability
  vulnId_ne_blank : ∀ r ∈ s.vulnerabilities, Text.trim r.vulnId.toList ≠ []
  identities : s.identities.Nodup
  predicateIds : s.predicateIds.Nodup
  predicateId_le : ∀ id ∈ s.predicateIds, id ≤ s.lastPredicate
  identity_eq : ∀ r ∈ s.predicates, r.predicate.identity = r.identity
  weaknessLinks : s.weaknessLinks.Nodup
  weaknessLink_vulnerability : ∀ l ∈ s.weaknessLinks, l.vulnerability ∈ s.vulnerabilityIds
  positions : ∀ row, (s.predicateLinksOf row).map (·.position)
    = List.range (s.predicateLinksOf row).length
  linkedPredicates : ∀ row, ((s.predicateLinksOf row).map (·.predicate)).Nodup
  predicateLink_vulnerability : ∀ l ∈ s.predicateLinks, l.vulnerability ∈ s.vulnerabilityIds
  predicateLink_predicate : ∀ l ∈ s.predicateLinks, l.predicate ∈ s.predicateIds
  attributions : (s.attributions.map fun a => (a.component, a.vulnerability)).Nodup
  attribution_component : ∀ a ∈ s.attributions, a.component ∈ s.componentIds
  attribution_vulnerability : ∀ a ∈ s.attributions, a.vulnerability ∈ s.vulnerabilityIds

/-- The rows of `s` are in `t`, under the numbers that they have. A component may have got
another name, and a vulnerability other columns than its key. -/
structure Extends (s t : Store) : Prop where
  components : s.componentIds ⊆ t.componentIds
  vulnerabilities : ∀ r ∈ s.vulnerabilities, ∃ r' ∈ t.vulnerabilities, r'.id = r.id ∧ r'.key = r.key
  predicates : s.predicates ⊆ t.predicates
  attributions : s.attributions ⊆ t.attributions

theorem wellFormed_empty : empty.WellFormed := by
  constructor <;> simp [empty, componentIds, Store.vulnerabilityKeys, Store.vulnerabilityIds,
    Store.identities, Store.predicateIds, predicateLinksOf]

theorem Extends.refl (s : Store) : s.Extends s :=
  ⟨fun _ h => h, fun r h => ⟨r, h, rfl, rfl⟩, fun _ h => h, fun _ h => h⟩

theorem Extends.trans {s t u : Store} (h : s.Extends t) (h' : t.Extends u) : s.Extends u where
  components := List.Subset.trans h.components h'.components
  vulnerabilities := by
    intro r hr
    obtain ⟨r₁, hr₁, hid₁, hkey₁⟩ := h.vulnerabilities r hr
    obtain ⟨r₂, hr₂, hid₂, hkey₂⟩ := h'.vulnerabilities r₁ hr₁
    exact ⟨r₂, hr₂, hid₂.trans hid₁, hkey₂.trans hkey₁⟩
  predicates := List.Subset.trans h.predicates h'.predicates
  attributions := List.Subset.trans h.attributions h'.attributions

/-! ## Look-ups -/

/-- Where a column has no value twice, looking for a value finds the one row that has it. -/
theorem find?_eq_some_iff_of_nodup {α β : Type} [BEq β] [LawfulBEq β] {f : α → β} {xs : List α}
    (h : (xs.map f).Nodup) {b : β} {a : α} :
    xs.find? (fun x => f x == b) = some a ↔ a ∈ xs ∧ f a = b := by
  constructor
  · intro hfind
    exact ⟨List.mem_of_find?_eq_some hfind, by simpa using List.find?_some hfind⟩
  · rintro ⟨hmem, rfl⟩
    obtain ⟨x, hx⟩ := Option.isSome_iff_exists.mp
      (List.find?_isSome (p := fun x => f x == f a) |>.mpr ⟨a, hmem, by simp⟩)
    have hfx : f x = f a := by simpa using List.find?_some hx
    rw [hx, List.inj_on_of_nodup_map h (List.mem_of_find?_eq_some hx) hmem hfx]

/-- Looking for a value finds nothing exactly where the column does not have it. -/
theorem find?_eq_none_iff_not_mem {α β : Type} [BEq β] [LawfulBEq β] {f : α → β} {xs : List α}
    {b : β} : xs.find? (fun x => f x == b) = none ↔ b ∉ xs.map f := by
  simp [List.find?_eq_none]

variable {s t : Store}

theorem component?_isNone_iff {id : String} :
    (s.component? id).isNone = true ↔ id ∉ s.componentIds := by
  rw [Option.isNone_iff_eq_none]
  exact find?_eq_none_iff_not_mem

theorem vulnerabilityRow?_eq_find? (s : Store) (source : Source) (vulnId : String) :
    s.vulnerabilityRow? source vulnId = s.vulnerabilities.find? (·.key == (source, vulnId)) := by
  unfold vulnerabilityRow?
  congr 1

theorem vulnerabilityRow?_eq_some_iff (h : s.WellFormed) {source : Source} {vulnId : String}
    {r : VulnerabilityRow} :
    s.vulnerabilityRow? source vulnId = some r ↔
      r ∈ s.vulnerabilities ∧ r.key = (source, vulnId) := by
  rw [vulnerabilityRow?_eq_find?]
  exact find?_eq_some_iff_of_nodup h.vulnerabilityKeys

theorem vulnerabilityRow?_eq_none_iff {source : Source} {vulnId : String} :
    s.vulnerabilityRow? source vulnId = none ↔ (source, vulnId) ∉ s.vulnerabilityKeys := by
  rw [vulnerabilityRow?_eq_find?]
  exact find?_eq_none_iff_not_mem

theorem predicateRow?_eq_some_iff (h : s.WellFormed) {identity : String} {r : PredicateRow} :
    s.predicateRow? identity = some r ↔ r ∈ s.predicates ∧ r.identity = identity :=
  find?_eq_some_iff_of_nodup h.identities

theorem predicateRow?_eq_none_iff {identity : String} :
    s.predicateRow? identity = none ↔ identity ∉ s.identities :=
  find?_eq_none_iff_not_mem

theorem predicateAt?_eq_some_iff (h : s.WellFormed) {id : Nat} {r : PredicateRow} :
    s.predicateAt? id = some r ↔ r ∈ s.predicates ∧ r.id = id :=
  find?_eq_some_iff_of_nodup h.predicateIds

theorem predicateAt?_isNone_iff {id : Nat} :
    (s.predicateAt? id).isNone = true ↔ id ∉ s.predicateIds := by
  rw [Option.isNone_iff_eq_none]
  exact find?_eq_none_iff_not_mem

/-- Row numbers are looked for among the integers, but only naturals are in use. -/
theorem vulnerabilityAt?_cast (id : Nat) :
    s.vulnerabilityAt? id = s.vulnerabilities.find? (·.id == id) := by
  unfold vulnerabilityAt?
  congr 1
  funext r
  rw [Bool.eq_iff_iff, beq_iff_eq, beq_iff_eq]
  exact Int.ofNat_inj

theorem vulnerabilityAt?_eq_some_iff (h : s.WellFormed) {id : Nat} {r : VulnerabilityRow} :
    s.vulnerabilityAt? id = some r ↔ r ∈ s.vulnerabilities ∧ r.id = id := by
  rw [vulnerabilityAt?_cast]
  exact find?_eq_some_iff_of_nodup h.vulnerabilityIds

theorem vulnerabilityAt?_isNone_iff {id : Nat} :
    (s.vulnerabilityAt? id).isNone = true ↔ id ∉ s.vulnerabilityIds := by
  rw [vulnerabilityAt?_cast, Option.isNone_iff_eq_none]
  exact find?_eq_none_iff_not_mem

/-! ## What later stores keep -/

theorem Extends.predicateRow? (h : s.Extends t) (hs : s.WellFormed) (ht : t.WellFormed)
    {identity : String} {r : PredicateRow} (hr : s.predicateRow? identity = some r) :
    t.predicateRow? identity = some r := by
  rw [predicateRow?_eq_some_iff hs] at hr
  rw [predicateRow?_eq_some_iff ht]
  exact ⟨h.predicates hr.1, hr.2⟩

theorem Extends.predicateAt? (h : s.Extends t) (hs : s.WellFormed) (ht : t.WellFormed)
    {id : Nat} {r : PredicateRow} (hr : s.predicateAt? id = some r) :
    t.predicateAt? id = some r := by
  rw [predicateAt?_eq_some_iff hs] at hr
  rw [predicateAt?_eq_some_iff ht]
  exact ⟨h.predicates hr.1, hr.2⟩

theorem Extends.vulnerabilityRow? (h : s.Extends t) (hs : s.WellFormed) (ht : t.WellFormed)
    {source : Source} {vulnId : String} {r : VulnerabilityRow}
    (hr : s.vulnerabilityRow? source vulnId = some r) :
    ∃ r', t.vulnerabilityRow? source vulnId = some r' ∧ r'.id = r.id := by
  rw [vulnerabilityRow?_eq_some_iff hs] at hr
  obtain ⟨r', hr', hid, hkey⟩ := h.vulnerabilities r hr.1
  exact ⟨r', (vulnerabilityRow?_eq_some_iff ht).mpr ⟨hr', hkey.trans hr.2⟩, hid⟩

/-! ## The catalogue and the weaknesses -/

theorem nodup_append_singleton {α : Type} {xs : List α} {x : α} (h : xs.Nodup) (hx : x ∉ xs) :
    (xs ++ [x]).Nodup := by
  rw [← List.concat_eq_append]
  exact (List.nodup_concat xs x).mpr ⟨hx, h⟩

/-- Putting a value in the place of those that have its key leaves the keys as they are. -/
theorem map_replace {α β : Type} [DecidableEq β] (f : α → β) (a : α) (xs : List α) :
    (xs.map fun x => if f x = f a then a else x).map f = xs.map f := by
  rw [List.map_map]
  apply List.map_congr_left
  intro x _
  by_cases hx : f x = f a <;> simp [hx]

theorem componentIds_upsertComponent (s : Store) (c : Component) :
    (s.upsertComponent c).componentIds =
      if c.id ∈ s.componentIds then s.componentIds else s.componentIds ++ [c.id] := by
  have hany : s.components.any (·.id == c.id) = true ↔ c.id ∈ s.componentIds := by
    simp [componentIds]
  unfold upsertComponent
  by_cases hc : c.id ∈ s.componentIds
  · rw [if_pos (hany.mpr hc), if_pos hc]
    exact map_replace (·.id) c s.components
  · rw [if_neg (fun h => hc (hany.mp h)), if_neg hc]
    simp [componentIds]

theorem subset_componentIds_upsertComponent (s : Store) (c : Component) :
    s.componentIds ⊆ (s.upsertComponent c).componentIds := by
  rw [componentIds_upsertComponent]
  split
  · exact List.Subset.refl _
  · exact List.subset_append_left _ _

theorem upsertComponent_eq (s : Store) (c : Component) :
    s.upsertComponent c = { s with components := (s.upsertComponent c).components } := by
  unfold upsertComponent
  split <;> rfl

theorem WellFormed.upsertComponent (h : s.WellFormed) (c : Component) :
    (s.upsertComponent c).WellFormed := by
  have hids : (s.upsertComponent c).componentIds.Nodup := by
    rw [componentIds_upsertComponent]
    split
    · exact h.componentIds
    · next hc => exact nodup_append_singleton h.componentIds hc
  have hsub := subset_componentIds_upsertComponent s c
  rw [upsertComponent_eq] at hids hsub ⊢
  exact { h with
    componentIds := hids
    attribution_component := fun a ha => hsub (h.attribution_component a ha) }

theorem Extends.upsertComponent (s : Store) (c : Component) : s.Extends (s.upsertComponent c) := by
  have hsub := subset_componentIds_upsertComponent s c
  rw [upsertComponent_eq] at hsub ⊢
  exact { Extends.refl s with components := hsub }

theorem insertWeakness_eq (s : Store) (w : Weakness) :
    s.insertWeakness w = { s with weaknesses := (s.insertWeakness w).weaknesses } := by
  unfold insertWeakness
  split <;> rfl

theorem WellFormed.insertWeakness (h : s.WellFormed) (w : Weakness) :
    (s.insertWeakness w).WellFormed := by
  unfold Store.insertWeakness
  split
  · exact { h with weaknessIds := by rw [map_replace (·.id) w]; exact h.weaknessIds }
  · next hw =>
    have hw : w.id ∉ s.weaknesses.map (·.id) := by simpa using hw
    refine { h with weaknessIds := ?_ }
    rw [List.map_append]
    exact nodup_append_singleton h.weaknessIds hw

theorem Extends.insertWeakness (s : Store) (w : Weakness) : s.Extends (s.insertWeakness w) := by
  unfold Store.insertWeakness
  split <;> exact { Extends.refl s with }

end Store
end AdvisoryLedger
