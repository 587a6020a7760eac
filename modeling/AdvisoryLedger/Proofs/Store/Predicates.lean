import AdvisoryLedger.Proofs.Store.Invariant
import Mathlib.Data.List.Induction

/-!
# How predicates are entered

The predicates of a draft are entered one by one, each under its key. `Entered` says what
that does to the table, and `Kept` says which of them the draft keeps: the first of each key,
with the number of the row that has the key. The program drops a repetition by the number of
the row, but since rows and keys belong together this is the same as by the key.
-/

namespace AdvisoryLedger

/-! ## Distinct keys -/

/-- One more element adds to the distinct ones only if it is new. -/
theorem eraseDups_append_singleton {α : Type} [BEq α] [LawfulBEq α] [DecidableEq α] (xs : List α)
    (x : α) : (xs ++ [x]).eraseDups = if x ∈ xs then xs.eraseDups else xs.eraseDups ++ [x] := by
  rw [List.eraseDups_append]
  by_cases hx : x ∈ xs <;> simp [List.removeAll, hx, List.eraseDups_cons]

theorem nodup_eraseDups {α : Type} [BEq α] [LawfulBEq α] [DecidableEq α] (xs : List α) :
    xs.eraseDups.Nodup := by
  induction xs using List.reverseRecOn with
  | nil => simp
  | append_singleton xs x ih =>
      rw [eraseDups_append_singleton]
      split
      · exact ih
      · next hx =>
        exact Store.nodup_append_singleton ih (fun hmem => hx (List.mem_eraseDups.mp hmem))

namespace Predicate

/-- The keys of some predicates in the order in which they first occur. -/
def distinctKeys (ps : List Predicate) : List String := (ps.map (·.identity)).eraseDups

theorem mem_distinctKeys {ps : List Predicate} {key : String} :
    key ∈ distinctKeys ps ↔ key ∈ ps.map (·.identity) :=
  List.mem_eraseDups

theorem nodup_distinctKeys (ps : List Predicate) : (distinctKeys ps).Nodup := nodup_eraseDups _

theorem distinctKeys_concat (ps : List Predicate) (p : Predicate) :
    distinctKeys (ps ++ [p]) =
      if p.identity ∈ ps.map (·.identity) then distinctKeys ps
      else distinctKeys ps ++ [p.identity] := by
  unfold distinctKeys
  rw [List.map_append, List.map_singleton, eraseDups_append_singleton]

end Predicate

namespace Store

variable {s : Store}

/-! ## Predicates -/

/-- The table `new` is `old` after the predicates `ps` were entered: a row that is new has a
key that was not there, and the columns of the first of `ps` with that key. -/
structure Entered (old : List PredicateRow) (ps : List Predicate) (new : List PredicateRow) :
    Prop where
  fresh : ∃ more, new = old ++ more ∧ ∀ r ∈ more, r.identity ∉ old.map (·.identity) ∧
    ∃ p, ps.find? (·.identity == r.identity) = some p ∧ r = predicateRow r.id p
  known : ∀ p ∈ ps, p.identity ∈ new.map (·.identity)

theorem Entered.nil (rows : List PredicateRow) : Entered rows [] rows :=
  ⟨⟨[], by simp, by simp⟩, by simp⟩

theorem Entered.subset {old new : List PredicateRow} {ps : List Predicate}
    (h : Entered old ps new) : old ⊆ new := by
  obtain ⟨more, rfl, -⟩ := h.fresh
  exact List.subset_append_left old more

theorem Entered.cons {old mid new : List PredicateRow} {p : Predicate} {ps : List Predicate}
    (h₁ : Entered old [p] mid) (h₂ : Entered mid ps new) : Entered old (p :: ps) new := by
  obtain ⟨more₁, rfl, hmore₁⟩ := h₁.fresh
  obtain ⟨more₂, rfl, hmore₂⟩ := h₂.fresh
  have hp : p.identity ∈ (old ++ more₁).map (·.identity) := h₁.known p (by simp)
  refine ⟨⟨more₁ ++ more₂, by simp, ?_⟩, ?_⟩
  · intro r hr
    rcases List.mem_append.mp hr with hr₁ | hr₂
    · obtain ⟨hnew, q, hq, heq⟩ := hmore₁ r hr₁
      refine ⟨hnew, q, ?_, heq⟩
      obtain ⟨hpr, rfl⟩ : (p.identity == r.identity) = true ∧ p = q := by
        rw [List.find?_singleton] at hq
        split at hq
        · next hpr => exact ⟨hpr, Option.some.inj hq⟩
        · cases hq
      exact List.find?_cons_of_pos hpr
    · obtain ⟨hnew, q, hq, heq⟩ := hmore₂ r hr₂
      rw [List.map_append, List.mem_append, not_or] at hnew
      refine ⟨hnew.1, q, ?_, heq⟩
      -- the key of `p` is in the table before the row of `r` comes, so they differ
      have hne : p.identity ≠ r.identity := by
        intro he
        rw [he, List.map_append, List.mem_append] at hp
        exact hp.elim hnew.1 hnew.2
      rw [List.find?_cons_of_neg (by simpa using hne)]
      exact hq
  · intro q hq
    rcases List.mem_cons.mp hq with rfl | hq'
    · rw [List.map_append]
      exact List.mem_append_left _ hp
    · exact h₂.known q hq'

theorem WellFormed.enterPredicate (h : s.WellFormed) {p : Predicate}
    (hp : p.identity ∉ s.identities) :
    { s with
      predicates := s.predicates ++ [predicateRow (s.lastPredicate + 1) p]
      lastPredicate := s.lastPredicate + 1 }.WellFormed := by
  -- no row has a number beyond the last one that was given
  have hid : s.lastPredicate + 1 ∉ s.predicateIds := by
    intro hmem
    have := h.predicateId_le _ hmem
    omega
  refine { h with identities := ?_, predicateIds := ?_, predicateId_le := ?_, identity_eq := ?_,
                  predicateLink_predicate := ?_ }
  · show (List.map _ (s.predicates ++ [_])).Nodup
    rw [List.map_append]
    exact nodup_append_singleton h.identities hp
  · show (List.map _ (s.predicates ++ [_])).Nodup
    rw [List.map_append]
    exact nodup_append_singleton h.predicateIds hid
  · intro id hmem
    obtain ⟨r, hr, rfl⟩ := List.mem_map.mp hmem
    rcases List.mem_append.mp hr with hold | hnew
    · exact Nat.le_succ_of_le (h.predicateId_le r.id (List.mem_map_of_mem hold))
    · rw [List.mem_singleton.mp hnew]
      exact Nat.le_refl _
  · intro r hr
    rcases List.mem_append.mp hr with hold | hnew
    · exact h.identity_eq r hold
    · rw [List.mem_singleton.mp hnew]
      rfl
  · intro l hl
    show l.predicate ∈ List.map _ (s.predicates ++ [_])
    rw [List.map_append]
    exact List.mem_append_left _ (h.predicateLink_predicate l hl)

/-- A predicate gets a row or has one, under its key. -/
theorem persistPredicate_spec (h : s.WellFormed) (p : Predicate) :
    ∃ id rows last,
      s.persistPredicate p = .ok (id, { s with predicates := rows, lastPredicate := last }) ∧
      { s with predicates := rows, lastPredicate := last }.WellFormed ∧
      Entered s.predicates [p] rows ∧ ∃ r ∈ rows, r.id = id ∧ r.identity = p.identity := by
  unfold persistPredicate
  cases hrow : s.predicateRow? p.identity with
  | some r =>
      have hr := (predicateRow?_eq_some_iff h).mp hrow
      -- the number that was taken for the new row is lost
      refine ⟨r.id, s.predicates, s.lastPredicate + 1, rfl, ?_, ?_, r, hr.1, rfl, hr.2⟩
      · exact { h with predicateId_le := fun id hid => Nat.le_succ_of_le (h.predicateId_le id hid) }
      · refine ⟨⟨[], by simp, by simp⟩, ?_⟩
        intro q hq
        rw [List.mem_singleton.mp hq]
        exact List.mem_map.mpr ⟨r, hr⟩
  | none =>
      have hp : p.identity ∉ s.identities := predicateRow?_eq_none_iff.mp hrow
      have hfree : s.predicates.any (·.id == s.lastPredicate + 1) = false := by
        rw [List.any_eq_false]
        intro r hr heq
        have := h.predicateId_le r.id (List.mem_map_of_mem hr)
        rw [beq_iff_eq] at heq
        omega
      refine ⟨_, _, _, by simp only [hfree]; rfl, h.enterPredicate hp, ?_, _,
        List.mem_append_right _ (List.mem_singleton_self _), rfl, rfl⟩
      refine ⟨⟨_, rfl, ?_⟩, by simp [predicateRow]⟩
      intro r hr
      rw [List.mem_singleton.mp hr]
      exact ⟨hp, p, by simp [predicateRow], rfl⟩

/-- The list `kept` has the predicates of `seen` without repeated keys, the first of each
key, with the numbers of their rows. -/
structure Kept (rows : List PredicateRow) (seen : List Predicate) (kept : List (Nat × Predicate)) :
    Prop where
  identities : kept.map (·.2.identity) = Predicate.distinctKeys seen
  first : ∀ e ∈ kept, seen.find? (·.identity == e.2.identity) = some e.2
  row : ∀ e ∈ kept, ∃ r ∈ rows, r.id = e.1 ∧ r.identity = e.2.identity

theorem Kept.mono {old new : List PredicateRow} {seen : List Predicate}
    {kept : List (Nat × Predicate)} (h : Kept old seen kept) (hsub : old ⊆ new) :
    Kept new seen kept := by
  refine { h with row := ?_ }
  intro e he
  obtain ⟨r, hr, hid⟩ := h.row e he
  exact ⟨r, hsub hr, hid⟩

theorem Kept.nil (rows : List PredicateRow) : Kept rows [] [] :=
  ⟨rfl, by simp, by simp⟩

/-- No row is kept twice. -/
theorem Kept.nodup (h : s.WellFormed) {seen : List Predicate} {kept : List (Nat × Predicate)}
    (hkept : Kept s.predicates seen kept) : (kept.map (·.1)).Nodup := by
  have hidentities : (kept.map (·.2.identity)).Nodup :=
    hkept.identities ▸ Predicate.nodup_distinctKeys _
  rw [List.Nodup, List.pairwise_map] at hidentities ⊢
  refine hidentities.imp_of_mem ?_
  intro e e' he he' hne hid
  obtain ⟨r, hr, hrid, hrident⟩ := hkept.row e he
  obtain ⟨r', hr', hrid', hrident'⟩ := hkept.row e' he'
  have : r = r' := List.inj_on_of_nodup_map h.predicateIds hr hr'
    (hrid.trans (hid.trans hrid'.symm))
  exact hne (hrident.symm.trans (this ▸ hrident'))

/-- Every row that is kept is in the table. -/
theorem Kept.subset {seen : List Predicate} {kept : List (Nat × Predicate)}
    (hkept : Kept s.predicates seen kept) : kept.map (·.1) ⊆ s.predicateIds := by
  intro id hid
  obtain ⟨e, he, rfl⟩ := List.mem_map.mp hid
  obtain ⟨r, hr, hrid, -⟩ := hkept.row e he
  exact List.mem_map.mpr ⟨r, hr, hrid⟩

theorem Kept.concat (h : s.WellFormed) {seen : List Predicate} {kept : List (Nat × Predicate)}
    (hkept : Kept s.predicates seen kept) {p : Predicate} {r : PredicateRow}
    (hr : r ∈ s.predicates) (hp : r.identity = p.identity) :
    Kept s.predicates (seen ++ [p])
      (if kept.any (·.1 == r.id) then kept else kept ++ [(r.id, p)]) := by
  -- rows have one number for each key, so the test by number is a test by key
  have hany : kept.any (·.1 == r.id) = true ↔ p.identity ∈ seen.map (·.identity) := by
    rw [← Predicate.mem_distinctKeys, ← hkept.identities, List.any_eq_true, List.mem_map]
    constructor
    · rintro ⟨e, he, hid⟩
      obtain ⟨r', hr', hid', hident⟩ := hkept.row e he
      have : r' = r := List.inj_on_of_nodup_map h.predicateIds hr' hr
        (hid'.trans (beq_iff_eq.mp hid))
      exact ⟨e, he, by rw [← hident, this, hp]⟩
    · rintro ⟨e, he, hident⟩
      obtain ⟨r', hr', hid', hident'⟩ := hkept.row e he
      have : r' = r := List.inj_on_of_nodup_map h.identities hr' hr
        (hident'.trans (hident.trans hp.symm))
      exact ⟨e, he, by rw [← hid', this, beq_self_eq_true]⟩
  by_cases hseen : p.identity ∈ seen.map (·.identity)
  · rw [if_pos (hany.mpr hseen)]
    refine ⟨?_, ?_, hkept.row⟩
    · rw [Predicate.distinctKeys_concat, if_pos hseen]
      exact hkept.identities
    · intro e he
      rw [List.find?_append, hkept.first e he]
      rfl
  · rw [if_neg (fun hk => hseen (hany.mp hk))]
    refine ⟨?_, ?_, ?_⟩
    · rw [List.map_append, List.map_singleton, Predicate.distinctKeys_concat, if_neg hseen,
        hkept.identities]
    · intro e he
      rw [List.find?_append]
      rcases List.mem_append.mp he with hold | hnew
      · rw [hkept.first e hold]
        rfl
      · rw [List.mem_singleton.mp hnew]
        have hnone : seen.find? (·.identity == p.identity) = none :=
          find?_eq_none_iff_not_mem.mpr hseen
        simp [hnone]
    · intro e he
      rcases List.mem_append.mp he with hold | hnew
      · exact hkept.row e hold
      · rw [List.mem_singleton.mp hnew]
        exact ⟨r, hr, rfl, hp⟩

/-- All predicates of a list get rows, and those that are kept are the distinct ones. -/
theorem persistAll_spec (h : s.WellFormed) {seen : List Predicate} {kept : List (Nat × Predicate)}
    (hkept : Kept s.predicates seen kept) (ps : List Predicate) :
    ∃ kept' rows last,
      s.persistAll kept ps = .ok (kept', { s with predicates := rows, lastPredicate := last }) ∧
      { s with predicates := rows, lastPredicate := last }.WellFormed ∧
      Entered s.predicates ps rows ∧ Kept rows (seen ++ ps) kept' := by
  induction ps generalizing s seen kept with
  | nil =>
      exact ⟨kept, s.predicates, s.lastPredicate, rfl, h, .nil _, by simpa using hkept⟩
  | cons p ps ih =>
      obtain ⟨id, rows₁, last₁, heq₁, hwf₁, hent₁, r, hr, rfl, hident⟩ := persistPredicate_spec h p
      have hkept₁ := (hkept.mono hent₁.subset).concat hwf₁ hr hident
      obtain ⟨kept', rows, last, heq, hwf, hent, hkept'⟩ := ih hwf₁ hkept₁
      refine ⟨kept', rows, last, ?_, hwf, hent₁.cons hent, by simpa using hkept'⟩
      rw [persistAll, heq₁]
      exact heq

end Store
end AdvisoryLedger
