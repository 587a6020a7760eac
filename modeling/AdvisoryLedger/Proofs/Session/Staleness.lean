import AdvisoryLedger.Proofs.Dispatch.Batch
import AdvisoryLedger.Proofs.Store.Weaknesses

/-!
# Drafts that have grown stale

A batch is made into drafts before any of them is written, and other sessions may write in
between. So a draft can name a predicate as a new one that has a row by the time it is
written, or can hold a stored predicate together with the row that was found for it. Neither
matters: writing goes by the key of a predicate alone, and takes the columns of one from the
draft only where the store has none with that key (`Store.Stands`), in which case the draft
could not have found one earlier either, since no row ever goes.

`synchronize_stale` says so for one draft, with any history between its making and its
writing. A whole batch follows by induction, its own earlier drafts being a part of that
history.
-/

namespace AdvisoryLedger

/-! ## Two ways to write a batch -/

namespace Session

variable {σ : Type}

/-- The state after some drafts were written in order, whatever came of each. -/
def synchronizeAll (s : Session σ) (ds : List Draft) (state : σ) : σ :=
  ds.foldl (fun state d => ((s.synchronize d).on state).2) state

/-- The state after each advisory was made into a draft right before it was written. -/
def synchronizeFresh (s : Session σ) (source : Source) (package : Option Coordinate)
    (advisories : List Advisory) (state : σ) : σ :=
  advisories.foldl (fun state a =>
    ((s.draft source package a >>= fun d => s.synchronize d).on state).2) state

end Session

namespace Store

variable {s t : Store}

/-! ## What writing takes from a draft -/

/-- In the store `t` one predicate stands for another: they have one key, and are the same if
the store has no row for it. -/
structure Stands (t : Store) (p q : Predicate) : Prop where
  identity : p.identity = q.identity
  eq : t.predicateRow? q.identity = none → p = q

theorem Stands.persistPredicate {p q : Predicate} (h : t.Stands p q) :
    t.persistPredicate p = t.persistPredicate q := by
  cases hrow : t.predicateRow? q.identity with
  | none => rw [h.eq hrow]
  | some r => simp only [Store.persistPredicate, h.identity, hrow]

theorem Stands.mono {p q : Predicate} (h : s.Stands p q) (hsub : s.predicates ⊆ t.predicates) :
    t.Stands p q where
  identity := h.identity
  eq := by
    intro hnone
    apply h.eq
    rw [predicateRow?_eq_none_iff] at hnone ⊢
    exact fun hmem => hnone (List.map_subset _ hsub hmem)

/-- Predicates that stood for each other earlier are entered alike: the tables come out the
same, and so do the rows that are kept. -/
theorem persistAll_eq_of_stands (ht : t.WellFormed) (hsub : s.predicates ⊆ t.predicates)
    {kept kept' : List (Nat × Predicate)} (hkept : kept.map (·.1) = kept'.map (·.1))
    {ps qs : List Predicate} (h : List.Forall₂ s.Stands ps qs) :
    (t.persistAll kept ps).map (fun r => (r.1.map (·.1), r.2))
      = (t.persistAll kept' qs).map (fun r => (r.1.map (·.1), r.2)) := by
  induction h generalizing t kept kept' with
  | nil =>
      unfold persistAll
      rw [Except.map, Except.map, hkept]
  | @cons p q ps qs hpq _ ih =>
      obtain ⟨id, rows, last, heq, hwf, hentered, -⟩ := persistPredicate_spec ht q
      have hany : kept.any (·.1 == id) = kept'.any (·.1 == id) := by
        have hmap (xs : List (Nat × Predicate)) :
            xs.any (·.1 == id) = (xs.map (·.1)).any (· == id) := by
          rw [List.any_map]
          rfl
        rw [hmap kept, hmap kept', hkept]
      unfold persistAll
      rw [(hpq.mono hsub).persistPredicate, heq]
      refine ih hwf (List.Subset.trans hsub hentered.subset) ?_
      rw [hany]
      split
      · exact hkept
      · rw [List.map_append, List.map_append, hkept]
        rfl

/-- What a write does once its predicates are in the rows `rows`. -/
def writeRecord (s : Store) (vulnId : String) (v : Vulnerability) (rows : List Nat) :
    Except Failure Store := do
  let (row, s) ← s.upsertVulnerability vulnId v
  let s ← (s.unlinkWeaknesses row).linkWeaknesses row v.weaknesses
  (s.unlinkPredicates row).linkPredicates row 0 rows

/-- The tables after a write depend on the predicates only through the rows that are kept. -/
theorem map_synchronize (s : Store) (d : Draft) : (s.synchronize d).map (·.2) =
    match storableId? d.record with
    | none => .error (.payload .missingIdentifier)
    | some vulnId => (s.persistAll [] d.software).map (fun r => (r.1.map (·.1), r.2)) >>=
        fun r => r.2.writeRecord vulnId d.record r.1 := by
  unfold synchronize writeRecord
  cases storableId? d.record with
  | none => rfl
  | some vulnId =>
      simp only [bind, Except.bind]
      cases s.persistAll [] d.software with
      | error e => rfl
      | ok r =>
          simp only [Except.map]
          cases r.2.upsertVulnerability vulnId d.record with
          | error e => rfl
          | ok r' =>
              simp only
              cases (r'.2.unlinkWeaknesses r'.1).linkWeaknesses r'.1 d.record.weaknesses with
              | error e => rfl
              | ok u =>
                  simp only
                  cases (u.unlinkPredicates r'.1).linkPredicates r'.1 0 (r.1.map (·.1)) <;> rfl

/-- Of the weaknesses of a record only the numbers are written. -/
theorem writeRecord_eq_of_map (s : Store) (vulnId : String) (rows : List Nat)
    {v v' : Vulnerability} (h : v = { v' with weaknesses := v.weaknesses })
    (hids : v.weaknesses.map (·.id) = v'.weaknesses.map (·.id)) :
    s.writeRecord vulnId v rows = s.writeRecord vulnId v' rows := by
  have hlink (s : Store) (row : Nat) (ws : List Weakness) : s.linkWeaknesses row ws
      = (ws.map (·.id)).foldlM (fun s id => s.linkWeakness ⟨row, id⟩) s := by
    rw [List.foldlM_map]
    rfl
  unfold writeRecord
  simp only [hlink, hids]
  rw [h]
  rfl

/-- Drafts that differ in the names of their weaknesses and in predicates that stand for each
other leave the same tables. -/
theorem synchronize_eq_of_stands (ht : t.WellFormed) {d d' : Draft}
    (hrecord : d.record = { d'.record with weaknesses := d.record.weaknesses })
    (hweaknesses : d.record.weaknesses.map (·.id) = d'.record.weaknesses.map (·.id))
    (hsoftware : List.Forall₂ t.Stands d.software d'.software) :
    (t.synchronize d).map (·.2) = (t.synchronize d').map (·.2) := by
  have hid : storableId? d.record = storableId? d'.record := by
    rw [hrecord]
    rfl
  simp only [map_synchronize, hid, persistAll_eq_of_stands ht (List.Subset.refl _) rfl hsoftware,
    writeRecord_eq_of_map _ _ _ hrecord hweaknesses]

/-! ## Stale drafts -/

theorem settle_eq_self {p : Predicate} (h : s.predicateRow? p.identity = none) :
    s.settle p = p := by
  unfold settle find?
  rw [h]
  rfl

/-- A stored predicate that was found earlier stands for what would be found now. -/
theorem Extends.stands_settle (h : s.Extends t) (hs : s.WellFormed) (ht : t.WellFormed)
    (p : Predicate) : t.Stands (s.settle p) (t.settle p) where
  identity := (identity_settle hs p).trans (identity_settle ht p).symm
  eq := by
    intro hnone
    rw [identity_settle ht] at hnone
    have hnone' : s.predicateRow? p.identity = none := by
      rw [predicateRow?_eq_none_iff] at hnone ⊢
      exact fun hmem => hnone (List.map_subset _ h.predicates hmem)
    rw [settle_eq_self hnone, settle_eq_self hnone']

/-- **Stale drafts are harmless.** A draft that was made from an earlier store leaves the same
tables as one that is made right before it is written, unless weaknesses were entered in
between that the earlier store did not know. -/
theorem synchronize_stale (hs : s.WellFormed) (ht : t.WellFormed) (h : s.Extends t)
    (hids : ∀ id, id ∈ s.weaknessIds ↔ id ∈ t.weaknessIds) (source : Source)
    (package : Option Coordinate) (a : Advisory) :
    (t.synchronize (s.draft source package a)).map (·.2)
      = (t.synchronize (t.draft source package a)).map (·.2) := by
  apply synchronize_eq_of_stands ht
  · rfl
  · show (weaknessesAmong s.resolve? a.problems).map (·.id)
      = (weaknessesAmong t.resolve? a.problems).map (·.id)
    rw [map_id_weaknessesAmong hs, map_id_weaknessesAmong ht]
    simp only [hids]
  · show List.Forall₂ t.Stands (List.map _ _) (List.map _ _)
    rw [List.forall₂_map_left_iff, List.forall₂_map_right_iff, List.forall₂_same]
    exact fun p _ => h.stands_settle hs ht p

end Store

namespace Ledger

variable {clock : Nat → Instant}

theorem synchronize_on_eq (l : Ledger) (d : Draft) :
    (((session clock).synchronize d).on l).2
      = { l with store := ((l.store.synchronize d).map (·.2)).toOption.getD l.store } := by
  show (l.synchronize d).2 = _
  unfold Ledger.synchronize
  cases l.store.synchronize d <;> rfl

theorem store_synchronize_on (l : Ledger) (d : Draft) :
    (((session clock).synchronize d).on l).2.store = (l.store.perform (.synchronize d)).2 := by
  show (l.synchronize d).2.store = _
  unfold Ledger.synchronize
  simp only [Store.perform]
  cases l.store.synchronize d <;> rfl

/-- Stale drafts, one after another, leave the same tables as fresh ones. -/
theorem synchronizeAll_eq_synchronizeFresh {s : Store} (hs : s.WellFormed) (source : Source)
    (package : Option Coordinate) (advisories : List Advisory) {l : Ledger}
    (hl : l.store.WellFormed) (h : s.Extends l.store)
    (hids : ∀ id, id ∈ s.weaknessIds ↔ id ∈ l.store.weaknessIds) :
    (session clock).synchronizeAll (advisories.map (s.draft source package)) l
      = (session clock).synchronizeFresh source package advisories l := by
  induction advisories generalizing l with
  | nil => rfl
  | cons a advisories ih =>
      have hfresh : ((session clock).draft source package a >>=
            fun d => (session clock).synchronize d).on l
          = ((session clock).synchronize (l.store.draft source package a)).on l :=
        Work.on_bind_of_ok (draft_on clock l source package a)
      have hstep : (((session clock).synchronize (s.draft source package a)).on l).2
          = (((session clock).synchronize (l.store.draft source package a)).on l).2 := by
        rw [synchronize_on_eq, synchronize_on_eq,
          Store.synchronize_stale hs hl h hids source package a]
      unfold Session.synchronizeAll Session.synchronizeFresh at ih ⊢
      rw [List.map_cons, List.foldl_cons, List.foldl_cons, hfresh, hstep]
      -- the write is one more operation between the making of the other drafts and their writing
      apply ih
      all_goals rw [store_synchronize_on]
      · exact hl.perform _
      · exact h.trans (.perform hl _)
      · rcases Store.perform_synchronize_cases hl (l.store.draft source package a) with
          ⟨e, heq⟩ | ⟨_, _, _, t, _, heq, ht⟩
        · rw [heq]
          exact hids
        · rw [heq]
          unfold Store.weaknessIds
          rw [ht.weaknesses]
          exact hids

/-- **A batch of stale drafts is harmless.** A batch is made into drafts, then others use the
tables, for whatever but entering weaknesses with new numbers, and then the drafts are written
in order. That leaves the same tables, row by row, as making each advisory into a draft right
before it is written. -/
theorem synchronizeAll_stale (clock : Nat → Instant) (before others : List Operation)
    (readings readings' : Nat) (source : Source) (component : Option Coordinate)
    (b : AdvisoryBatch)
    (hknown : ((Store.empty.after before).after others).weaknessIds
      ⊆ (Store.empty.after before).weaknessIds) :
    let s₀ : Ledger := ⟨Store.empty.after before, readings⟩
    let s₁ : Ledger := ⟨(Store.empty.after before).after others, readings'⟩
    ∃ ds, ((session clock).drafts source component b).on s₀ = (.ok ds, s₀) ∧
      (session clock).synchronizeAll ds s₁
        = (session clock).synchronizeFresh source (b.package component) b.advisories s₁ := by
  intro s₀ s₁
  have hs : s₀.store.WellFormed := Store.wellFormed_empty.after before
  refine ⟨_, Work.on_mapM (draft_on clock s₀ source (b.package component)) b.advisories, ?_⟩
  exact synchronizeAll_eq_synchronizeFresh hs source (b.package component) b.advisories
    (hs.after others) (.after hs others)
    fun id => ⟨fun h => Store.subset_weaknessIds_after hs others h, fun h => hknown h⟩

/-- Two advisories about one range of versions, with a weakness. -/
def repeatedBatch : AdvisoryBatch :=
  ⟨some "pkg:npm/left-pad@1.0.0",
    [⟨some "A", none, none, none, none, none, [], ["CWE-79"], none, ["<2"]⟩,
      ⟨some "B", none, none, none, none, none, [], ["CWE-79", "CWE-22"], none, ["<2", "<3"]⟩]⟩

/-- Another session enters the predicate of the batch and renames the weakness in between. -/
theorem synchronizeAll_stale_repeatedBatch :
    let s₀ := Store.empty.after [.insertWeakness ⟨79, "XSS"⟩]
    let others : List Operation := [.insertWeakness ⟨79, "Cross-site Scripting"⟩,
      .synchronize (s₀.draft .snyk (Coordinate.ofUrl "pkg:npm/left-pad@1.0.0").toOption
        ⟨some "C", none, none, none, none, none, [], [], none, ["<2"]⟩)]
    let tables := session fun _ => (Instant.ofEpoch? 0 0).get (by decide)
    ∃ ds, (tables.drafts .snyk none repeatedBatch).on ⟨s₀, 0⟩ = (.ok ds, ⟨s₀, 0⟩) ∧
      tables.synchronizeAll ds ⟨s₀.after others, 0⟩
        = tables.synchronizeFresh .snyk (repeatedBatch.package none) repeatedBatch.advisories
            ⟨s₀.after others, 0⟩ :=
  synchronizeAll_stale _ [.insertWeakness ⟨79, "XSS"⟩] _ 0 0 .snyk none repeatedBatch
    (by decide +kernel)

end Ledger
end AdvisoryLedger
