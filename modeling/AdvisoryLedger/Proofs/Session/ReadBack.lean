import AdvisoryLedger.Proofs.Dispatch.Batch
import AdvisoryLedger.Proofs.Store.Weaknesses
import AdvisoryLedger.Proofs.Time.Timestamp

/-!
# Reading a record right after it was written

A write answers with the record that it was given, with a row and the predicates that are
stored now. A reader who asks for the record next gets it from the tables. The two agree in
everything but three respects, which `Vulnerability.asRead` names: the tables give weaknesses
in the order of their numbers, they keep no time whose year is not one of four digits, and
they keep neither a score that is no number nor the sign of zero.

Predicates agree because a draft has taken those that were stored already from the store
(`Store.Matches`), and those that were not are stored as the draft has them.
-/

namespace AdvisoryLedger

/-! ## What the tables make of a record -/

/-- A record as the tables give it back. -/
def Vulnerability.asRead (v : Vulnerability) : Vulnerability :=
  { v with
    created := v.created.filter Instant.hasPlainYear
    published := v.published.filter Instant.hasPlainYear
    updated := v.updated.filter Instant.hasPlainYear
    score := Store.storedScore v.score
    weaknesses := v.weaknesses.mergeSort fun a b => decide (a.id ≤ b.id) }

/-- The tables give the record back as it is. -/
structure Vulnerability.IsCanonical (v : Vulnerability) : Prop where
  created : ∀ t ∈ v.created, t.hasPlainYear = true
  published : ∀ t ∈ v.published, t.hasPlainYear = true
  updated : ∀ t ∈ v.updated, t.hasPlainYear = true
  score : ∀ x ∈ v.score, x.isNaN = false ∧ x ≠ .zero true
  weaknesses : v.weaknesses.Pairwise (·.id ≤ ·.id)

theorem Store.storedScore_eq_self_iff {score : Option Binary64} :
    storedScore score = score ↔ ∀ x ∈ score, x.isNaN = false ∧ x ≠ .zero true := by
  cases score with
  | none => simp [storedScore]
  | some x =>
      simp only [Option.mem_some_iff, forall_eq']
      by_cases hzero : x = .zero true
      · subst hzero
        have hstored : storedScore (some (.zero true)) = some (.zero false) := by decide
        rw [hstored]
        decide
      · rw [storedScore_eq (by simpa using hzero), Option.filter_eq_some_iff]
        simp [hzero]

theorem mergeSort_eq_self_iff {ws : List Weakness} :
    (ws.mergeSort fun a b => decide (a.id ≤ b.id)) = ws ↔ ws.Pairwise (·.id ≤ ·.id) := by
  constructor
  · intro heq
    rw [← heq]
    exact pairwise_le_mergeSort (fun _ _ => decide_eq_true_iff) ws
  · intro hsorted
    exact List.mergeSort_of_pairwise (hsorted.imp fun hab => decide_eq_true hab)

theorem filter_eq_self_iff {α : Type} {p : α → Bool} {x : Option α} :
    x.filter p = x ↔ ∀ a ∈ x, p a = true := by
  cases x <;> simp

theorem Vulnerability.asRead_eq_self_iff {v : Vulnerability} : v.asRead = v ↔ v.IsCanonical := by
  constructor
  · intro heq
    exact ⟨filter_eq_self_iff.mp (congrArg Vulnerability.created heq),
      filter_eq_self_iff.mp (congrArg Vulnerability.published heq),
      filter_eq_self_iff.mp (congrArg Vulnerability.updated heq),
      Store.storedScore_eq_self_iff.mp (congrArg Vulnerability.score heq),
      mergeSort_eq_self_iff.mp (congrArg Vulnerability.weaknesses heq)⟩
  · intro h
    unfold Vulnerability.asRead
    rw [filter_eq_self_iff.mpr h.created, filter_eq_self_iff.mpr h.published,
      filter_eq_self_iff.mpr h.updated, Store.storedScore_eq_self_iff.mpr h.score,
      mergeSort_eq_self_iff.mpr h.weaknesses]

namespace Store

variable {s t : Store} {d : Draft} {vulnId : String} {row : Nat} {kept : List (Nat × Predicate)}

/-- A time is read again if its year has four digits, and is missing otherwise. -/
theorem rereadTime_eq (t : Option Instant) : rereadTime t = t.filter Instant.hasPlainYear := by
  cases t with
  | none => rfl
  | some t =>
      rw [rereadTime, Option.bind_some, Option.filter_some]
      cases hyear : t.hasPlainYear with
      | true => exact Instant.ofTimestamp?_timestamp hyear
      | false => exact Instant.ofTimestamp?_timestamp_eq_none hyear

/-! ## Drafts that fit the store -/

/-- What the draft has of weaknesses and predicates is as the store has it. -/
structure Matches (s : Store) (d : Draft) : Prop where
  weaknesses : ∀ w ∈ d.record.weaknesses, s.weakness? w.id = some w
  distinct : (d.record.weaknesses.map (·.id)).Nodup
  software : ∀ p ∈ d.software, ∀ r, s.predicateRow? p.identity = some r → r.predicate = p

/-- A draft matches the store that it was made from. -/
theorem matches_draft (h : s.WellFormed) (source : Source) (package : Option Coordinate)
    (a : Advisory) : s.Matches (s.draft source package a) where
  weaknesses := fun _ hw => weakness?_of_mem_weaknessesAmong h hw
  distinct := nodup_map_id_weaknessesAmong h a.problems
  software := by
    intro p hp r hr
    obtain ⟨candidate, -, rfl⟩ := List.mem_map.mp hp
    rw [identity_settle h] at hr
    unfold settle find?
    rw [hr]
    rfl

/-! ## Reading what was written -/

theorem Synchronized.weaknessesOf (h : Synchronized s d vulnId row kept t) (hd : s.Matches d) :
    t.weaknessesOf row = d.record.weaknesses.mergeSort fun a b => decide (a.id ≤ b.id) := by
  rw [weaknessesOf_eq, h.weaknessIdsOf, if_pos rfl, eraseDups_eq_self hd.distinct,
    weakness?_eq h.weaknesses]
  exact filterMap_weakness?_mergeSort hd.weaknesses

/-- The row of a predicate that was kept reads as the answer has it. -/
theorem Synchronized.predicateAt? (h : Synchronized s d vulnId row kept t) (hs : s.WellFormed)
    (hd : s.Matches d) {e : Nat × Predicate} (he : e ∈ kept) :
    (t.predicateAt? e.1).map (·.predicate) = some { e.2 with row := some (e.1 : Int) } := by
  obtain ⟨r, hr, hid, hidentity⟩ := h.keeps.row e he
  have hkey : t.predicateRow? e.2.identity = some r :=
    (predicateRow?_eq_some_iff h.wellFormed).mpr ⟨hr, hidentity⟩
  rw [(predicateAt?_eq_some_iff h.wellFormed).mpr ⟨hr, hid⟩, Option.map_some]
  cases hold : s.predicateRow? e.2.identity with
  | some r' =>
      -- it was there, and the draft took it from there
      have hsame : r' = r :=
        Option.some.inj ((h.extends.predicateRow? hs h.wellFormed hold).symm.trans hkey)
      have hmem : e.2 ∈ d.software := List.mem_of_find?_eq_some (h.keeps.first e he)
      rw [← hd.software e.2 hmem r' hold, ← hid, hsame]
      rfl
  | none =>
      rw [← h.find?_answer_eq_some he, ← h.find?_answer_software hold, hkey]
      rfl

theorem Synchronized.softwareOf (h : Synchronized s d vulnId row kept t) (hs : s.WellFormed)
    (hd : s.Matches d) : t.softwareOf row = (answer d row kept).software := by
  rw [softwareOf_eq h.wellFormed, h.predicateLinksOf, if_pos rfl, map_predicateBlock,
    List.filterMap_map]
  exact (List.filterMap_congr fun e he => h.predicateAt? hs hd he).trans
    (congrFun List.filterMap_eq_map kept)

/-- Whoever reads a record next finds the answer to the write, as the tables give it back. -/
theorem Synchronized.get? (h : Synchronized s d vulnId row kept t) (hs : s.WellFormed)
    (hd : s.Matches d) (hid : d.record.vulnId = some vulnId) :
    t.get? d.record.source vulnId = some (answer d row kept).asRead := by
  have htime (time : Option Instant) :
      (time.map Instant.timestamp).bind Instant.ofTimestamp?
        = time.filter Instant.hasPlainYear := by
    rw [Option.bind_map]
    exact rereadTime_eq time
  unfold Store.get?
  rw [h.vulnerabilityRow?, Option.map_some]
  simp only [load, vulnerabilityRow, htime, h.weaknessesOf hd, h.softwareOf hs hd,
    Vulnerability.asRead, answer, hid]

end Store

namespace Ledger

variable {clock : Nat → Instant}

/-- The same, for whatever a session answers. -/
theorem get?_of_synchronize_on {l l' : Ledger} {d : Draft} {r : Vulnerability}
    (hl : l.store.WellFormed) (hd : l.store.Matches d)
    (h : ((session clock).synchronize d).on l = (.ok r, l')) :
    ∃ vulnId, r.vulnId = some vulnId ∧ l'.store.get? r.source vulnId = some r.asRead := by
  cases hid : Store.storableId? d.record with
  | none =>
      rw [synchronize_on_of_storableId?_eq_none clock l hid] at h
      cases h
  | some vulnId =>
      obtain ⟨row, kept, t, hsync, ht⟩ := synchronize_on clock l hl hid
      have hvulnId := (Store.storableId?_eq_some_iff.mp hid).1
      rw [hsync] at h
      cases h
      exact ⟨vulnId, hvulnId, ht.get? hl hd hvulnId⟩

/-- **A write answers with the record as it is stored, up to what the tables do not keep.**
Whatever was done to the tables before, if the draft of an advisory is written in the same
session, then a reader finds the record that was answered, read back from the tables. It is
the same record in every field exactly if its weaknesses came in the order of their numbers,
its times have years of four digits, and its score is a number other than the negative zero. -/
theorem synchronize_readBack (clock : Nat → Instant) (ops : List Operation) (readings : Nat)
    (source : Source) (package : Option Coordinate) (a : Advisory) :
    let l : Ledger := ⟨Store.empty.after ops, readings⟩
    ∃ d, ((session clock).draft source package a).on l = (.ok d, l) ∧
      match ((session clock).synchronize d).on l with
      | (.ok r, l') => ∃ vulnId, r.vulnId = some vulnId ∧
          l'.store.get? r.source vulnId = some r.asRead ∧
          (l'.store.get? r.source vulnId = some r ↔ r.IsCanonical)
      | (.error e, l') =>
          e = .payload .missingIdentifier ∧ Store.storableId? d.record = none ∧ l' = l := by
  intro l
  have hl : l.store.WellFormed := Store.wellFormed_empty.after ops
  refine ⟨_, draft_on clock l source package a, ?_⟩
  split
  · next r l' hsync =>
    obtain ⟨vulnId, hvulnId, hget⟩ :=
      get?_of_synchronize_on hl (Store.matches_draft hl source package a) hsync
    refine ⟨vulnId, hvulnId, hget, ?_⟩
    rw [hget, Option.some.injEq]
    exact Vulnerability.asRead_eq_self_iff
  · next e l' hsync =>
    cases hid : Store.storableId? (l.store.draft source package a).record with
    | none =>
        rw [synchronize_on_of_storableId?_eq_none clock l hid] at hsync
        cases hsync
        exact ⟨rfl, rfl, rfl⟩
    | some vulnId =>
        obtain ⟨_, _, _, hok, -⟩ := synchronize_on clock l hl hid
        rw [hok] at hsync
        cases hsync

/-- An advisory whose problems name a weakness before one of a smaller number. -/
def outOfOrder : Advisory :=
  ⟨some "A", none, none, none, none, none, [], ["CWE-79", "CWE-22"], none, []⟩

/-- The answer to it is not what a reader finds. -/
theorem synchronize_outOfOrder :
    let tables := session fun _ => (Instant.ofEpoch? 0 0).get (by decide)
    let l : Ledger := ⟨Store.empty.after
      [.insertWeakness ⟨22, "Path Traversal"⟩, .insertWeakness ⟨79, "Cross-site Scripting"⟩], 0⟩
    ∃ d r l', (tables.draft .snyk none outOfOrder).on l = (.ok d, l) ∧
      (tables.synchronize d).on l = (.ok r, l') ∧
      ∃ vulnId, r.vulnId = some vulnId ∧ l'.store.get? r.source vulnId ≠ some r := by
  intro tables l
  have hl : l.store.WellFormed := Store.wellFormed_empty.after _
  have hd := Store.matches_draft hl .snyk none outOfOrder
  generalize hdraft : l.store.draft .snyk none outOfOrder = d at hd
  obtain ⟨r, l', hsync, hweaknesses⟩ : ∃ r l', (tables.synchronize d).on l = (.ok r, l') ∧
      r.weaknesses = [⟨79, "Cross-site Scripting"⟩, ⟨22, "Path Traversal"⟩] := by
    subst hdraft
    exact ⟨_, _, rfl, by decide +kernel⟩
  obtain ⟨vulnId, hvulnId, hget⟩ := get?_of_synchronize_on hl hd hsync
  refine ⟨d, r, l', hdraft ▸ draft_on _ l .snyk none outOfOrder, hsync, vulnId, hvulnId, ?_⟩
  rw [hget, ne_eq, Option.some.injEq, Vulnerability.asRead_eq_self_iff]
  intro hcanonical
  have hsorted := hcanonical.weaknesses
  rw [hweaknesses] at hsorted
  revert hsorted
  decide

end Ledger
end AdvisoryLedger
