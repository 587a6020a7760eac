import AdvisoryLedger.Proofs.Store.LastWrite

/-!
# What was submitted stays known

A store knows a predicate under its key from the first time that the key is submitted, with
the row that it then gets, and for good: it makes no difference whether the key is submitted
again, in which draft, or whether any vulnerability still has the predicate. So the counts of
rows and the look-ups of predicates are functions of the drafts that were written so far.

`Recalls` (from `AdvisoryLedger.Proofs.Store.LastWrite`) says this key by key. Here it is
turned into statements on the list of all drafts that were written: which keys the tables
have, how many rows there are, and which draft a predicate that is found comes from.
-/

namespace AdvisoryLedger

/-- The source and identifier that a draft was written under. -/
def Write.key (w : Write) : Source × Option String := (w.draft.record.source, w.draft.record.vulnId)

/-- The predicates that some drafts had, in the order in which they were written. -/
def submitted (ws : List Write) : List Predicate := ws.flatMap (·.draft.software)

/-- The write `w` is the first that had a key, and `p` is its first predicate with it. -/
structure FirstSubmitted (ws : List Write) (key : String) (w : Write) (p : Predicate) : Prop where
  write : ∃ earlier later, ws = earlier ++ w :: later ∧ key ∉ (submitted earlier).map (·.identity)
  predicate : w.draft.software.find? (·.identity == key) = some p

namespace Store

variable {s s₀ : Store} {ws : List Write}

/-! ## Drafts that were written have identifiers -/

/-- A draft that was refused is not among those that were written. -/
theorem storableId?_of_mem_writes (h : s.WellFormed) {ops : List Operation} {w : Write}
    (hw : w ∈ writes (s.trace ops)) : ∃ vulnId, storableId? w.draft.record = some vulnId := by
  induction ops generalizing s with
  | nil => cases hw
  | cons op ops ih =>
      obtain ⟨step, hstep, hsome⟩ := List.mem_filterMap.mp hw
      rcases List.mem_cons.mp hstep with rfl | hlater
      · cases op with
        | synchronize d =>
            rcases perform_synchronize_cases h d with ⟨e, heq⟩ | ⟨vulnId, _, _, _, hid, heq, -⟩
            · rw [heq] at hsome
              cases hsome
            · rw [heq] at hsome
              obtain rfl := Option.some.inj hsome
              exact ⟨vulnId, hid⟩
        | upsertComponent c => cases hsome
        | insertWeakness v => cases hsome
        | attach v component now => cases hsome
        | find p => cases hsome
        | get source vulnId => cases hsome
      · exact ih (h.perform op) (List.mem_filterMap.mpr ⟨step, hlater, hsome⟩)

/-! ## Keys of vulnerabilities -/

/-- The store has a source and identifier exactly if a draft was written under them. -/
theorem Recalls.mem_vulnerabilityKeys_iff (h : Recalls empty ws s) {source : Source}
    {vulnId : String} :
    (source, vulnId) ∈ s.vulnerabilityKeys ↔ (source, some vulnId) ∈ ws.map Write.key := by
  have hmine : ws.filter (·.isTo source vulnId) ≠ [] ↔ (source, some vulnId) ∈ ws.map Write.key := by
    rw [Ne, List.filter_eq_nil_iff, List.mem_map]
    push Not
    simp only [isTo_iff, Write.key, Prod.mk.injEq]
  rw [← hmine]
  constructor
  · intro hkey hnone
    have hrow := (h.untouched source vulnId hnone).1
    exact vulnerabilityRow?_eq_none_iff.mp hrow hkey
  · intro hsome
    obtain ⟨last, hlast⟩ := exists_getLast? hsome
    obtain ⟨row, hshows, -⟩ := h.written source vulnId last hlast
    obtain ⟨hsource, -⟩ := isTo_iff.mp (List.of_mem_filter (List.mem_of_getLast? hlast))
    by_contra hkey
    have hcolumns := hshows.columns
    rw [hsource, vulnerabilityRow?_eq_none_iff.mpr hkey] at hcolumns
    cases hcolumns

/-- There are as many vulnerabilities as different sources and identifiers were written. -/
theorem Recalls.vulnerabilityCount_eq (h : Recalls empty ws s) (hs : s.WellFormed)
    (hids : ∀ w ∈ ws, ∃ vulnId, storableId? w.draft.record = some vulnId) :
    s.vulnerabilityCount = (ws.map Write.key).eraseDups.length := by
  let full (key : Source × String) : Source × Option String := (key.1, some key.2)
  have hinj : Function.Injective full := by
    rintro ⟨a, b⟩ ⟨a', b'⟩ heq
    simpa [full] using heq
  have hperm : (s.vulnerabilityKeys.map full).Perm (ws.map Write.key).eraseDups := by
    rw [List.perm_ext_iff_of_nodup (hs.vulnerabilityKeys.map hinj) (nodup_eraseDups _)]
    rintro ⟨source, vulnId?⟩
    rw [List.mem_eraseDups]
    constructor
    · intro hmem
      obtain ⟨⟨source', vulnId⟩, hkey, heq⟩ := List.mem_map.mp hmem
      rw [← heq]
      exact h.mem_vulnerabilityKeys_iff.mp hkey
    · intro hmem
      obtain ⟨w, hw, hkey⟩ := List.mem_map.mp hmem
      obtain ⟨vulnId, hid⟩ := hids w hw
      have hvulnId : vulnId? = some vulnId :=
        (congrArg Prod.snd hkey).symm.trans (storableId?_eq_some_iff.mp hid).1
      subst hvulnId
      exact List.mem_map.mpr ⟨(source, vulnId), h.mem_vulnerabilityKeys_iff.mpr hmem, rfl⟩
  have hlength := hperm.length_eq
  rw [List.length_map] at hlength
  rw [← hlength]
  exact (List.length_map VulnerabilityRow.key).symm

/-! ## Keys of predicates -/

/-- Looking for a key finds the first answer that had it. -/
theorem Recalls.find?_eq (h : Recalls empty ws s) (c : Predicate) :
    s.find? c = (ws.flatMap (·.answer.software)).find? (·.identity == c.identity) := by
  have hstored := h.stored c.identity
  have hnone : (empty.predicateRow? c.identity).map (·.predicate) = none := rfl
  rw [hnone, Option.none_or] at hstored
  exact hstored

/-- The store has the key of a predicate exactly if it was submitted. -/
theorem Recalls.mem_identities_iff (h : Recalls empty ws s) {key : String} :
    key ∈ s.identities ↔ key ∈ (submitted ws).map (·.identity) := by
  have hfound : (s.predicateRow? key).isSome
      = ((submitted ws).find? (·.identity == key)).isSome := by
    have hstored := congrArg (Option.map Predicate.withoutRow) (h.stored key)
    have hnone : (empty.predicateRow? key).map (·.predicate) = none := rfl
    rw [hnone, Option.none_or, h.find?_withoutRow key] at hstored
    have hsome := congrArg Option.isSome hstored
    rw [Option.isSome_map, Option.isSome_map, Option.isSome_map] at hsome
    exact hsome
  rw [← not_iff_not, ← predicateRow?_eq_none_iff, ← find?_eq_none_iff_not_mem,
    ← Option.not_isSome_iff_eq_none, ← Option.not_isSome_iff_eq_none, hfound]

/-- There are as many predicates as different keys were submitted. -/
theorem Recalls.predicateCount_eq (h : Recalls empty ws s) (hs : s.WellFormed) :
    s.predicateCount = (Predicate.distinctKeys (submitted ws)).length := by
  have hperm : s.identities.Perm (Predicate.distinctKeys (submitted ws)) := by
    rw [List.perm_ext_iff_of_nodup hs.identities (Predicate.nodup_distinctKeys _)]
    intro key
    rw [h.mem_identities_iff, Predicate.mem_distinctKeys]
  rw [← hperm.length_eq]
  exact (List.length_map PredicateRow.identity).symm

/-! ## Where a predicate that is found comes from -/

theorem isSome_find?_iff {c : Predicate} : (s.find? c).isSome ↔ c.identity ∈ s.identities := by
  unfold find?
  rw [Option.isSome_map, ← not_iff_not, ← predicateRow?_eq_none_iff,
    Option.not_isSome_iff_eq_none]

/-- A predicate that is found has a row. -/
theorem row_of_find?_eq_some {c q : Predicate} (hq : s.find? c = some q) :
    ∃ row : Nat, q.row = some (row : Int) := by
  obtain ⟨r, -, rfl⟩ := Option.map_eq_some_iff.mp hq
  exact ⟨r.id, rfl⟩

/-- What is found under a key is the predicate that was submitted first, with the row that
the write answered. -/
theorem Recalls.exists_firstSubmitted (h : Recalls empty ws s) {c q : Predicate}
    (hq : s.find? c = some q) :
    ∃ w p row, FirstSubmitted ws c.identity w p ∧ q = { p with row := some row } ∧
      q ∈ w.answer.software := by
  obtain ⟨row, hrow⟩ := row_of_find?_eq_some hq
  rw [h.find?_eq, List.find?_flatMap] at hq
  obtain ⟨earlier, w, later, rfl, hw, hearlier⟩ := List.findSome?_eq_some_iff.mp hq
  -- the answer of a write has a key exactly where its draft does, with the same predicate
  have hanswered := h.answered w (by simp) c.identity
  rw [hw, Option.map_some] at hanswered
  obtain ⟨p, hp, hpq⟩ := Option.map_eq_some_iff.mp hanswered.symm
  have hbefore : c.identity ∉ (submitted earlier).map (·.identity) := by
    rw [← find?_eq_none_iff_not_mem, submitted, List.find?_flatMap, List.findSome?_eq_none_iff]
    intro u hu
    have hnone := h.answered u (by simp [hu]) c.identity
    rw [hearlier u hu, Option.map_none] at hnone
    exact Option.map_eq_none_iff.mp hnone.symm
  refine ⟨w, p, row, ⟨⟨earlier, later, rfl, hbefore⟩, hp⟩, ?_, List.mem_of_find?_eq_some hw⟩
  calc q = { q.withoutRow with row := some (row : Int) } := by rw [← hrow]; rfl
    _ = { p with row := some (row : Int) } := by rw [← hpq]; rfl

/-- What was found once is found ever after. -/
theorem Extends.find?_eq_some {t : Store} (h : s.Extends t) (hs : s.WellFormed) (ht : t.WellFormed)
    {c q : Predicate} (hq : s.find? c = some q) : t.find? c = some q := by
  obtain ⟨r, hr, rfl⟩ := Option.map_eq_some_iff.mp hq
  unfold find?
  rw [h.predicateRow? hs ht hr]
  rfl

/-- **What a store knows is what was submitted.** After any history there are as many
predicates as different keys and as many vulnerabilities as different sources and identifiers
in the drafts that were written. A predicate is found exactly if its key was submitted: the
first one that was, with the row that it got then, now and after whatever comes later. -/
theorem submissions_after (ops : List Operation) :
    let ws := writes (empty.trace ops)
    (empty.after ops).predicateCount = (Predicate.distinctKeys (submitted ws)).length ∧
    (empty.after ops).vulnerabilityCount = (ws.map Write.key).eraseDups.length ∧
    ∀ c : Predicate,
      (((empty.after ops).find? c).isSome ↔ c.identity ∈ (submitted ws).map (·.identity)) ∧
      ∀ q, (empty.after ops).find? c = some q →
        (∃ w p row, FirstSubmitted ws c.identity w p ∧ q = { p with row := some row } ∧
          q ∈ w.answer.software) ∧
        ∀ later, (empty.after (ops ++ later)).find? c = some q := by
  intro ws
  have hs : (empty.after ops).WellFormed := wellFormed_empty.after ops
  have h : Recalls empty ws (empty.after ops) := (Recalls.refl empty).after wellFormed_empty ops
  refine ⟨h.predicateCount_eq hs, ?_, fun c => ⟨?_, fun q hq => ⟨h.exists_firstSubmitted hq, ?_⟩⟩⟩
  · exact h.vulnerabilityCount_eq hs (fun w hw => storableId?_of_mem_writes wellFormed_empty hw)
  · rw [isSome_find?_iff, h.mem_identities_iff]
  · intro later
    rw [after_append]
    exact (Extends.after hs later).find?_eq_some hs (hs.after later) hq

end Store
end AdvisoryLedger
