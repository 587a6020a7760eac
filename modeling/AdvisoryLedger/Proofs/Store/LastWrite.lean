import AdvisoryLedger.Proofs.Store.Reachable

/-!
# The last write wins

What a reader finds under a source and an identifier is what the last draft that was written
there put in, in the row that the first one got. Nothing else of the history matters: not
the drafts in between, not those of other keys, and not what failed.

`Recalls` is the invariant: a store recalls the drafts that were written since an earlier
store. It is stated relative to that earlier store, so that it serves histories that begin
with an empty store and those that begin anywhere. One write keeps it
(`Recalls.synchronize`), the other operations touch nothing that it speaks of, and so a whole
history keeps it. `get?_after` reads the answer off.
-/

namespace AdvisoryLedger

/-- A predicate as it is apart from its row. -/
def Predicate.withoutRow (p : Predicate) : Predicate := { p with row := none }

namespace Store

variable {s s₀ t : Store}

/-! ## Reading links -/

/-- The numbers of the weaknesses of a vulnerability. -/
def weaknessIdsOf (s : Store) (row : Nat) : List Nat :=
  (s.weaknessLinks.filter (·.vulnerability == row)).map (·.weakness)

/-- The links of a vulnerability stand in the order of their places, so reading them by place
is reading them as they stand. -/
theorem softwareOf_eq (h : s.WellFormed) (row : Nat) :
    s.softwareOf row = ((s.predicateLinksOf row).map (·.predicate)).filterMap
      (fun id => (s.predicateAt? id).map (·.predicate)) := by
  have hsorted : (s.predicateLinksOf row).Pairwise
      (fun a b => decide (a.position ≤ b.position) = true) := by
    have hle : ((s.predicateLinksOf row).map (·.position)).Pairwise (· ≤ ·) := by
      rw [h.positions row]
      exact List.pairwise_le_range
    rw [List.pairwise_map] at hle
    exact hle.imp (fun hab => decide_eq_true hab)
  show (List.filterMap _ (List.mergeSort (s.predicateLinksOf row) _)).map _ = _
  rw [List.mergeSort_of_pairwise hsorted, List.map_filterMap, List.filterMap_map]
  rfl

/-- A predicate that is read is the one that the store has under its key. -/
theorem predicateRow?_of_mem_softwareOf (h : s.WellFormed) {row : Nat} {p : Predicate}
    (hp : p ∈ s.softwareOf row) :
    (s.predicateRow? p.identity).map (·.predicate) = some p := by
  rw [softwareOf_eq h] at hp
  obtain ⟨id, -, hid⟩ := List.mem_filterMap.mp hp
  obtain ⟨r, hr, rfl⟩ := Option.map_eq_some_iff.mp hid
  have hmem := ((predicateAt?_eq_some_iff h).mp hr).1
  rw [(predicateRow?_eq_some_iff h).mpr ⟨hmem, (h.identity_eq r hmem).symm⟩]
  rfl

/-- A list of predicates is read the same from a later store that has the same links. -/
theorem Extends.softwareOf (h : s.Extends t) (hs : s.WellFormed) (ht : t.WellFormed) {row : Nat}
    (hlinks : t.predicateLinksOf row = s.predicateLinksOf row) :
    t.softwareOf row = s.softwareOf row := by
  rw [softwareOf_eq hs, softwareOf_eq ht, hlinks]
  apply List.filterMap_congr
  intro id hid
  obtain ⟨l, hl, rfl⟩ := List.mem_map.mp hid
  have hmem := hs.predicateLink_predicate l (List.mem_of_mem_filter hl)
  obtain ⟨r, hr, hrid⟩ := List.mem_map.mp hmem
  have hat := (predicateAt?_eq_some_iff hs).mpr ⟨hr, hrid⟩
  rw [hat, h.predicateAt? hs ht hat]

theorem map_filterMap_eq_map {α β γ : Type} {f : α → Option β} {g : β → γ} {k : α → γ}
    {xs : List α} (h : ∀ x ∈ xs, ∃ y, f x = some y ∧ g y = k x) :
    (xs.filterMap f).map g = xs.map k := by
  induction xs with
  | nil => rfl
  | cons x xs ih =>
      obtain ⟨y, hy, hg⟩ := h x (List.mem_cons_self ..)
      rw [List.filterMap_cons_some hy, List.map_cons, List.map_cons, hg,
        ih (fun z hz => h z (List.mem_cons_of_mem _ hz))]

section Synchronized

variable {d : Draft} {vulnId : String} {row : Nat} {kept : List (Nat × Predicate)}

theorem Synchronized.predicateLinksOf (h : Synchronized s d vulnId row kept t) (other : Nat) :
    t.predicateLinksOf other =
      if other = row then predicateBlock row 0 (kept.map (·.1)) else s.predicateLinksOf other := by
  unfold Store.predicateLinksOf
  rw [h.predicateLinks]
  exact filter_relink vulnerability_of_mem_predicateBlock s.predicateLinks other

theorem Synchronized.weaknessIdsOf (h : Synchronized s d vulnId row kept t) (other : Nat) :
    t.weaknessIdsOf other =
      if other = row then (d.record.weaknesses.map (·.id)).eraseDups
      else s.weaknessIdsOf other := by
  unfold Store.weaknessIdsOf
  rw [h.weaknessLinks]
  refine (congrArg _
    (filter_relink vulnerability_of_mem_weaknessBlock s.weaknessLinks other)).trans ?_
  split
  · exact map_weaknessBlock row _
  · rfl

/-- The predicates that are read after a write have the keys that were written. -/
theorem Synchronized.identities_softwareOf (h : Synchronized s d vulnId row kept t) :
    (t.softwareOf row).map (·.identity) = Predicate.distinctKeys d.software := by
  have hcolumn : (t.predicateLinksOf row).map (·.predicate) = kept.map (·.1) := by
    rw [h.predicateLinksOf, if_pos rfl, map_predicateBlock]
  rw [softwareOf_eq h.wellFormed, hcolumn, List.filterMap_map]
  refine Eq.trans (map_filterMap_eq_map ?_) h.keeps.identities
  intro e he
  obtain ⟨r, hr, hid, hident⟩ := h.keeps.row e he
  refine ⟨r.predicate, ?_, (h.wellFormed.identity_eq r hr).trans hident⟩
  show (t.predicateAt? e.1).map _ = _
  rw [(predicateAt?_eq_some_iff h.wellFormed).mpr ⟨hr, hid⟩]
  rfl

theorem Synchronized.softwareOf_of_ne (h : Synchronized s d vulnId row kept t)
    (hs : s.WellFormed) {other : Nat} (hne : other ≠ row) :
    t.softwareOf other = s.softwareOf other := by
  apply h.extends.softwareOf hs h.wellFormed
  rw [h.predicateLinksOf, if_neg hne]

end Synchronized

/-! ## What a store recalls -/

/-- The row shows the draft: its columns, its weaknesses and the keys of its predicates. -/
structure Shows (s : Store) (row : Nat) (vulnId : String) (d : Draft) : Prop where
  columns : s.vulnerabilityRow? d.record.source vulnId
    = some (vulnerabilityRow row vulnId d.record)
  weaknesses : s.weaknessIdsOf row = (d.record.weaknesses.map (·.id)).eraseDups
  software : (s.softwareOf row).map (·.identity) = Predicate.distinctKeys d.software

/-- The store recalls the drafts `ws` that were written since it was `s₀`. A key that none of
them had is as it was, any other one shows the last of them in the row that all of them got,
and a key of a predicate has the row that was first stored under it. -/
structure Recalls (s₀ : Store) (ws : List Write) (s : Store) : Prop where
  untouched : ∀ source vulnId, ws.filter (·.isTo source vulnId) = [] →
    s.vulnerabilityRow? source vulnId = s₀.vulnerabilityRow? source vulnId ∧
    ∀ r, s₀.vulnerabilityRow? source vulnId = some r →
      s.weaknessIdsOf r.id = s₀.weaknessIdsOf r.id ∧ s.softwareOf r.id = s₀.softwareOf r.id
  written : ∀ source vulnId w, (ws.filter (·.isTo source vulnId)).getLast? = some w →
    ∃ row : Nat, s.Shows row vulnId w.draft ∧
      ∀ w' ∈ ws.filter (·.isTo source vulnId), w'.answer.row = some (row : Int)
  stored : ∀ key, (s.predicateRow? key).map (·.predicate)
    = ((s₀.predicateRow? key).map (·.predicate)).or
        ((ws.flatMap (·.answer.software)).find? (·.identity == key))
  answered : ∀ w ∈ ws, ∀ key,
    (w.answer.software.find? (·.identity == key)).map Predicate.withoutRow
      = (w.draft.software.find? (·.identity == key)).map Predicate.withoutRow

theorem Recalls.refl (s : Store) : Recalls s [] s where
  untouched := fun _ _ _ => ⟨rfl, fun _ _ => ⟨rfl, rfl⟩⟩
  written := fun _ _ _ h => by cases h
  stored := fun _ => by simp
  answered := fun _ hw => by cases hw

/-- What is recalled does not depend on the other tables. -/
theorem Recalls.frame {ws : List Write} (h : Recalls s₀ ws s) (components : List Component)
    (weaknesses : List Weakness) (attributions : List Attribution) :
    Recalls s₀ ws { s with
      components := components, weaknesses := weaknesses, attributions := attributions } where
  untouched := h.untouched
  written := by
    intro source vulnId w hw
    obtain ⟨row, hshows, hrow⟩ := h.written source vulnId w hw
    exact ⟨row, ⟨hshows.columns, hshows.weaknesses, hshows.software⟩, hrow⟩
  stored := h.stored
  answered := h.answered

theorem exists_getLast? {α : Type} {xs : List α} (h : xs ≠ []) : ∃ x, xs.getLast? = some x :=
  Option.ne_none_iff_exists'.mp (fun hn => h (List.getLast?_eq_none_iff.mp hn))

theorem isTo_iff {w : Write} {source : Source} {vulnId : String} :
    w.isTo source vulnId = true ↔
      w.draft.record.source = source ∧ w.draft.record.vulnId = some vulnId := by
  unfold Write.isTo
  rw [Bool.and_eq_true, beq_iff_eq, beq_iff_eq]

section Synchronized

variable {d : Draft} {vulnId : String} {row : Nat} {kept : List (Nat × Predicate)}

/-- The predicates of the answer are the first of each key in the draft. -/
theorem Synchronized.identities_answer (h : Synchronized s d vulnId row kept t) :
    (answer d row kept).software.map (·.identity) = Predicate.distinctKeys d.software := by
  rw [← h.keeps.identities, answer, List.map_map]
  rfl

theorem Synchronized.find?_answer_eq_some (h : Synchronized s d vulnId row kept t)
    {e : Nat × Predicate} (he : e ∈ kept) :
    (answer d row kept).software.find? (·.identity == e.2.identity)
      = some { e.2 with row := some (e.1 : Int) } := by
  rw [find?_eq_some_iff_of_nodup (h.identities_answer ▸ Predicate.nodup_distinctKeys _)]
  exact ⟨List.mem_map_of_mem he, rfl⟩

/-- A key of the draft is the key of a predicate that is kept. -/
theorem Synchronized.exists_kept (h : Synchronized s d vulnId row kept t) {p : Predicate}
    (hp : p ∈ d.software) : ∃ e ∈ kept, e.2.identity = p.identity := by
  have hmem : p.identity ∈ kept.map (·.2.identity) := by
    rw [h.keeps.identities, Predicate.mem_distinctKeys]
    exact List.mem_map_of_mem hp
  obtain ⟨e, he, hkey⟩ := List.mem_map.mp hmem
  exact ⟨e, he, hkey⟩

theorem Synchronized.find?_answer_withoutRow (h : Synchronized s d vulnId row kept t)
    (key : String) :
    ((answer d row kept).software.find? (·.identity == key)).map Predicate.withoutRow
      = (d.software.find? (·.identity == key)).map Predicate.withoutRow := by
  cases hfind : d.software.find? (·.identity == key) with
  | none =>
      have hkey := find?_eq_none_iff_not_mem.mp hfind
      rw [find?_eq_none_iff_not_mem.mpr]
      rw [h.identities_answer, Predicate.mem_distinctKeys]
      exact hkey
  | some p =>
      obtain rfl : p.identity = key := by simpa using List.find?_some hfind
      obtain ⟨e, he, hek⟩ := h.exists_kept (List.mem_of_find?_eq_some hfind)
      have hfirst := h.keeps.first e he
      rw [hek, hfind] at hfirst
      rw [← hek, h.find?_answer_eq_some he, Option.some.inj hfirst]
      rfl

/-- What the answer has under a key is what the store has there, if the key is new. -/
theorem Synchronized.find?_answer_software (h : Synchronized s d vulnId row kept t) {key : String}
    (hnew : s.predicateRow? key = none) :
    (t.predicateRow? key).map (·.predicate)
      = (answer d row kept).software.find? (·.identity == key) := by
  cases hrow : t.predicateRow? key with
  | none =>
      rw [Option.map_none]
      symm
      rw [find?_eq_none_iff_not_mem, h.identities_answer, Predicate.mem_distinctKeys]
      intro hmem
      obtain ⟨p, hp, rfl⟩ := List.mem_map.mp hmem
      exact predicateRow?_eq_none_iff.mp hrow (h.predicates.known p hp)
  | some r =>
      obtain ⟨hr, rfl⟩ := (predicateRow?_eq_some_iff h.wellFormed).mp hrow
      obtain ⟨more, hmore, hfresh⟩ := h.predicates.fresh
      have hr' : r ∈ more := by
        refine (List.mem_append.mp (hmore ▸ hr)).resolve_left (fun hold => ?_)
        exact predicateRow?_eq_none_iff.mp hnew (List.mem_map_of_mem hold)
      obtain ⟨-, p, hfind, hcolumns⟩ := hfresh r hr'
      have hkey : p.identity = r.identity := by simpa using List.find?_some hfind
      -- the predicate of the new row is the one that was kept for its key
      obtain ⟨e, he, hek⟩ := h.exists_kept (List.mem_of_find?_eq_some hfind)
      have hfirst := h.keeps.first e he
      rw [hek, hkey, hfind] at hfirst
      obtain ⟨r', hr'', hid, hident⟩ := h.keeps.row e he
      have hsame : r' = r := List.inj_on_of_nodup_map h.wellFormed.identities hr'' hr
        (hident.trans (hek.trans hkey))
      rw [← hkey, ← hek, h.find?_answer_eq_some he, ← hid, hsame, ← Option.some.inj hfirst,
        Option.map_some, hcolumns]
      rfl

/-- A write that is not to a key is to another one. -/
theorem key_ne_of_isTo_eq_false (hid : d.record.vulnId = some vulnId) {v : Vulnerability}
    {source : Source} {other : String} (hw : (⟨d, v⟩ : Write).isTo source other = false) :
    (source, other) ≠ (d.record.source, vulnId) := by
  intro heq
  rw [Prod.mk.injEq] at heq
  rw [isTo_iff.mpr ⟨heq.1.symm, hid.trans (congrArg some heq.2.symm)⟩] at hw
  cases hw

/-- A draft that was written shows in its row. -/
theorem Synchronized.shows (h : Synchronized s d vulnId row kept t) : t.Shows row vulnId d where
  columns := h.vulnerabilityRow?
  weaknesses := by rw [h.weaknessIdsOf, if_pos rfl]
  software := h.identities_softwareOf

/-- What the row of another key shows stays. -/
theorem Synchronized.shows_of_ne (h : Synchronized s d vulnId row kept t) (hs : s.WellFormed)
    {row' : Nat} {other : String} {d' : Draft} (hshows : s.Shows row' other d')
    (hne : (d'.record.source, other) ≠ (d.record.source, vulnId)) : t.Shows row' other d' := by
  obtain ⟨hmem, hkey⟩ := (vulnerabilityRow?_eq_some_iff hs).mp hshows.columns
  have hrne : row' ≠ row := h.row_ne hmem (hkey ▸ hne)
  constructor
  · rw [h.vulnerabilityRow?_of_ne hs hne]
    exact hshows.columns
  · rw [h.weaknessIdsOf, if_neg hrne]
    exact hshows.weaknesses
  · rw [h.softwareOf_of_ne hs hrne]
    exact hshows.software

/-- The drafts of a key were written to the row where the next one finds the key. -/
theorem Recalls.row_eq {ws : List Write} (h : Recalls s₀ ws s) (hs : s.WellFormed)
    (ht : Synchronized s d vulnId row kept t) {w : Write}
    (hw : w ∈ ws.filter (·.isTo d.record.source vulnId)) : w.answer.row = some (row : Int) := by
  obtain ⟨last, hlast⟩ := exists_getLast? (List.ne_nil_of_mem hw)
  obtain ⟨row', hshows, hrows⟩ := h.written _ _ last hlast
  obtain ⟨hsource, -⟩ := isTo_iff.mp (List.of_mem_filter (List.mem_of_getLast? hlast))
  obtain ⟨hmem, hkey⟩ := (vulnerabilityRow?_eq_some_iff hs).mp hshows.columns
  have hsame := ht.row_eq hmem (hkey.trans (by rw [hsource]))
  rw [hrows w hw, ← hsame]
  rfl

/-- One more write is recalled. -/
theorem Recalls.synchronize {ws : List Write} (h : Recalls s₀ ws s) (hs : s.WellFormed)
    (hid : d.record.vulnId = some vulnId) (ht : Synchronized s d vulnId row kept t) :
    Recalls s₀ (ws ++ [⟨d, answer d row kept⟩]) t := by
  constructor
  · intro source other hnone
    rw [List.filter_append, List.append_eq_nil_iff] at hnone
    obtain ⟨hws, hw⟩ := hnone
    have hne := key_ne_of_isTo_eq_false hid (by simpa using hw)
    obtain ⟨hrow, hlists⟩ := h.untouched source other hws
    refine ⟨(ht.vulnerabilityRow?_of_ne hs hne).trans hrow, ?_⟩
    intro r hr
    obtain ⟨hmem, hkey⟩ := (vulnerabilityRow?_eq_some_iff hs).mp (hrow.trans hr)
    have hrne := ht.row_ne hmem (hkey ▸ hne)
    obtain ⟨hweaknesses, hsoftware⟩ := hlists r hr
    refine ⟨?_, (ht.softwareOf_of_ne hs hrne).trans hsoftware⟩
    rw [ht.weaknessIdsOf, if_neg hrne]
    exact hweaknesses
  · intro source other w hw
    rw [List.filter_append] at hw ⊢
    -- either the new write is the last one to the key, or the last one is an old one
    cases hto : (⟨d, answer d row kept⟩ : Write).isTo source other with
    | true =>
        rw [List.filter_cons_of_pos hto, List.filter_nil, List.getLast?_append] at hw
        obtain rfl : (⟨d, answer d row kept⟩ : Write) = w := Option.some.inj hw
        obtain ⟨rfl, hvulnId⟩ := isTo_iff.mp hto
        obtain rfl : other = vulnId := Option.some.inj (hvulnId.symm.trans hid)
        refine ⟨row, ht.shows, ?_⟩
        intro w' hw'
        rcases List.mem_append.mp hw' with hold | hnew
        · exact h.row_eq hs ht hold
        · rw [List.filter_cons_of_pos hto, List.filter_nil] at hnew
          rw [List.mem_singleton.mp hnew]
          rfl
    | false =>
        have hne := key_ne_of_isTo_eq_false hid hto
        rw [List.filter_cons_of_neg (by simp [hto]), List.filter_nil, List.append_nil] at hw ⊢
        obtain ⟨row', hshows, hrows⟩ := h.written source other w hw
        obtain ⟨rfl, -⟩ := isTo_iff.mp (List.of_mem_filter (List.mem_of_getLast? hw))
        exact ⟨row', ht.shows_of_ne hs hshows hne, hrows⟩
  · intro key
    rw [List.flatMap_append, List.find?_append, ← Option.or_assoc, ← h.stored key]
    cases hrow : s.predicateRow? key with
    | some r =>
        rw [ht.extends.predicateRow? hs ht.wellFormed hrow]
        rfl
    | none =>
        rw [ht.find?_answer_software hrow, Option.map_none, Option.none_or, List.flatMap_singleton]
  · intro w hw
    rcases List.mem_append.mp hw with hold | hnew
    · exact h.answered w hold
    · rw [List.mem_singleton.mp hnew]
      exact ht.find?_answer_withoutRow

end Synchronized

/-- One more operation is recalled, whatever it is. -/
theorem Recalls.perform {ws : List Write} (h : Recalls s₀ ws s) (hs : s.WellFormed)
    (op : Operation) : Recalls s₀ (ws ++ writes [(op, (s.perform op).1)]) (s.perform op).2 := by
  cases op with
  | upsertComponent c =>
      show Recalls s₀ (ws ++ []) (s.upsertComponent c)
      rw [List.append_nil, upsertComponent_eq]
      exact h.frame _ s.weaknesses s.attributions
  | insertWeakness w =>
      show Recalls s₀ (ws ++ []) (s.insertWeakness w)
      rw [List.append_nil, insertWeakness_eq]
      exact h.frame s.components _ s.attributions
  | synchronize d =>
      rcases perform_synchronize_cases hs d with ⟨e, heq⟩ | ⟨vulnId, row, kept, t, hid, heq, ht⟩
      · rw [heq]
        show Recalls s₀ (ws ++ []) s
        rw [List.append_nil]
        exact h
      · rw [heq]
        exact h.synchronize hs (storableId?_eq_some_iff.mp hid).1 ht
  | attach v component now =>
      have hnone : writes [(.attach v component now, (s.perform (.attach v component now)).1)] = [] :=
        rfl
      rw [hnone, List.append_nil]
      rcases perform_attach_cases hs v component now with heq | ⟨row, -, ht⟩
      · rw [heq]
        exact h
      · rw [ht.eq]
        exact h.frame s.components s.weaknesses _
  | find p =>
      show Recalls s₀ (ws ++ []) s
      rw [List.append_nil]
      exact h
  | get source vulnId =>
      show Recalls s₀ (ws ++ []) s
      rw [List.append_nil]
      exact h

/-- A whole history is recalled. -/
theorem Recalls.after {ws : List Write} (h : Recalls s₀ ws s) (hs : s.WellFormed)
    (ops : List Operation) : Recalls s₀ (ws ++ writes (s.trace ops)) (s.after ops) := by
  induction ops generalizing s ws with
  | nil =>
      show Recalls s₀ (ws ++ []) s
      rw [List.append_nil]
      exact h
  | cons op ops ih =>
      have hrest := ih (h.perform hs op) (hs.perform op)
      rw [List.append_assoc] at hrest
      unfold writes at hrest
      rw [← List.filterMap_append] at hrest
      exact hrest

/-- The same, for the predicates as they were given. -/
theorem Recalls.find?_withoutRow {ws : List Write} (h : Recalls s₀ ws s) (key : String) :
    ((ws.flatMap (·.answer.software)).find? (·.identity == key)).map Predicate.withoutRow
      = ((ws.flatMap (·.draft.software)).find? (·.identity == key)).map Predicate.withoutRow := by
  have hanswered := h.answered
  clear h
  induction ws with
  | nil => rfl
  | cons w ws ih =>
      rw [List.flatMap_cons, List.flatMap_cons, List.find?_append, List.find?_append, Option.map_or,
        Option.map_or, hanswered w (List.mem_cons_self ..),
        ih (fun w' hw' => hanswered w' (List.mem_cons_of_mem w hw'))]

/-! ## What a reader finds -/

/-- A reader of a row that shows a draft finds the keys of the draft, each with the predicate
that the store has under it. -/
theorem Shows.softwareOf (hs : s.WellFormed) {row : Nat} {vulnId : String} {d : Draft}
    (h : s.Shows row vulnId d) :
    (s.softwareOf row).map some = (Predicate.distinctKeys d.software).map fun key =>
      (s.predicateRow? key).map (·.predicate) := by
  rw [← h.software, List.map_map]
  apply List.map_congr_left
  intro p hp
  exact (predicateRow?_of_mem_softwareOf hs hp).symm

/-- A score is kept as it is, if it is a number and not the negative zero. -/
theorem storedScore_eq {score : Option Binary64} (h : score ≠ some (.zero true)) :
    storedScore score = score.filter (!·.isNaN) := by
  cases score with
  | none => rfl
  | some x =>
      show (if x.isNaN then none else if x.magnitude = 0 then some (.zero false) else some x)
        = if (!x.isNaN) = true then some x else none
      cases x.isNaN with
      | true => rfl
      | false =>
          by_cases hzero : x.magnitude = 0
          · rcases Binary64.magnitude_eq_zero_iff.mp hzero with rfl | rfl
            · rfl
            · exact absurd rfl h
          · simp [hzero]

/-- A time after it was written as text and read again. -/
def rereadTime (t : Option Instant) : Option Instant :=
  t.bind fun t => Instant.ofTimestamp? t.timestamp

/-- The record is what a reader of the store finds, where `ws` are the drafts that were written
and `first` and `last` are those of the key. Every column is that of the last draft. The row is
that of the first one, and a predicate is the one that was first stored under its key: `stored`
says so with its row, `submitted` in terms of what the drafts had. -/
structure ReadsBack (s : Store) (ws : List Write) (first last : Write) (v : Vulnerability) :
    Prop where
  row : v.row = first.answer.row
  source : v.source = last.draft.record.source
  vulnId : v.vulnId = last.draft.record.vulnId
  title : v.title = last.draft.record.title
  description : v.description = last.draft.record.description
  references : v.references = last.draft.record.references
  created : v.created = rereadTime last.draft.record.created
  published : v.published = rereadTime last.draft.record.published
  updated : v.updated = rereadTime last.draft.record.updated
  severity : v.severity = last.draft.record.severity
  score : last.draft.record.score ≠ some (.zero true) →
    v.score = last.draft.record.score.filter (!·.isNaN)
  vector : v.vector = last.draft.record.vector
  weaknesses : v.weaknesses = ((last.draft.record.weaknesses.map (·.id)).eraseDups.mergeSort
    fun a b => decide (a ≤ b)).filterMap s.weakness?
  stored : v.software.map some = (Predicate.distinctKeys last.draft.software).map fun key =>
    (ws.flatMap (·.answer.software)).find? (·.identity == key)
  submitted : v.software.map (some ·.withoutRow) =
    (Predicate.distinctKeys last.draft.software).map fun key =>
      ((ws.flatMap (·.draft.software)).find? (·.identity == key)).map Predicate.withoutRow

/-- The row of a draft reads back as the draft. -/
theorem Recalls.readsBack {ws : List Write} (h : Recalls empty ws s) (hs : s.WellFormed)
    {source : Source} {vulnId : String} {first last : Write} {row : Nat}
    (hlast : last.isTo source vulnId = true) (hfirst : first.answer.row = some (row : Int))
    (hshows : s.Shows row vulnId last.draft) :
    s.ReadsBack ws first last (s.load (vulnerabilityRow row vulnId last.draft.record)) := by
  have hnone (key : String) : (empty.predicateRow? key).map (·.predicate) = none := rfl
  have hstored := hshows.softwareOf hs
  simp only [h.stored, hnone, Option.none_or] at hstored
  have htime (t : Option Instant) :
      (t.map Instant.timestamp).bind Instant.ofTimestamp? = rereadTime t := by
    rw [Option.bind_map]
    rfl
  constructor
  case row => exact hfirst.symm
  case vulnId => exact (isTo_iff.mp hlast).2.symm
  case created => exact htime _
  case published => exact htime _
  case updated => exact htime _
  case score => exact storedScore_eq
  case weaknesses =>
    rw [← hshows.weaknesses]
    rfl
  case stored => exact hstored
  case submitted =>
    have hmapped := congrArg (List.map (Option.map Predicate.withoutRow)) hstored
    simp only [List.map_map, Function.comp_def, h.find?_withoutRow] at hmapped
    exact hmapped
  all_goals rfl

/-- **The last write wins.** Under a key that no draft was written to there is nothing, and
under any other one there is what the last draft put there. -/
theorem get?_after (ops : List Operation) (source : Source) (vulnId : String) :
    let ws := writes (empty.trace ops)
    let mine := ws.filter (·.isTo source vulnId)
    (mine = [] → (empty.after ops).get? source vulnId = none) ∧
    ∀ first ∈ mine.head?, ∀ last ∈ mine.getLast?, ∃ v,
      (empty.after ops).get? source vulnId = some v ∧
      (empty.after ops).ReadsBack ws first last v := by
  intro ws mine
  have hs : (empty.after ops).WellFormed := wellFormed_empty.after ops
  have h : Recalls empty ws (empty.after ops) := (Recalls.refl empty).after wellFormed_empty ops
  unfold get?
  constructor
  · intro hnone
    rw [(h.untouched source vulnId hnone).1]
    rfl
  · intro first hfirst last hlast
    obtain ⟨row, hshows, hrows⟩ := h.written source vulnId last hlast
    have hto := List.of_mem_filter (List.mem_of_getLast? hlast)
    refine ⟨_, ?_, h.readsBack hs hto (hrows first (List.mem_of_head? hfirst)) hshows⟩
    rw [← (isTo_iff.mp hto).1, hshows.columns]
    rfl

end Store
end AdvisoryLedger
