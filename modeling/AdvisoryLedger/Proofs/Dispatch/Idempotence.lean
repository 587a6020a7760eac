import AdvisoryLedger.Proofs.Dispatch.Batch

/-!
# A batch can be written again

Writing a batch a second time takes other paths than the first time: predicates are found,
rows are overwritten instead of added, attributions are kept. It still leaves the tables as
they were, and it tells the same.

The tables of the first run are written as folds over its drafts. The second run is the
same folds over drafts with the same records and the same keys, and folding a second time
changes nothing: a row of a vulnerability has the columns of the last draft of its key, and
the links of a vulnerability are those of its last draft, at the place where that put them.
In between, the tables of the second run do differ from those of the first one.
-/

namespace AdvisoryLedger
namespace Store

variable {s t u : Store} {component : String}

/-! ## Links that replace each other -/

section Relink

variable {α : Type} {owner : α → Nat} {blocks : List (Nat × List α)}

/-- What was there before is only asked for its other owners. -/
theorem foldl_relink (owner : α → Nat) (blocks : List (Nat × List α)) (links : List α) :
    blocks.foldl (relink owner) links =
      links.filter (fun l => decide (owner l ∉ blocks.map (·.1))) ++ blocks.foldl (relink owner) [] := by
  induction blocks using List.reverseRecOn generalizing links with
  | nil => simp
  | append_singleton blocks block ih =>
      rw [List.foldl_append, List.foldl_append, ih links]
      show List.filter _ (_ ++ _) ++ block.2 = _ ++ (List.filter _ _ ++ block.2)
      rw [List.filter_append, List.filter_filter, List.append_assoc]
      congr 1
      apply List.filter_congr
      intro l _
      rw [Bool.eq_iff_iff]
      simp [and_comm]

theorem owner_of_mem_foldl_relink (h : ∀ b ∈ blocks, ∀ l ∈ b.2, owner l = b.1) {l : α}
    (hl : l ∈ blocks.foldl (relink owner) []) : owner l ∈ blocks.map (·.1) := by
  induction blocks using List.reverseRecOn with
  | nil => cases hl
  | append_singleton blocks block ih =>
      rw [List.map_append, List.mem_append]
      rw [List.foldl_append] at hl
      rcases of_mem_relink hl with ⟨hold, -⟩ | hnew
      · exact .inl (ih (fun b hb => h b (List.mem_append_left _ hb)) hold)
      · have howner := h block (List.mem_append_right _ (List.mem_singleton_self _)) l hnew
        exact .inr (List.mem_singleton.mpr howner)

/-- Replacing the same links again changes nothing. -/
theorem foldl_relink_foldl_relink (h : ∀ b ∈ blocks, ∀ l ∈ b.2, owner l = b.1) (links : List α) :
    blocks.foldl (relink owner) (blocks.foldl (relink owner) links)
      = blocks.foldl (relink owner) links := by
  have hnone : (blocks.foldl (relink owner) []).filter
      (fun l => decide (owner l ∉ blocks.map (·.1))) = [] := by
    rw [List.filter_eq_nil_iff]
    intro l hl
    simpa using owner_of_mem_foldl_relink h hl
  rw [foldl_relink owner blocks (blocks.foldl (relink owner) links),
    foldl_relink owner blocks links, List.filter_append, hnone, List.append_nil, List.filter_filter]
  simp only [Bool.and_self]

end Relink

/-! ## The tables as folds -/

/-- The row that a draft has in a store. -/
def rowOf? (u : Store) (d : Draft) : Option Nat :=
  (storableId? d.record).bind fun vulnId =>
    (u.vulnerabilityRow? d.record.source vulnId).map (·.id)

/-- The links of a draft to its weaknesses. -/
def weaknessBlock? (u : Store) (d : Draft) : Option (Nat × List WeaknessLink) :=
  (u.rowOf? d).map fun row => (row, weaknessBlock row (d.record.weaknesses.map (·.id)).eraseDups)

/-- The numbers of the rows that have the keys of a draft. -/
def predicateIdsOf (u : Store) (d : Draft) : List Nat :=
  (Predicate.distinctKeys d.software).filterMap fun key => (u.predicateRow? key).map (·.id)

/-- The links of a draft to its predicates. -/
def predicateBlock? (u : Store) (d : Draft) : Option (Nat × List PredicateLink) :=
  (u.rowOf? d).map fun row => (row, predicateBlock row 0 (u.predicateIdsOf d))

/-- The links of a draft are those of its row. -/
theorem owner_weaknessBlock? (ds : List Draft) :
    ∀ b ∈ ds.filterMap u.weaknessBlock?, ∀ l ∈ b.2, l.vulnerability = b.1 := by
  intro b hb
  obtain ⟨d, -, hd⟩ := List.mem_filterMap.mp hb
  obtain ⟨row, -, rfl⟩ := Option.map_eq_some_iff.mp hd
  exact vulnerability_of_mem_weaknessBlock

theorem owner_predicateBlock? (ds : List Draft) :
    ∀ b ∈ ds.filterMap u.predicateBlock?, ∀ l ∈ b.2, l.vulnerability = b.1 := by
  intro b hb
  obtain ⟨d, -, hd⟩ := List.mem_filterMap.mp hb
  obtain ⟨row, -, rfl⟩ := Option.map_eq_some_iff.mp hd
  exact vulnerability_of_mem_predicateBlock

/-- A row after a draft was written. -/
def rewrite (r : VulnerabilityRow) (d : Draft) : VulnerabilityRow :=
  match storableId? d.record with
  | some vulnId => overwrite vulnId d.record r
  | none => r

theorem rewrite_of_storableId? {d : Draft} {vulnId : String}
    (hid : storableId? d.record = some vulnId) (r : VulnerabilityRow) :
    rewrite r d = overwrite vulnId d.record r := by
  unfold rewrite
  rw [hid]

theorem rewrite_of_storableId?_eq_none {d : Draft} (hid : storableId? d.record = none)
    (r : VulnerabilityRow) : rewrite r d = r := by
  unfold rewrite
  rw [hid]

/-- What writing one draft leaves of a row, writing many leaves of it. -/
theorem column_foldl_rewrite {β : Type} {column : VulnerabilityRow → β}
    (h : ∀ vulnId v r, column (overwrite vulnId v r) = column r) (ds : List Draft)
    (r : VulnerabilityRow) : column (ds.foldl rewrite r) = column r := by
  induction ds generalizing r with
  | nil => rfl
  | cons d ds ih =>
      rw [List.foldl_cons, ih, rewrite]
      split
      · exact h ..
      · rfl

section Synchronized

variable {d : Draft} {vulnId : String} {row : Nat} {kept : List (Nat × Predicate)}

theorem Synchronized.rowOf? (h : Synchronized s d vulnId row kept t)
    (hid : storableId? d.record = some vulnId) (htu : t.Extends u) (hu : u.WellFormed) :
    u.rowOf? d = some row := by
  obtain ⟨r, hr, hrid⟩ := htu.vulnerabilityRow? h.wellFormed hu h.vulnerabilityRow?
  unfold Store.rowOf?
  rw [hid, Option.bind_some, hr, Option.map_some, hrid]
  rfl

/-- The rows of the predicates that were kept are those that any later store has. -/
theorem Synchronized.predicateIdsOf (h : Synchronized s d vulnId row kept t) (htu : t.Extends u)
    (hu : u.WellFormed) : u.predicateIdsOf d = kept.map (·.1) := by
  unfold Store.predicateIdsOf
  rw [← h.keeps.identities, List.filterMap_map, ← List.filterMap_eq_map]
  apply List.filterMap_congr
  intro e he
  obtain ⟨r, hr, hrid, hident⟩ := h.keeps.row e he
  have hrow := (predicateRow?_eq_some_iff hu).mpr ⟨htu.predicates hr, hident⟩
  simp [hrow, hrid]

end Synchronized

theorem rowOf?_eq_none {d : Draft} (hid : storableId? d.record = none) : u.rowOf? d = none := by
  simp [rowOf?, hid]

/-- A list of links that each written draft replaces a block of is the fold over these blocks. -/
theorem Written.eq_foldl_relink {α : Type} {owner : α → Nat} {links : Store → List α}
    {block? : Draft → Option (Nat × List α)} {ds : List Draft} (h : Written component s ds t)
    (htu : t.Extends u) (hskip : ∀ d, storableId? d.record = none → block? d = none)
    (hattached : ∀ {row : Nat} {v w : Store}, Attached v component row w → links w = links v)
    (hwrite : ∀ {d : Draft} {vulnId : String} {row : Nat} {kept : List (Nat × Predicate)}
      {v w : Store}, storableId? d.record = some vulnId → Synchronized v d vulnId row kept w →
      w.Extends u → ∃ b, block? d = some b ∧ links w = relink owner (links v) b) :
    links t = (ds.filterMap block?).foldl (relink owner) (links s) := by
  induction h with
  | nil => rfl
  | skip hw hid ih =>
      rw [List.filterMap_append, List.filterMap_cons_none (hskip _ hid)]
      simpa using ih htu
  | write hw hid hsync hatt ih =>
      have hvu := hatt.extends.trans htu
      obtain ⟨b, hb, hlinks⟩ := hwrite hid hsync hvu
      rw [List.filterMap_append, List.foldl_append, ← ih (hsync.extends.trans hvu),
        List.filterMap_cons_some hb, hattached hatt]
      exact hlinks

theorem Written.weaknessLinks {ds : List Draft} (h : Written component s ds t)
    (htu : t.Extends u) (hu : u.WellFormed) :
    t.weaknessLinks = (ds.filterMap u.weaknessBlock?).foldl (relink (·.vulnerability))
      s.weaknessLinks := by
  apply h.eq_foldl_relink htu
  · intro d hid
    rw [weaknessBlock?, rowOf?_eq_none hid, Option.map_none]
  · intro row v w hatt
    rw [hatt.eq]
  · intro d vulnId row kept v w hid hsync hwu
    have hblock : u.weaknessBlock? d
        = some (row, weaknessBlock row (d.record.weaknesses.map (·.id)).eraseDups) := by
      rw [weaknessBlock?, hsync.rowOf? hid hwu hu, Option.map_some]
    exact ⟨_, hblock, hsync.weaknessLinks⟩

theorem Written.predicateLinks {ds : List Draft} (h : Written component s ds t)
    (htu : t.Extends u) (hu : u.WellFormed) :
    t.predicateLinks = (ds.filterMap u.predicateBlock?).foldl (relink (·.vulnerability))
      s.predicateLinks := by
  apply h.eq_foldl_relink htu
  · intro d hid
    rw [predicateBlock?, rowOf?_eq_none hid, Option.map_none]
  · intro row v w hatt
    rw [hatt.eq]
  · intro d vulnId row kept v w hid hsync hwu
    have hblock : u.predicateBlock? d = some (row, predicateBlock row 0 (kept.map (·.1))) := by
      rw [predicateBlock?, hsync.rowOf? hid hwu hu, hsync.predicateIdsOf hwu hu, Option.map_some]
    exact ⟨_, hblock, hsync.predicateLinks⟩

/-- A row that the drafts left behind is as they would leave it. -/
theorem Written.foldl_rewrite {ds : List Draft} (h : Written component s ds t)
    {r : VulnerabilityRow} (hr : r ∈ t.vulnerabilities) : ds.foldl rewrite r = r := by
  induction h with
  | nil => rfl
  | @skip ds d t hw hid ih =>
      rw [List.foldl_append, ih hr]
      exact rewrite_of_storableId?_eq_none hid r
  | @write ds d vulnId row kept t v w hw hid hsync hatt ih =>
      rw [hatt.eq] at hr
      rw [List.foldl_append]
      show rewrite (ds.foldl rewrite r) d = r
      rw [rewrite_of_storableId? hid]
      have hsameId := column_foldl_rewrite overwrite_id ds r
      have hsameKey := column_foldl_rewrite overwrite_key ds r
      -- only the last draft of a key counts for its row
      by_cases hkey : r.key = (d.record.source, vulnId)
      · rw [overwrite_of_key (hsameKey.trans hkey), hsameId]
        rcases hsync.vulnerabilities.of_mem hr with rfl | ⟨r', hr', rfl⟩
        · rfl
        · rw [overwrite_key] at hkey
          rw [overwrite_id, overwrite_of_key hkey]
      · rw [overwrite_of_key_ne (hsameKey.symm ▸ hkey)]
        rcases hsync.vulnerabilities.of_mem hr with rfl | ⟨r', hr', rfl⟩
        · exact absurd rfl hkey
        · rw [overwrite_key] at hkey
          rw [overwrite_of_key_ne hkey] at ih ⊢
          exact ih hr'

/-! ## Drafts that add nothing -/

/-- The store has all that writing a draft for the component would add. -/
structure Has (s : Store) (component : String) (d : Draft) (vulnId : String) : Prop where
  software : ∀ p ∈ d.software, p.identity ∈ s.identities
  row : ∃ r ∈ s.vulnerabilities, r.key = (d.record.source, vulnId) ∧
    (component ∈ s.componentIds →
      ∃ a ∈ s.attributions, a.component = component ∧ a.vulnerability = r.id)

theorem Has.mono {d : Draft} {vulnId : String} (h : s.Has component d vulnId) (hst : s.Extends t)
    (hcomponents : t.components = s.components) : t.Has component d vulnId where
  software := fun p hp => List.map_subset _ hst.predicates (h.software p hp)
  row := by
    obtain ⟨r, hr, hkey, hattributed⟩ := h.row
    obtain ⟨r', hr', hid, hkey'⟩ := hst.vulnerabilities r hr
    refine ⟨r', hr', hkey'.trans hkey, ?_⟩
    intro hcomponent
    unfold componentIds at hcomponent
    rw [hcomponents] at hcomponent
    obtain ⟨a, ha, hac, har⟩ := hattributed hcomponent
    exact ⟨a, hst.attributions ha, hac, har.trans hid.symm⟩

/-- A known component has what was attached to it. -/
theorem Attached.exists_attribution {row : Nat} (h : Attached s component row t)
    (hcomponent : component ∈ t.componentIds) :
    ∃ a ∈ t.attributions, a.component = component ∧ a.vulnerability = row := by
  cases h with
  | unknown hno => exact absurd hcomponent hno
  | kept ha hac har => exact ⟨_, ha, hac, har⟩
  | added _ hac har _ =>
      exact ⟨_, List.mem_append_right _ (List.mem_singleton_self _), hac, har⟩

/-- What was written is there. -/
theorem Written.has {ds : List Draft} (h : Written component s ds t) {d : Draft} (hd : d ∈ ds)
    {vulnId : String} (hid : storableId? d.record = some vulnId) : t.Has component d vulnId := by
  induction h with
  | nil => cases hd
  | @skip ds d' t hw hid' ih =>
      rcases List.mem_append.mp hd with hold | hlast
      · exact ih hold
      · rw [List.mem_singleton.mp hlast, hid'] at hid
        cases hid
  | @write ds d' vulnId' row kept t v w hw hid' hsync hatt ih =>
      rcases List.mem_append.mp hd with hold | hlast
      · refine (ih hold).mono (hsync.extends.trans hatt.extends) ?_
        rw [hatt.eq]
        exact hsync.components
      · obtain rfl := List.mem_singleton.mp hlast
        obtain rfl := Option.some.inj (hid.symm.trans hid')
        have hattributed := hatt.exists_attribution
        rw [hatt.eq] at hattributed ⊢
        exact ⟨hsync.predicates.known, _, hsync.vulnerabilities.mem, rfl, hattributed⟩

/-- Entering predicates whose keys are known adds no row. -/
theorem Entered.eq_of_known {old new : List PredicateRow} {ps : List Predicate}
    (h : Entered old ps new) (hknown : ∀ p ∈ ps, p.identity ∈ old.map (·.identity)) :
    new = old := by
  obtain ⟨more, rfl, hmore⟩ := h.fresh
  suffices more = [] by rw [this, List.append_nil]
  rw [List.eq_nil_iff_forall_not_mem]
  intro r hr
  obtain ⟨hnew, p, hfind, -⟩ := hmore r hr
  have hkey : p.identity = r.identity := by simpa using List.find?_some hfind
  exact hnew (hkey ▸ hknown p (List.mem_of_find?_eq_some hfind))

/-- Drafts of which everything is there change nothing but columns and links. -/
theorem Written.of_has {ds : List Draft} (h : Written component s ds t) (hs : s.WellFormed)
    (hhas : ∀ d ∈ ds, ∀ vulnId, storableId? d.record = some vulnId → s.Has component d vulnId) :
    t.predicates = s.predicates ∧ t.attributions = s.attributions ∧
      t.vulnerabilities = s.vulnerabilities.map (fun r => ds.foldl rewrite r) := by
  induction h with
  | nil => simp
  | @skip ds d t hw hid ih =>
      obtain ⟨hpredicates, hattributions, hvulnerabilities⟩ :=
        ih (fun d' hd' => hhas d' (List.mem_append_left _ hd'))
      refine ⟨hpredicates, hattributions, hvulnerabilities.trans (List.map_congr_left ?_)⟩
      intro r _
      rw [List.foldl_append]
      exact (rewrite_of_storableId?_eq_none hid _).symm
  | @write ds d vulnId row kept t v w hw hid hsync hatt ih =>
      obtain ⟨hpredicates, hattributions, hvulnerabilities⟩ :=
        ih (fun d' hd' => hhas d' (List.mem_append_left _ hd'))
      have ht := hw.wellFormed hs
      have hd : t.Has component d vulnId :=
        (hhas d (List.mem_append_right _ (List.mem_singleton_self _)) vulnId hid).mono
          hw.extends hw.components
      obtain ⟨r, hr, hkey, hattributed⟩ := hd.row
      refine ⟨?_, ?_, ?_⟩
      · rw [hatt.eq]
        exact (hsync.predicates.eq_of_known hd.software).trans hpredicates
      · cases hatt with
        | unknown _ => exact hsync.attributions.trans hattributions
        | kept _ _ _ => exact hsync.attributions.trans hattributions
        | added hcomponent _ _ hnew =>
            unfold componentIds at hcomponent
            rw [hsync.components] at hcomponent
            -- the store has this attribution, so it cannot be new
            obtain ⟨a, ha, hac, har⟩ := hattributed hcomponent
            exact absurd (har.trans (hsync.row_eq hr hkey))
              (hnew a (hsync.attributions.symm ▸ ha) hac)
      · rw [hatt.eq]
        show v.vulnerabilities = _
        rw [hsync.vulnerabilities.eq_map hr hkey, hvulnerabilities, List.map_map]
        apply List.map_congr_left
        intro r _
        rw [List.foldl_append]
        exact (rewrite_of_storableId? hid _).symm

/-! ## The second time -/

/-- Two drafts have the same record and the same keys. -/
structure Alike (d d' : Draft) : Prop where
  record : d.record = d'.record
  identities : d.software.map (·.identity) = d'.software.map (·.identity)

theorem filterMap_alike {β : Type} {f : Draft → Option β}
    (hf : ∀ d d', Alike d d' → f d = f d') {ds ds' : List Draft}
    (h : List.Forall₂ Alike ds ds') : ds.filterMap f = ds'.filterMap f := by
  induction h with
  | nil => rfl
  | cons hd _ ih => rw [List.filterMap_cons, List.filterMap_cons, hf _ _ hd, ih]

theorem foldl_alike {β : Type} {f : β → Draft → β} (hf : ∀ b d d', Alike d d' → f b d = f b d')
    {ds ds' : List Draft} (h : List.Forall₂ Alike ds ds') (b : β) :
    ds.foldl f b = ds'.foldl f b := by
  induction h generalizing b with
  | nil => rfl
  | cons hd _ ih => rw [List.foldl_cons, List.foldl_cons, hf b _ _ hd, ih]

theorem exists_alike {ds ds' : List Draft} (h : List.Forall₂ Alike ds ds') {d' : Draft}
    (hd : d' ∈ ds') : ∃ d ∈ ds, Alike d d' := by
  induction h with
  | nil => cases hd
  | @cons a b _ _ hab _ ih =>
      rcases List.mem_cons.mp hd with rfl | hrest
      · exact ⟨a, List.mem_cons_self .., hab⟩
      · obtain ⟨d, hd, hdd'⟩ := ih hrest
        exact ⟨d, List.mem_cons_of_mem _ hd, hdd'⟩

theorem Alike.rowOf? {d d' : Draft} (h : Alike d d') (u : Store) : u.rowOf? d = u.rowOf? d' := by
  unfold Store.rowOf?
  rw [h.record]

theorem Alike.weaknessBlock? {d d' : Draft} (h : Alike d d') (u : Store) :
    u.weaknessBlock? d = u.weaknessBlock? d' := by
  unfold Store.weaknessBlock?
  rw [h.rowOf?, h.record]

theorem Alike.predicateBlock? {d d' : Draft} (h : Alike d d') (u : Store) :
    u.predicateBlock? d = u.predicateBlock? d' := by
  unfold Store.predicateBlock? predicateIdsOf Predicate.distinctKeys
  rw [h.rowOf?, h.identities]

theorem Alike.rewrite {d d' : Draft} (h : Alike d d') (r : VulnerabilityRow) :
    rewrite r d = rewrite r d' := by
  unfold Store.rewrite
  rw [h.record]

theorem Alike.event? {d d' : Draft} (h : Alike d d') : d.event? = d'.event? := by
  unfold Draft.event?
  rw [h.record]

/-- The drafts of a batch have the same records and keys while the weaknesses are the same. -/
theorem drafts_alike (hs : s.WellFormed) (ht : t.WellFormed) (h : t.weaknesses = s.weaknesses)
    (source : Source) (package : Coordinate) (b : AdvisoryBatch) :
    List.Forall₂ Alike (s.drafts source package b) (t.drafts source package b) := by
  unfold drafts
  rw [List.forall₂_map_left_iff, List.forall₂_map_right_iff, List.forall₂_same]
  intro a _
  constructor
  · unfold draft
    rw [resolve?_eq h]
  · show List.map _ (List.map _ _) = List.map _ (List.map _ _)
    rw [List.map_map, List.map_map]
    apply List.map_congr_left
    intro p _
    exact (identity_settle hs p).trans (identity_settle ht p).symm

/-- Writing alike drafts again leaves the tables as they were. -/
theorem Written.again {ds ds' : List Draft} (hs : s.WellFormed) (ht : Written component s ds t)
    (hu : Written component t ds' u) (hds : List.Forall₂ Alike ds ds') :
    u = { t with
      lastVulnerability := u.lastVulnerability, lastPredicate := u.lastPredicate } := by
  have htwf := ht.wellFormed hs
  have huwf := hu.wellFormed htwf
  have hhas : ∀ d' ∈ ds', ∀ vulnId, storableId? d'.record = some vulnId →
      t.Has component d' vulnId := by
    intro d' hd' vulnId hid
    obtain ⟨d, hd, hdd'⟩ := exists_alike hds hd'
    have hd := ht.has hd (hdd'.record ▸ hid)
    refine ⟨?_, hdd'.record ▸ hd.row⟩
    intro p hp
    have hmem : p.identity ∈ d.software.map (·.identity) :=
      hdd'.identities ▸ List.mem_map_of_mem hp
    obtain ⟨q, hq, hkey⟩ := List.mem_map.mp hmem
    exact hkey ▸ hd.software q hq
  obtain ⟨hpredicates, hattributions, hvulnerabilities⟩ := hu.of_has htwf hhas
  -- columns and links are folds over the drafts, and folding the same twice is folding it once
  have hrows : u.vulnerabilities = t.vulnerabilities := by
    rw [hvulnerabilities]
    refine (List.map_congr_left ?_).trans (List.map_id _)
    intro r hr
    rw [← foldl_alike (fun b d d' hd => hd.rewrite b) hds]
    exact ht.foldl_rewrite hr
  have hweaknessLinks : u.weaknessLinks = t.weaknessLinks := by
    rw [hu.weaknessLinks (.refl u) huwf, ht.weaknessLinks hu.extends huwf,
      ← filterMap_alike (fun d d' hd => hd.weaknessBlock? u) hds]
    exact foldl_relink_foldl_relink (owner_weaknessBlock? ds) _
  have hpredicateLinks : u.predicateLinks = t.predicateLinks := by
    rw [hu.predicateLinks (.refl u) huwf, ht.predicateLinks hu.extends huwf,
      ← filterMap_alike (fun d d' hd => hd.predicateBlock? u) hds]
    exact foldl_relink_foldl_relink (owner_predicateBlock? ds) _
  have hcomponents := hu.components
  have hweaknesses := hu.weaknesses
  cases u
  cases t
  simp only [Store.mk.injEq]
  exact ⟨hcomponents, hweaknesses, hrows, hweaknessLinks, hpredicates, hpredicateLinks,
    hattributions, trivial, trivial⟩

end Store

/-- **Ingestion is idempotent.** A batch that is written a second time leaves every row of every
table as the first time left it, whatever the clock says, and tells and counts the same. Only
row numbers may have been used up. -/
theorem Ledger.writeBatch_again (ops : List Operation) (clock clock' : Nat → Instant)
    (readings readings' : Nat) (source : Source) (package : Coordinate) (component : String)
    (b : AdvisoryBatch) (p p' : Progress) :
    let first := (session clock).writeBatch source package component b p
      ⟨Store.empty.after ops, readings⟩
    let second := (session clock').writeBatch source package component b p'
      ⟨first.2.2.store, readings'⟩
    first.1 = .ok () ∧ second.1 = .ok () ∧
    (∃ lastVulnerability lastPredicate, second.2.2.store = { first.2.2.store with
      lastVulnerability := lastVulnerability, lastPredicate := lastPredicate }) ∧
    ∃ told, first.2.1 = ⟨p.events ++ told, p.synchronized + told.length⟩ ∧
      second.2.1 = ⟨p'.events ++ told, p'.synchronized + told.length⟩ := by
  have hs : (Store.empty.after ops).WellFormed := Store.wellFormed_empty.after ops
  obtain ⟨l, heq, hl⟩ := writeBatch_spec clock component
    (l := ⟨Store.empty.after ops, readings⟩) hs source package b p
  have hlwf := hl.wellFormed hs
  obtain ⟨l', heq', hl'⟩ := writeBatch_spec clock' component
    (l := ⟨l.store, readings'⟩) hlwf source package b p'
  have halike := Store.drafts_alike hs hlwf hl.weaknesses source package b
  intro first second
  have hfirst : first = _ := heq
  have hsecond : second = (.ok (), p'.tell (l.store.drafts source package b), l') := by
    show (session clock').writeBatch source package component b p' ⟨first.2.2.store, readings'⟩ = _
    rw [hfirst]
    exact heq'
  rw [hfirst, hsecond]
  refine ⟨rfl, rfl, ⟨_, _, hl.again hs hl' halike⟩, _, rfl, ?_⟩
  rw [Store.filterMap_alike (fun d d' hd => hd.event?) halike]
  rfl

end AdvisoryLedger
