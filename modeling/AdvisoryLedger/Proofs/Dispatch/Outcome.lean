import AdvisoryLedger.Proofs.Dispatch.Batch
import AdvisoryLedger.Proofs.Store.Weaknesses

/-!
# What writing comes to, apart from row numbers

Row numbers depend on the order in which things are written, and so does which draft a
predicate was stored with. `Reached s₀ ds as s` says what the store `s` owes to the store
`s₀`, to the drafts `ds` that were written since and to those among them, `as`, that were
attached, each for a component. The drafts are taken without row numbers. A draft is
attached some time after it was written, and others may come between.

Two stores that were reached from one store by the same drafts in two orders agree in all
that can be read, provided that both orders have the drafts of each key in the same order.
For the predicates this needs more: one key must never stand for two different predicates.
`Settled` says so, and then it does not matter who stored a predicate first.
-/

namespace AdvisoryLedger

/-- A record as it is apart from rows. -/
def Vulnerability.withoutRows (v : Vulnerability) : Vulnerability :=
  { v with row := none, software := v.software.map Predicate.withoutRow }

/-- A draft as it is apart from rows. -/
def Draft.withoutRows (d : Draft) : Draft :=
  { d with software := d.software.map Predicate.withoutRow }

/-- The key under which a draft is stored, if it can be. -/
def Draft.key? (d : Draft) : Option (Source × String) :=
  (Store.storableId? d.record).map fun vulnId => (d.record.source, vulnId)

namespace Store

variable {s s₀ t u : Store} {component : String}

/-! ## Attributions by key -/

/-- The component has the vulnerability with the key. -/
def Attributes (s : Store) (component : String) (key : Source × String) : Prop :=
  ∃ a ∈ s.attributions, a.component = component ∧
    ∃ r ∈ s.vulnerabilities, r.id = a.vulnerability ∧ r.key = key

/-- Changing rows of vulnerabilities without their keys changes no attribution. -/
theorem Extends.attributes_iff (h : s.Extends t) (hs : s.WellFormed) (ht : t.WellFormed)
    (hattributions : t.attributions = s.attributions) (c : String) (key : Source × String) :
    t.Attributes c key ↔ s.Attributes c key := by
  constructor
  · rintro ⟨a, ha, hac, r, hr, hid, hkey⟩
    rw [hattributions] at ha
    -- the row that was meant at first has the same key now
    obtain ⟨r₁, hr₁, hid₁⟩ := List.mem_map.mp (hs.attribution_vulnerability a ha)
    obtain ⟨r₂, hr₂, hid₂, hkey₂⟩ := h.vulnerabilities r₁ hr₁
    have hsame : r₂ = r := List.inj_on_of_nodup_map ht.vulnerabilityIds hr₂ hr
      (hid₂.trans (hid₁.trans hid.symm))
    exact ⟨a, ha, hac, r₁, hr₁, hid₁, by rw [← hkey₂, hsame, hkey]⟩
  · rintro ⟨a, ha, hac, r, hr, hid, hkey⟩
    obtain ⟨r', hr', hid', hkey'⟩ := h.vulnerabilities r hr
    exact ⟨a, hattributions ▸ ha, hac, r', hr', hid'.trans hid, hkey'.trans hkey⟩

/-- A vulnerability that is attached to a known component is attributed to it. -/
theorem Attached.attributes_iff (hs : s.WellFormed) {r : VulnerabilityRow}
    (h : Attached s component r.id t) (hr : r ∈ s.vulnerabilities) (c : String)
    (key : Source × String) :
    t.Attributes c key ↔
      s.Attributes c key ∨ (c ∈ s.componentIds ∧ c = component ∧ key = r.key) := by
  cases h with
  | unknown hno =>
      constructor
      · exact .inl
      · rintro (hold | ⟨hc, rfl, -⟩)
        · exact hold
        · exact absurd hc hno
  | kept ha hac har =>
      constructor
      · exact .inl
      · rintro (hold | ⟨-, rfl, rfl⟩)
        · exact hold
        · exact ⟨_, ha, hac, r, hr, har.symm, rfl⟩
  | added hcomponent hac har _ =>
      constructor
      · rintro ⟨a, ha, hac', r', hr', hid, hkey⟩
        rcases List.mem_append.mp ha with hold | hlast
        · exact .inl ⟨a, hold, hac', r', hr', hid, hkey⟩
        · obtain rfl := List.mem_singleton.mp hlast
          have hsame : r' = r := List.inj_on_of_nodup_map hs.vulnerabilityIds hr' hr
            (hid.trans har)
          exact .inr ⟨hac' ▸ hac ▸ hcomponent, hac'.symm.trans hac, by rw [← hkey, hsame]⟩
      · rintro (⟨a, ha, hac', hrow⟩ | ⟨-, rfl, rfl⟩)
        · exact ⟨a, List.mem_append_left _ ha, hac', hrow⟩
        · exact ⟨_, List.mem_append_right _ (List.mem_singleton_self _), hac, r, hr, har.symm, rfl⟩

/-! ## What a store owes to the drafts -/

/-- The drafts that can be stored, among some that are written for components. -/
def stored (ds : List (String × Draft)) : List Draft :=
  (ds.map (·.2)).filter (·.key?.isSome)

/-- The store `s` is what the drafts `ds` make of the store `s₀` when those in `as` have been
attached. -/
structure Reached (s₀ : Store) (ds as : List (String × Draft)) (s : Store) : Prop where
  wellFormed : s.WellFormed
  components : s.components = s₀.components
  weaknesses : s.weaknesses = s₀.weaknesses
  recalls : ∃ ws, Recalls s₀ ws s ∧ ws.map (·.draft.withoutRows) = stored ds
  attributes : ∀ c key, s.Attributes c key ↔
    s₀.Attributes c key ∨ (c ∈ s₀.componentIds ∧ ∃ e ∈ as, e.1 = c ∧ e.2.key? = some key)

variable {ds as : List (String × Draft)} {d : Draft} {vulnId : String}

theorem Reached.refl (h : s.WellFormed) : Reached s [] [] s where
  wellFormed := h
  components := rfl
  weaknesses := rfl
  recalls := ⟨[], .refl s, rfl⟩
  attributes := fun _ _ => by simp

theorem stored_concat (ds : List (String × Draft)) (e : String × Draft) :
    stored (ds ++ [e]) = stored ds ++ if e.2.key?.isSome then [e.2] else [] := by
  unfold stored
  rw [List.map_append, List.filter_append, List.map_singleton, List.filter_singleton]
  cases e.2.key?.isSome <;> rfl

theorem key?_eq_some (hid : storableId? d.record = some vulnId) :
    d.withoutRows.key? = some (d.record.source, vulnId) := by
  show d.key? = _
  rw [Draft.key?, hid]
  rfl

theorem key?_eq_none (hid : storableId? d.record = none) : d.withoutRows.key? = none := by
  show d.key? = _
  rw [Draft.key?, hid]
  rfl

/-- One more attached draft is one more attribution. -/
theorem exists_mem_concat {as : List (String × Draft)} {e : String × Draft} {c : String}
    {key : Source × String} :
    (∃ x ∈ as ++ [e], x.1 = c ∧ x.2.key? = some key) ↔
      (∃ x ∈ as, x.1 = c ∧ x.2.key? = some key) ∨ e.1 = c ∧ e.2.key? = some key := by
  simp only [List.mem_append, List.mem_singleton, or_and_right, exists_or, exists_eq_left]

/-- A draft that is passed over leaves the store as it is. -/
theorem Reached.skip (h : Reached s₀ ds as s) (hid : storableId? d.record = none) :
    Reached s₀ (ds ++ [(component, d.withoutRows)]) (as ++ [(component, d.withoutRows)]) s := by
  refine { h with recalls := ?_, attributes := ?_ }
  · obtain ⟨ws, hrecalls, hws⟩ := h.recalls
    refine ⟨ws, hrecalls, ?_⟩
    rw [stored_concat, key?_eq_none hid, hws]
    exact (List.append_nil _).symm
  · intro c key
    rw [h.attributes, exists_mem_concat, key?_eq_none hid]
    simp

/-- A draft that is written is one more. -/
theorem Reached.synchronize {row : Nat} {kept : List (Nat × Predicate)}
    (h : Reached s₀ ds as s) (hid : storableId? d.record = some vulnId)
    (hsync : Synchronized s d vulnId row kept t) :
    Reached s₀ (ds ++ [(component, d.withoutRows)]) as t where
  wellFormed := hsync.wellFormed
  components := hsync.components.trans h.components
  weaknesses := hsync.weaknesses.trans h.weaknesses
  recalls := by
    obtain ⟨ws, hrecalls, hws⟩ := h.recalls
    refine ⟨ws ++ [⟨d, answer d row kept⟩],
      hrecalls.synchronize h.wellFormed (storableId?_eq_some_iff.mp hid).1 hsync, ?_⟩
    rw [stored_concat, key?_eq_some hid, List.map_append, hws]
    rfl
  attributes := by
    intro c key
    rw [hsync.extends.attributes_iff h.wellFormed hsync.wellFormed hsync.attributions,
      h.attributes]

/-- A draft that is attached is one more that is. -/
theorem Reached.attach {r : VulnerabilityRow} {e : String × Draft} (h : Reached s₀ ds as s)
    (hr : r ∈ s.vulnerabilities) (hkey : e.2.key? = some r.key) (hatt : Attached s e.1 r.id t) :
    Reached s₀ ds (as ++ [e]) t where
  wellFormed := hatt.wellFormed h.wellFormed (List.mem_map_of_mem hr)
  components := by
    rw [hatt.eq]
    exact h.components
  weaknesses := by
    rw [hatt.eq]
    exact h.weaknesses
  recalls := by
    obtain ⟨ws, hrecalls, hws⟩ := h.recalls
    refine ⟨ws, ?_, hws⟩
    rw [hatt.eq]
    exact hrecalls.frame s.components s.weaknesses t.attributions
  attributes := by
    intro c key
    have hids : s.componentIds = s₀.componentIds := by
      unfold componentIds
      rw [h.components]
    rw [hatt.attributes_iff h.wellFormed hr, h.attributes, exists_mem_concat, hkey, hids, or_assoc,
      ← and_or_left, Option.some.injEq, eq_comm (a := e.1), eq_comm (a := r.key)]

/-! ## Predicates that have one key have one meaning -/

theorem mem_stored {ds : List (String × Draft)} {d : Draft} (h : d ∈ stored ds) :
    ∃ e ∈ ds, e.2 = d :=
  List.mem_map.mp (List.mem_of_mem_filter h)

theorem exists_key?_of_mem_stored {ds : List (String × Draft)} {d : Draft} (h : d ∈ stored ds) :
    ∃ key, d.key? = some key :=
  Option.isSome_iff_exists.mp (List.mem_filter.mp h).2

/-- The predicates of the drafts are candidates as the store `s₀` settles them, and no two
candidates have the same key. -/
structure Settled (s₀ : Store) (candidate : Predicate → Prop) (ds : List (String × Draft)) :
    Prop where
  inj : ∀ p q, candidate p → candidate q → p.identity = q.identity → p = q
  origin : ∀ e ∈ ds, ∀ q ∈ e.2.software, ∃ p, candidate p ∧ q = (s₀.settle p).withoutRow

variable {candidate candidate' : Predicate → Prop} {ds' as' : List (String × Draft)}

theorem Settled.of_perm (h : Settled s₀ candidate ds) (hperm : ds.Perm ds') :
    Settled s₀ candidate ds' where
  inj := h.inj
  origin := fun e he => h.origin e (hperm.mem_iff.mpr he)

/-- A predicate of the drafts is the candidate with its key. -/
theorem Settled.eq_settle (h : Settled s₀ candidate ds) (hs₀ : s₀.WellFormed) {p q : Predicate}
    (hq : q ∈ (stored ds).flatMap (·.software)) (hp : candidate p)
    (hkey : q.identity = p.identity) :
    q = (s₀.settle p).withoutRow := by
  obtain ⟨d, hd, hq⟩ := List.mem_flatMap.mp hq
  obtain ⟨e, he, rfl⟩ := mem_stored hd
  obtain ⟨p', hp', rfl⟩ := h.origin e he q hq
  have hsame : p' = p := by
    apply h.inj p' p hp' hp
    rw [← identity_settle hs₀ p', ← hkey]
    rfl
  rw [hsame]

/-- The store has under a key what it had at first, or what the drafts have there. -/
theorem Reached.predicateRow? (h : Reached s₀ ds as s) (key : String) :
    (s.predicateRow? key).map (·.predicate.withoutRow) =
      ((s₀.predicateRow? key).map (·.predicate.withoutRow)).or
        (((stored ds).flatMap (·.software)).find? (·.identity == key)) := by
  obtain ⟨ws, hrecalls, hws⟩ := h.recalls
  have hsoftware : (stored ds).flatMap (·.software)
      = (ws.flatMap (·.draft.software)).map Predicate.withoutRow := by
    rw [← hws, List.flatMap_map, List.map_flatMap]
    rfl
  have hstored := congrArg (Option.map Predicate.withoutRow) (hrecalls.stored key)
  rw [Option.map_map, Option.map_or, Option.map_map, hrecalls.find?_withoutRow] at hstored
  rw [hsoftware, List.find?_map]
  exact hstored

/-- The predicates of a draft that has a key are among those of the drafts. -/
theorem mem_software_stored {key : Source × String} {d : Draft}
    (hd : d ∈ (ds.filter (·.2.key? == some key)).map (·.2)) {q : Predicate} (hq : q ∈ d.software) :
    q ∈ (stored ds).flatMap (·.software) := by
  obtain ⟨e, he, rfl⟩ := List.mem_map.mp hd
  obtain ⟨he, hkey⟩ := List.mem_filter.mp he
  have hkey : e.2.key? = some key := by simpa using hkey
  refine List.mem_flatMap.mpr ⟨e.2, List.mem_filter.mpr ⟨List.mem_map_of_mem he, ?_⟩, hq⟩
  rw [hkey]
  rfl

theorem settle_withoutRow (s : Store) (p : Predicate) :
    (s.settle p).withoutRow =
      ((s.predicateRow? p.identity).map (·.predicate.withoutRow)).getD p.withoutRow := by
  unfold settle find?
  cases s.predicateRow? p.identity <;> rfl

/-- A candidate is settled the same whatever was written before. -/
theorem Reached.settle (h : Reached s₀ ds as s) (hs₀ : s₀.WellFormed)
    (hds : Settled s₀ candidate ds) {p : Predicate} (hp : candidate p) :
    (s.settle p).withoutRow = (s₀.settle p).withoutRow := by
  rw [settle_withoutRow, h.predicateRow?, settle_withoutRow]
  cases hrow : s₀.predicateRow? p.identity with
  | some r => rfl
  | none =>
      cases hfind : ((stored ds).flatMap (·.software)).find? (·.identity == p.identity) with
      | none => rfl
      | some q =>
          have hkey : q.identity = p.identity := by simpa using List.find?_some hfind
          have hq := hds.eq_settle hs₀ (List.mem_of_find?_eq_some hfind) hp hkey
          rw [settle_withoutRow, hrow] at hq
          exact hq

/-- A predicate of a draft is found under its key as it was written. -/
theorem Reached.predicateRow?_of_mem (h : Reached s₀ ds as s) (hs₀ : s₀.WellFormed)
    (hds : Settled s₀ candidate ds) {q : Predicate} (hq : q ∈ (stored ds).flatMap (·.software)) :
    (s.predicateRow? q.identity).map (·.predicate.withoutRow) = some q := by
  obtain ⟨d, hd, hqd⟩ := List.mem_flatMap.mp hq
  obtain ⟨e, he, rfl⟩ := mem_stored hd
  obtain ⟨p, hp, hqp⟩ := hds.origin e he q hqd
  have hkey : q.identity = p.identity := by
    rw [hqp]
    exact identity_settle hs₀ p
  rw [h.predicateRow?, hkey]
  cases hrow : s₀.predicateRow? p.identity with
  | some r =>
      rw [settle_withoutRow, hrow] at hqp
      rw [hqp]
      rfl
  | none =>
      -- whatever stored the key first is what the candidate is settled to
      obtain ⟨q', hq'⟩ := Option.isSome_iff_exists.mp
        (List.find?_isSome (p := (·.identity == p.identity)) |>.mpr ⟨q, hq, by simp [hkey]⟩)
      have hkey' : q'.identity = p.identity := by simpa using List.find?_some hq'
      have hsame := hds.eq_settle hs₀ (List.mem_of_find?_eq_some hq') hp hkey'
      rw [hq', hsame, ← hqp]
      rfl

/-! ## Two orders -/

/-- The first of several equal things is the same in every order. -/
theorem find?_eq_of_perm {α : Type} {q : α → Bool} {xs ys : List α} (h : xs.Perm ys)
    (hone : ∀ x ∈ xs, ∀ y ∈ xs, q x = true → q y = true → x = y) : xs.find? q = ys.find? q := by
  cases hx : xs.find? q with
  | none =>
      rw [List.find?_eq_none] at hx
      symm
      rw [List.find?_eq_none]
      exact fun y hy => hx y (h.mem_iff.mpr hy)
  | some x =>
      have hxs := List.mem_of_find?_eq_some hx
      obtain ⟨y, hy⟩ := Option.isSome_iff_exists.mp
        (List.find?_isSome (p := q) |>.mpr ⟨x, h.mem_iff.mp hxs, List.find?_some hx⟩)
      have hys := h.mem_iff.mpr (List.mem_of_find?_eq_some hy)
      rw [hy, hone x hxs y hys (List.find?_some hx) (List.find?_some hy)]

/-- Stores that were reached by the same drafts have the same predicates. -/
theorem Reached.predicateRow?_eq_of_perm (h : Reached s₀ ds as s) (h' : Reached s₀ ds' as' t)
    (hs₀ : s₀.WellFormed) (hds : Settled s₀ candidate ds) (hperm : ds.Perm ds') (key : String) :
    (s.predicateRow? key).map (·.predicate.withoutRow)
      = (t.predicateRow? key).map (·.predicate.withoutRow) := by
  have hstored : ((stored ds).flatMap (·.software)).Perm ((stored ds').flatMap (·.software)) :=
    ((hperm.map _).filter _).flatMap_right _
  rw [h.predicateRow?, h'.predicateRow?, find?_eq_of_perm hstored]
  intro q hq q' hq' hqk hqk'
  obtain ⟨d, hd, hqd⟩ := List.mem_flatMap.mp hq
  obtain ⟨e, he, rfl⟩ := mem_stored hd
  obtain ⟨p, hp, rfl⟩ := hds.origin e he q hqd
  rw [beq_iff_eq] at hqk hqk'
  refine (hds.eq_settle hs₀ hq' hp ?_).symm
  rw [hqk', ← hqk]
  exact identity_settle hs₀ p

/-- What was written under a key, seen from the drafts. -/
theorem map_filter_isTo {ws : List Write} (hws : ws.map (·.draft.withoutRows) = stored ds)
    (source : Source) (vulnId : String) :
    (ws.filter (·.isTo source vulnId)).map (·.draft.withoutRows)
      = (ds.filter (·.2.key? == some (source, vulnId))).map (·.2) := by
  have hisTo : ∀ w ∈ ws, w.isTo source vulnId
      = (w.draft.withoutRows.key? == some (source, vulnId)) := by
    intro w hw
    have hmem : w.draft.withoutRows ∈ stored ds := hws ▸ List.mem_map_of_mem hw
    obtain ⟨k, hk⟩ := exists_key?_of_mem_stored hmem
    obtain ⟨id, hid, rfl⟩ := Option.map_eq_some_iff.mp hk
    have hvulnId := (storableId?_eq_some_iff.mp hid).1
    rw [hk, Bool.eq_iff_iff, isTo_iff, beq_iff_eq, Option.some.injEq, Prod.mk.injEq]
    show w.draft.record.source = source ∧ w.draft.record.vulnId = some vulnId ↔ _
    rw [show w.draft.record.vulnId = some id from hvulnId, Option.some.injEq]
  rw [List.filter_congr hisTo]
  have hmap : (ws.filter fun w => w.draft.withoutRows.key? == some (source, vulnId)).map
        (·.draft.withoutRows)
      = (ws.map (·.draft.withoutRows)).filter (·.key? == some (source, vulnId)) := by
    rw [List.filter_map]
    rfl
  rw [hmap, hws, stored, List.filter_filter, List.filter_map]
  congr 1
  apply List.filter_congr
  intro e _
  show (e.2.key? == some (source, vulnId) && e.2.key?.isSome) = (e.2.key? == some (source, vulnId))
  cases e.2.key? with
  | none => rfl
  | some k => rw [Option.isSome_some, Bool.and_true]

/-- The stores cannot be told apart by what is read from them, except by rows and times. -/
structure Agrees (s t : Store) : Prop where
  vulnerabilities : ∀ source vulnId, (s.get? source vulnId).map Vulnerability.withoutRows
    = (t.get? source vulnId).map Vulnerability.withoutRows
  attributes : ∀ component key, s.Attributes component key ↔ t.Attributes component key
  vulnerabilityCount : s.vulnerabilityCount = t.vulnerabilityCount
  predicateCount : s.predicateCount = t.predicateCount

/-- Under a key that no draft has, a reader finds what was there. -/
theorem Reached.get?_of_filter_eq_nil (h : Reached s₀ ds as s) {source : Source} {vulnId : String}
    (hnone : ds.filter (·.2.key? == some (source, vulnId)) = []) :
    s.get? source vulnId = s₀.get? source vulnId := by
  obtain ⟨ws, hrecalls, hws⟩ := h.recalls
  have hmine := map_filter_isTo hws source vulnId
  rw [hnone, List.map_nil, List.map_eq_nil_iff] at hmine
  obtain ⟨hrow, hlists⟩ := hrecalls.untouched source vulnId hmine
  unfold get?
  rw [hrow]
  cases hr : s₀.vulnerabilityRow? source vulnId with
  | none => rfl
  | some r =>
      obtain ⟨hweaknesses, hsoftware⟩ := hlists r hr
      rw [Option.map_some, Option.map_some, load, load, weaknessesOf_eq, weaknessesOf_eq,
        hweaknesses, hsoftware, weakness?_eq h.weaknesses]

/-- What a reader finds of a draft, given the predicates. -/
def shown (s : Store) (vulnId : String) (d : Draft) (software : List Predicate) : Vulnerability :=
  { s.load (vulnerabilityRow 0 vulnId d.record) with
    row := none
    weaknesses := ((d.record.weaknesses.map (·.id)).eraseDups.mergeSort
      fun a b => decide (a ≤ b)).filterMap s.weakness?
    software := software }

/-- Under any other key a reader finds the last draft of that key. -/
theorem Reached.get?_of_getLast? (h : Reached s₀ ds as s) {source : Source} {vulnId : String}
    {d : Draft}
    (hlast : ((ds.filter (·.2.key? == some (source, vulnId))).map (·.2)).getLast? = some d) :
    ∃ software,
      (s.get? source vulnId).map Vulnerability.withoutRows = some (s₀.shown vulnId d software) ∧
      software.map some = (Predicate.distinctKeys d.software).map fun key =>
        (s.predicateRow? key).map (·.predicate.withoutRow) := by
  obtain ⟨ws, hrecalls, hws⟩ := h.recalls
  rw [← map_filter_isTo hws, List.getLast?_map] at hlast
  obtain ⟨w, hw, rfl⟩ := Option.map_eq_some_iff.mp hlast
  obtain ⟨row, hshows, -⟩ := hrecalls.written source vulnId w hw
  have hto := isTo_iff.mp (List.of_mem_filter (List.mem_of_getLast? hw))
  refine ⟨(s.softwareOf row).map Predicate.withoutRow, ?_, ?_⟩
  · unfold get?
    rw [← hto.1, hshows.columns]
    show some (Vulnerability.withoutRows (s.load (vulnerabilityRow row vulnId w.draft.record))) = _
    have hweaknesses : s.weaknessesOf row =
        ((w.draft.record.weaknesses.map (·.id)).eraseDups.mergeSort
          fun a b => decide (a ≤ b)).filterMap s₀.weakness? := by
      rw [weaknessesOf_eq, hshows.weaknesses, weakness?_eq h.weaknesses]
    unfold Vulnerability.withoutRows load
    rw [show (vulnerabilityRow row vulnId w.draft.record).id = row from rfl, hweaknesses]
    rfl
  · have hsoftware := congrArg (List.map (Option.map Predicate.withoutRow))
      (hshows.softwareOf h.wellFormed)
    rw [List.map_map, List.map_map] at hsoftware
    have hkeys : Predicate.distinctKeys w.draft.withoutRows.software
        = Predicate.distinctKeys w.draft.software := by
      unfold Predicate.distinctKeys Draft.withoutRows
      rw [List.map_map]
      rfl
    rw [hkeys, List.map_map]
    refine hsoftware.trans (List.map_congr_left fun key _ => ?_)
    show Option.map _ (Option.map _ _) = _
    rw [Option.map_map]
    rfl

/-- A reader finds the same under a key where the same drafts have that key, whatever else was
written. -/
theorem Reached.get?_eq (h : Reached s₀ ds as s) (h' : Reached s₀ ds' as' t) (hs₀ : s₀.WellFormed)
    (hds : Settled s₀ candidate ds) (hds' : Settled s₀ candidate' ds') {source : Source}
    {vulnId : String}
    (hkey : ds.filter (·.2.key? == some (source, vulnId))
      = ds'.filter (·.2.key? == some (source, vulnId))) :
    (s.get? source vulnId).map Vulnerability.withoutRows
      = (t.get? source vulnId).map Vulnerability.withoutRows := by
  cases hmine : ((ds.filter (·.2.key? == some (source, vulnId))).map (·.2)).getLast? with
  | none =>
      rw [List.getLast?_eq_none_iff, List.map_eq_nil_iff] at hmine
      rw [h.get?_of_filter_eq_nil hmine, h'.get?_of_filter_eq_nil (hkey ▸ hmine)]
  | some d =>
      have hmine' := hmine
      rw [hkey] at hmine'
      obtain ⟨software, hs, hsoftware⟩ := h.get?_of_getLast? hmine
      obtain ⟨software', ht, hsoftware'⟩ := h'.get?_of_getLast? hmine'
      -- the draft is the same, and its predicates are found as they were written
      have hsame : software = software' := by
        apply (List.map_inj_right (fun _ _ => Option.some.inj)).mp
        rw [hsoftware, hsoftware']
        apply List.map_congr_left
        intro key hmem
        obtain ⟨q, hq, rfl⟩ := List.mem_map.mp (Predicate.mem_distinctKeys.mp hmem)
        rw [h.predicateRow?_of_mem hs₀ hds (mem_software_stored (List.mem_of_getLast? hmine) hq),
          h'.predicateRow?_of_mem hs₀ hds' (mem_software_stored (List.mem_of_getLast? hmine') hq)]
      rw [hs, ht, hsame]

/-- **Two orders of the same drafts come to the same**, as long as the drafts of each key are in
the same order. -/
theorem Reached.agrees (h : Reached s₀ ds as s) (h' : Reached s₀ ds' as' t) (hs₀ : s₀.WellFormed)
    (hds : Settled s₀ candidate ds) (hperm : ds.Perm ds') (hattached : as.Perm as')
    (hkeys : ∀ key, ds.filter (·.2.key? == some key) = ds'.filter (·.2.key? == some key)) :
    s.Agrees t := by
  have hpredicates := h.predicateRow?_eq_of_perm h' hs₀ hds hperm
  have hget (source : Source) (vulnId : String) :=
    h.get?_eq h' hs₀ hds (hds.of_perm hperm) (hkeys (source, vulnId))
  refine ⟨hget, ?_, ?_, ?_⟩
  · intro c key
    rw [h.attributes, h'.attributes]
    have hmem : (∃ e ∈ as, e.1 = c ∧ e.2.key? = some key) ↔
        ∃ e ∈ as', e.1 = c ∧ e.2.key? = some key := by
      simp only [hattached.mem_iff]
    rw [hmem]
  -- rows are counted by their keys, and what a reader finds says which keys there are
  · have hkeysMem (key : Source × String) :
        key ∈ s.vulnerabilityKeys ↔ key ∈ t.vulnerabilityKeys := by
      have hiff {u : Store} : key ∈ u.vulnerabilityKeys ↔
          (u.get? key.1 key.2).map Vulnerability.withoutRows ≠ none := by
        rw [ne_eq, Option.map_eq_none_iff, get?, Option.map_eq_none_iff,
          vulnerabilityRow?_eq_none_iff, not_not]
      rw [hiff, hiff, hget]
    have hlength := ((List.perm_ext_iff_of_nodup h.wellFormed.vulnerabilityKeys
      h'.wellFormed.vulnerabilityKeys).mpr hkeysMem).length_eq
    simpa [vulnerabilityKeys, vulnerabilityCount] using hlength
  · have hidentities (key : String) : key ∈ s.identities ↔ key ∈ t.identities := by
      have hiff {u : Store} : key ∈ u.identities ↔
          (u.predicateRow? key).map (·.predicate.withoutRow) ≠ none := by
        rw [ne_eq, Option.map_eq_none_iff, predicateRow?_eq_none_iff, not_not]
      rw [hiff, hiff, hpredicates]
    have hlength := ((List.perm_ext_iff_of_nodup h.wellFormed.identities
      h'.wellFormed.identities).mpr hidentities).length_eq
    simpa [identities, predicateCount] using hlength

end Store
end AdvisoryLedger
