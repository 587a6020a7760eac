import AdvisoryLedger.Proofs.Sorting
import AdvisoryLedger.Proofs.Store.LastWrite
import AdvisoryLedger.Proofs.Store.Refusals
import AdvisoryLedger.Proofs.Time.Order
import Mathlib.Data.List.Permutation
import Mathlib.Data.List.Sort
import Mathlib.Data.Prod.Lex
import Mathlib.Data.String.Basic

/-!
# The vulnerabilities of a component

A component has a vulnerability from the first time that it was attached, whatever happens
later: attaching it again keeps the time, and writing the vulnerability or registering the
component anew touches other columns.

`Attributed` is the invariant. The attributions are the pairs that were attached, each with the
time of the first time; `Attributed.perform` is one operation and `Attributed.after` a history.

What is listed is sorted by the text of that time (`exists_lists`, for any clock). That is by time
only as long as four digits write the years: the text of any other year begins with a sign, so it
comes before all of these (`FirstAttachments.otherYears_first`). `vulnerabilitiesOf_after` therefore
asks of the clock that it shows no such year when something is attached (`Operation.hasPlainClock`).
-/

namespace AdvisoryLedger

/-- By what the vulnerabilities of a component are sorted. -/
def Attribution.place (a : Attribution) : String ×ₗ Nat := toLex (a.attributedOn, a.vulnerability)

/-- Four digits write the year that the clock shows when the operation attaches something. -/
def Operation.hasPlainClock : Operation → Bool
  | .attach _ _ now => now.hasPlainYear
  | _ => true

namespace Store

variable {s t : Store} {made : List Attachment}

/-! ## What was attached is recorded -/

/-- The tables have what was attached, each with the time of the first time. -/
structure Attributed (made : List Attachment) (s : Store) : Prop where
  recorded : ∀ a ∈ s.attributions, ∃ m,
    firstAttachment? made a.component a.vulnerability = some m ∧ a.attributedOn = m.time.timestamp
  complete : ∀ m ∈ made, ∃ a ∈ s.attributions,
    a.component = m.component ∧ (a.vulnerability : Int) = m.row

theorem attributed_empty : Attributed [] empty where
  recorded _ h := by cases h
  complete _ h := by cases h

theorem firstAttachment?_append (made later : List Attachment) (component : String) (row : Int) :
    firstAttachment? (made ++ later) component row
      = (firstAttachment? made component row).or (firstAttachment? later component row) :=
  List.find?_append

theorem firstAttachment?_eq_none_iff {component : String} {row : Int} :
    firstAttachment? made component row = none ↔
      ∀ m ∈ made, m.component = component → m.row ≠ row := by
  simp [firstAttachment?]

theorem of_firstAttachment?_eq_some {component : String} {row : Int} {m : Attachment}
    (h : firstAttachment? made component row = some m) :
    m ∈ made ∧ m.component = component ∧ m.row = row :=
  ⟨List.mem_of_find?_eq_some h, by simpa using List.find?_some h⟩

theorem Attributed.withAttribution (h : Attributed made s) (component : String) (row : Nat)
    (analyzer : String) (now : Instant) :
    Attributed (made ++ [⟨component, row, now⟩])
      (s.withAttribution ⟨component, row, analyzer, now.timestamp⟩) := by
  have hkeep : ∀ a ∈ s.attributions, ∃ m,
      firstAttachment? (made ++ [⟨component, row, now⟩]) a.component a.vulnerability = some m ∧
        a.attributedOn = m.time.timestamp := by
    intro a ha
    obtain ⟨m, hm, htime⟩ := h.recorded a ha
    exact ⟨m, by rw [firstAttachment?_append, hm, Option.some_or], htime⟩
  unfold Store.withAttribution
  split
  · next hany =>
    obtain ⟨b, hb, heq⟩ := List.any_eq_true.mp hany
    rw [Bool.and_eq_true, beq_iff_eq, beq_iff_eq] at heq
    refine ⟨hkeep, fun m hm => ?_⟩
    rcases List.mem_append.mp hm with hm | hm
    · exact h.complete m hm
    · obtain rfl := List.mem_singleton.mp hm
      exact ⟨b, hb, heq.1, congrArg _ heq.2⟩
  · next hany =>
    -- nothing was attached that the tables do not have
    have hnone : firstAttachment? made component row = none := by
      rw [firstAttachment?_eq_none_iff]
      intro m hm hcomponent hrow
      obtain ⟨b, hb, hb', hbrow⟩ := h.complete m hm
      refine hany (List.any_eq_true.mpr ⟨b, hb, ?_⟩)
      simp [hb', hcomponent, Int.ofNat_inj.mp (hbrow.trans hrow)]
    constructor
    · intro a ha
      rcases List.mem_append.mp ha with ha | ha
      · exact hkeep a ha
      · obtain rfl := List.mem_singleton.mp ha
        refine ⟨⟨component, row, now⟩, ?_, rfl⟩
        rw [firstAttachment?_append, hnone, Option.none_or]
        simp [firstAttachment?]
    · intro m hm
      rcases List.mem_append.mp hm with hm | hm
      · obtain ⟨a, ha, heq⟩ := h.complete m hm
        exact ⟨a, List.mem_append_left _ ha, heq⟩
      · obtain rfl := List.mem_singleton.mp hm
        exact ⟨_, List.mem_append_right _ (List.mem_singleton_self _), rfl, rfl⟩

theorem Attributed.of_eq (h : Attributed made s) (heq : t.attributions = s.attributions) :
    Attributed made t where
  recorded a ha := h.recorded a (heq ▸ ha)
  complete m hm := by
    rw [heq]
    exact h.complete m hm

/-- One operation keeps the record. -/
theorem Attributed.perform (h : Attributed made s) (hs : s.WellFormed) (op : Operation) :
    Attributed (made ++ (attachment? (op, (s.perform op).1)).toList) (s.perform op).2 := by
  have hsame (heq : (s.perform op).2.attributions = s.attributions)
      (hnone : attachment? (op, (s.perform op).1) = none) :
      Attributed (made ++ (attachment? (op, (s.perform op).1)).toList) (s.perform op).2 := by
    rw [hnone, Option.toList_none, List.append_nil]
    exact h.of_eq heq
  cases op with
  | upsertComponent c => exact hsame (by rw [Store.perform, upsertComponent_eq]) rfl
  | insertWeakness w => exact hsame (by rw [Store.perform, insertWeakness_eq]) rfl
  | find p => exact hsame rfl rfl
  | get source vulnId => exact hsame rfl rfl
  | synchronize d =>
      refine hsame ?_ rfl
      rcases perform_synchronize_cases hs d with ⟨e, heq⟩ | ⟨_, _, _, t, _, heq, ht⟩
      · rw [heq]
      · rw [heq]
        exact ht.attributions
  | attach v component now =>
      rcases attach_cases s v component now with
        ⟨-, heq⟩ | ⟨-, -, heq⟩ | ⟨-, -, heq⟩ | ⟨-, r, -, hv, heq⟩
      · exact hsame (by simp [Store.perform, heq]) (by simp [Store.perform, heq, attachment?])
      · exact hsame (by simp [Store.perform, heq]) (by simp [Store.perform, heq, attachment?])
      · exact hsame (by simp [Store.perform, heq]) (by simp [Store.perform, heq, attachment?])
      · simp only [Store.perform, heq, attachment?, hv]
        exact h.withAttribution component r.id analyzer now

theorem Attributed.after (h : Attributed made s) (hs : s.WellFormed) (ops : List Operation) :
    Attributed (made ++ attachments (s.trace ops)) (s.after ops) := by
  induction ops generalizing s made with
  | nil => simpa [attachments, trace, Store.after] using h
  | cons op ops ih =>
      have hstep := ih (h.perform hs op) (hs.perform op)
      have heq : attachments (s.trace (op :: ops))
          = (attachment? (op, (s.perform op).1)).toList ++ attachments ((s.perform op).2.trace ops) := by
        unfold attachments
        rw [trace, List.filterMap_cons]
        split <;> simp_all
      rw [heq, ← List.append_assoc]
      exact hstep

/-! ## The order of the listing -/

/-- The attributions of a component in the order in which its vulnerabilities are listed. -/
def listing (s : Store) (component : String) : List Attribution :=
  (s.attributions.filter (·.component == component)).mergeSort Attribution.notAfter

theorem notAfter_iff (a b : Attribution) : Attribution.notAfter a b = true ↔ a.place ≤ b.place := by
  unfold Attribution.notAfter Attribution.place
  rw [Prod.Lex.toLex_le_toLex]
  split
  · next heq => simp [heq]
  · next hne => simp [hne]

theorem mem_listing {component : String} {a : Attribution} :
    a ∈ s.listing component ↔ a ∈ s.attributions ∧ a.component = component := by
  rw [listing, List.mem_mergeSort, List.mem_filter, beq_iff_eq]

/-- A component has no vulnerability twice. -/
theorem nodup_listing (h : s.WellFormed) (component : String) :
    ((s.listing component).map (·.vulnerability)).Nodup := by
  have hmine : ((s.attributions.filter (·.component == component)).map (·.vulnerability)).Nodup := by
    rw [List.Nodup, List.pairwise_map, List.pairwise_filter]
    refine (List.pairwise_map.mp h.attributions).imp ?_
    intro a b hne ha hb heq
    rw [beq_iff_eq] at ha hb
    exact hne (Prod.ext (ha.trans hb.symm) heq)
  exact ((List.mergeSort_perm _ _).map _).nodup_iff.mpr hmine

/-- The listing goes by place, and no place is there twice. -/
theorem pairwise_listing (h : s.WellFormed) (component : String) :
    (s.listing component).Pairwise fun a b => a.place < b.place := by
  have hle : (s.listing component).Pairwise fun a b => a.place ≤ b.place :=
    pairwise_le_mergeSort notAfter_iff _
  refine (hle.and (List.pairwise_map.mp (nodup_listing h component))).imp ?_
  rintro a b ⟨hab, hne⟩
  refine lt_of_le_of_ne hab fun heq => hne ?_
  exact (Prod.ext_iff.mp (toLex.injective heq)).2

/-- A listing only ever gets longer, and what is there keeps its order. -/
theorem sublist_listing (h : s.Extends t) (hs : s.WellFormed) (ht : t.WellFormed)
    (component : String) :
    ((s.listing component).map (·.place)).Sublist ((t.listing component).map (·.place)) := by
  have hlt := List.pairwise_map.mpr (pairwise_listing hs component)
  have hlt' := List.pairwise_map.mpr (pairwise_listing ht component)
  apply List.sublist_of_subperm_of_pairwise _ (hlt.imp le_of_lt) (hlt'.imp le_of_lt)
  apply List.subperm_of_subset (hlt.imp ne_of_lt)
  apply List.map_subset
  intro a ha
  rw [mem_listing] at ha ⊢
  exact ⟨h.attributions ha.1, ha.2⟩

/-! ## What is listed -/

theorem rows_vulnerabilitiesOf (h : s.WellFormed) (component : String) :
    (s.vulnerabilitiesOf component).map (·.row)
      = (s.listing component).map fun a => some (a.vulnerability : Int) := by
  show (((s.listing component).filterMap fun a => s.vulnerabilityAt? a.vulnerability).map
    s.load).map (·.row) = _
  rw [List.map_map]
  apply map_filterMap_eq_map
  intro a ha
  obtain ⟨r, hr, hid⟩ := List.mem_map.mp (h.attribution_vulnerability a (mem_listing.mp ha).1)
  refine ⟨r, (vulnerabilityAt?_eq_some_iff h).mpr ⟨hr, hid⟩, ?_⟩
  rw [← hid]
  rfl

/-- What is listed is what is found under its key. -/
theorem get?_of_mem_vulnerabilitiesOf (h : s.WellFormed) {component : String} {v : Vulnerability}
    (hv : v ∈ s.vulnerabilitiesOf component) :
    ∃ vulnId, v.vulnId = some vulnId ∧ s.get? v.source vulnId = some v := by
  obtain ⟨r, hr, rfl⟩ := List.mem_map.mp hv
  obtain ⟨a, -, ha⟩ := List.mem_filterMap.mp hr
  have hmem := ((vulnerabilityAt?_eq_some_iff h).mp ha).1
  refine ⟨r.vulnId, rfl, ?_⟩
  show (s.vulnerabilityRow? r.source r.vulnId).map s.load = _
  rw [(vulnerabilityRow?_eq_some_iff h).mpr ⟨hmem, rfl⟩, Option.map_some]

/-- The attachments `firsts` are the first ones of the vulnerabilities of a component, sorted by the
text of the time and, where it is the same, by row. -/
structure FirstAttachments (made : List Attachment) (component : String)
    (firsts : List Attachment) : Prop where
  mem_iff : ∀ m, m ∈ firsts ↔ firstAttachment? made component m.row = some m
  nodup : (firsts.map (·.row)).Nodup
  byText : firsts.Pairwise fun m n => m.time.timestamp < n.time.timestamp ∨
    m.time.timestamp = n.time.timestamp ∧ m.row < n.row

/-- The first attachment of each vulnerability, in the order of the listing. -/
def firsts (made : List Attachment) (s : Store) (component : String) : List Attachment :=
  (s.listing component).filterMap fun a => firstAttachment? made component a.vulnerability

theorem rows_firsts (h : Attributed made s) (component : String) :
    (firsts made s component).map (·.row)
      = (s.listing component).map fun a => (a.vulnerability : Int) := by
  apply map_filterMap_eq_map
  intro a ha
  obtain ⟨hmem, rfl⟩ := mem_listing.mp ha
  obtain ⟨m, hm, -⟩ := h.recorded a hmem
  exact ⟨m, hm, (of_firstAttachment?_eq_some hm).2.2⟩

theorem rows_vulnerabilitiesOf_eq (h : Attributed made s) (hs : s.WellFormed) (component : String) :
    (s.vulnerabilitiesOf component).map (·.row)
      = (firsts made s component).map fun m => some m.row := by
  have hsome := congrArg (List.map some) (rows_firsts h component)
  rw [List.map_map, List.map_map] at hsome
  rw [rows_vulnerabilitiesOf hs]
  exact hsome.symm

theorem mem_firsts_iff (h : Attributed made s) {component : String} {m : Attachment} :
    m ∈ firsts made s component ↔ firstAttachment? made component m.row = some m := by
  constructor
  · intro hm
    obtain ⟨a, -, ha⟩ := List.mem_filterMap.mp hm
    rw [(of_firstAttachment?_eq_some ha).2.2]
    exact ha
  · intro hm
    obtain ⟨hmade, hcomponent, -⟩ := of_firstAttachment?_eq_some hm
    obtain ⟨a, ha, ha', hrow⟩ := h.complete m hmade
    refine List.mem_filterMap.mpr ⟨a, mem_listing.mpr ⟨ha, ha'.trans hcomponent⟩, ?_⟩
    rw [hrow]
    exact hm

/-- The first attachments go by the text of their times. -/
theorem pairwise_firsts (h : Attributed made s) (hs : s.WellFormed) (component : String) :
    (firsts made s component).Pairwise fun m n => m.time.timestamp < n.time.timestamp ∨
      m.time.timestamp = n.time.timestamp ∧ m.row < n.row := by
  have hfirst {a : Attribution} {m : Attachment} (ha : a ∈ s.listing component)
      (hm : firstAttachment? made component a.vulnerability = some m) :
      a.attributedOn = m.time.timestamp := by
    obtain ⟨hmem, rfl⟩ := mem_listing.mp ha
    obtain ⟨m', hm', htime⟩ := h.recorded a hmem
    rwa [Option.some.inj (hm.symm.trans hm')]
  unfold firsts
  rw [List.pairwise_filterMap]
  refine (pairwise_listing hs component).imp_of_mem ?_
  intro a b ha hb hlt m hm n hn
  rw [(of_firstAttachment?_eq_some hm).2.2, (of_firstAttachment?_eq_some hn).2.2]
  unfold Attribution.place at hlt
  rw [Prod.Lex.toLex_lt_toLex, hfirst ha hm, hfirst hb hn] at hlt
  simpa using hlt

theorem firstAttachments_firsts (h : Attributed made s) (hs : s.WellFormed) (component : String) :
    FirstAttachments made component (firsts made s component) where
  mem_iff m := mem_firsts_iff h
  nodup := by
    have hrows := (nodup_listing hs component).map fun _ _ => Int.ofNat.inj
    rw [List.map_map] at hrows
    rw [rows_firsts h]
    exact hrows
  byText := pairwise_firsts h hs component

/-- Each row that was attached to a component has a first attachment. -/
theorem row_mem_firsts (h : Attributed made s) {m : Attachment} (hm : m ∈ made) :
    m.row ∈ (firsts made s m.component).map (·.row) := by
  cases hfirst : firstAttachment? made m.component m.row with
  | none => exact absurd rfl (firstAttachment?_eq_none_iff.mp hfirst m hm rfl)
  | some n =>
      have hrow := (of_firstAttachment?_eq_some hfirst).2.2
      exact List.mem_map.mpr ⟨n, (mem_firsts_iff h).mpr (by rwa [hrow]), hrow⟩

/-- What is listed later is what was listed, in the same order, with what was attached since. -/
theorem sublist_vulnerabilitiesOf (h : s.Extends t) (hs : s.WellFormed) (ht : t.WellFormed)
    (component : String) :
    ((s.vulnerabilitiesOf component).map (·.row)).Sublist
      ((t.vulnerabilitiesOf component).map (·.row)) := by
  rw [rows_vulnerabilitiesOf hs, rows_vulnerabilitiesOf ht]
  simpa [Attribution.place, Function.comp_def] using
    (sublist_listing h hs ht component).map fun p => some ((ofLex p).2 : Int)

/-- Where only what is listed was attached since, the list is as it was. -/
theorem rows_vulnerabilitiesOf_eq_of_subset {later : List Attachment} (h : s.Extends t)
    (hs : s.WellFormed) (ht : t.WellFormed) (hmade : Attributed made s)
    (hmade' : Attributed (made ++ later) t) {component : String}
    (hold : ∀ m ∈ later, m.component = component → m.row ∈ (firsts made s component).map (·.row)) :
    (t.vulnerabilitiesOf component).map (·.row) = (s.vulnerabilitiesOf component).map (·.row) := by
  have hsublist := sublist_vulnerabilitiesOf h hs ht component
  rw [rows_vulnerabilitiesOf_eq hmade hs, rows_vulnerabilitiesOf_eq hmade' ht,
    ← Function.comp_def some, ← List.map_map, ← List.map_map] at hsublist ⊢
  have hnodup := (firstAttachments_firsts hmade' ht component).nodup.map
    (Option.some_injective Int)
  refine (hsublist.eq_of_length_le (List.subperm_of_subset hnodup ?_).length_le).symm
  apply List.map_subset
  intro row hrow
  obtain ⟨m, hm, rfl⟩ := List.mem_map.mp hrow
  obtain ⟨hmem, rfl, -⟩ := of_firstAttachment?_eq_some ((mem_firsts_iff hmade').mp hm)
  rcases List.mem_append.mp hmem with hmem | hmem
  · exact row_mem_firsts hmade hmem
  · exact hold m hmem rfl

/-- After the operations `ops` a component lists the rows of `firsts`, each as it is found under
its key, and the operations `later` leave them in their order. Where they attach nothing new to the
component they leave the list as it is. -/
structure Lists (ops later : List Operation) (component : String) (firsts : List Attachment) :
    Prop where
  first : FirstAttachments (attachments (empty.trace ops)) component firsts
  rows : ((empty.after ops).vulnerabilitiesOf component).map (·.row)
    = firsts.map fun m => some m.row
  found : ∀ v ∈ (empty.after ops).vulnerabilitiesOf component,
    ∃ vulnId, v.vulnId = some vulnId ∧ (empty.after ops).get? v.source vulnId = some v
  kept : (((empty.after ops).vulnerabilitiesOf component).map (·.row)).Sublist
    (((empty.after (ops ++ later)).vulnerabilitiesOf component).map (·.row))
  same : (∀ m ∈ attachments ((empty.after ops).trace later), m.component = component →
      m.row ∈ firsts.map (·.row)) →
    ((empty.after (ops ++ later)).vulnerabilitiesOf component).map (·.row)
      = ((empty.after ops).vulnerabilitiesOf component).map (·.row)

/-- After any history a component lists what was attached to it, by the texts of the times. -/
theorem exists_lists (ops later : List Operation) (component : String) :
    ∃ firsts, Lists ops later component firsts := by
  have hs : (empty.after ops).WellFormed := wellFormed_empty.after ops
  have ht : (empty.after (ops ++ later)).WellFormed := wellFormed_empty.after _
  have hmade : Attributed (attachments (empty.trace ops)) (empty.after ops) :=
    attributed_empty.after wellFormed_empty ops
  have hmade' : Attributed (attachments (empty.trace ops)
      ++ attachments ((empty.after ops).trace later)) (empty.after (ops ++ later)) := by
    rw [after_append]
    exact hmade.after hs later
  have hext : (empty.after ops).Extends (empty.after (ops ++ later)) := by
    rw [after_append]
    exact .after hs later
  refine ⟨firsts (attachments (empty.trace ops)) (empty.after ops) component, ?_⟩
  constructor
  case first => exact firstAttachments_firsts hmade hs component
  case rows => exact rows_vulnerabilitiesOf_eq hmade hs component
  case found => exact fun v => get?_of_mem_vulnerabilitiesOf hs
  case kept => exact sublist_vulnerabilitiesOf hext hs ht component
  case same => exact rows_vulnerabilitiesOf_eq_of_subset hext hs ht hmade hmade'

/-! ## The order of time -/

theorem exists_attach_of_attachment? {op : Operation} {answer : Answer} {m : Attachment}
    (h : attachment? (op, answer) = some m) : ∃ v, op = .attach v m.component m.time := by
  unfold attachment? at h
  split at h
  · next v component now heq =>
    obtain ⟨row, -, rfl⟩ := Option.map_eq_some_iff.mp h
    exact ⟨v, (Prod.ext_iff.mp heq).1⟩
  · cases h

/-- What was attached was attached when the clock showed its time. -/
theorem exists_attach_of_mem_attachments {ops : List Operation} {m : Attachment}
    (h : m ∈ attachments (s.trace ops)) : ∃ v, .attach v m.component m.time ∈ ops := by
  induction ops generalizing s with
  | nil => cases h
  | cons op ops ih =>
      obtain ⟨⟨op', answer⟩, hmem, hm⟩ := List.mem_filterMap.mp h
      rcases List.mem_cons.mp hmem with heq | hmem
      · obtain ⟨v, hop⟩ := exists_attach_of_attachment? hm
        obtain ⟨rfl, -⟩ := Prod.ext_iff.mp heq
        exact ⟨v, hop ▸ List.mem_cons_self⟩
      · obtain ⟨v, hv⟩ := ih (List.mem_filterMap.mpr ⟨_, hmem, hm⟩)
        exact ⟨v, List.mem_cons_of_mem _ hv⟩

/-- As long as four digits write the years, what is sorted by the texts is sorted by time. -/
theorem FirstAttachments.byTime {component : String} {firsts : List Attachment}
    (h : FirstAttachments made component firsts)
    (hplain : ∀ m ∈ made, m.time.hasPlainYear = true) :
    firsts.Pairwise fun m n => m.time.before n.time ∨ m.time = n.time ∧ m.row < n.row := by
  have hyear {m : Attachment} (hm : m ∈ firsts) : m.time.hasPlainYear = true :=
    hplain m (of_firstAttachment?_eq_some ((h.mem_iff m).mp hm)).1
  refine h.byText.imp_of_mem ?_
  intro m n hm hn hmn
  rwa [Instant.timestamp_lt_iff (hyear hm) (hyear hn),
    Instant.timestamp_inj (hyear hm) (hyear hn)] at hmn

/-- **A component has what was attached to it, for good.** After any history in which the clock
shows years of four digits, a component lists the rows that were attached to it and no others,
each once, as it is found under its key, and by the time of the first attachment. Later operations
of any kind and at any time leave the rows in their order, and those that attach nothing new to
the component leave the list as it is. -/
theorem vulnerabilitiesOf_after (ops later : List Operation) (component : String)
    (hclock : ∀ op ∈ ops, op.hasPlainClock = true) :
    ∃ firsts, Lists ops later component firsts ∧
      firsts.Pairwise fun m n => m.time.before n.time ∨ m.time = n.time ∧ m.row < n.row := by
  obtain ⟨firsts, hlists⟩ := exists_lists ops later component
  refine ⟨firsts, hlists, hlists.first.byTime ?_⟩
  intro m hm
  obtain ⟨v, hv⟩ := exists_attach_of_mem_attachments hm
  exact hclock _ hv

/-- Two vulnerabilities are written, and a component gets the second one before the first one. -/
def secondThenFirst (now next : Instant) : List Operation :=
  let written (row : Option Int) (vulnId : String) : Vulnerability :=
    { Vulnerability.blank .snyk (some vulnId) with row := row }
  [.upsertComponent ⟨"c", "left-pad", none⟩, .synchronize ⟨written none "A", []⟩,
    .synchronize ⟨written none "B", []⟩, .attach (written (some 2) "B") "c" now,
    .attach (written (some 1) "A") "c" next]

/-- The second one is listed first, also after all of it was done again at a later time. -/
theorem vulnerabilitiesOf_after_secondThenFirst :
    let now := (Instant.ofEpoch? 0 0).get (by decide)
    let next := (Instant.ofEpoch? 1 0).get (by decide)
    let s := empty.after (secondThenFirst now next ++ secondThenFirst next next)
    (s.vulnerabilitiesOf "c").map (·.row) = [some 2, some 1] := by
  intro now next s
  obtain ⟨firsts, hlists, hbyTime⟩ := vulnerabilitiesOf_after (secondThenFirst now next)
    (secondThenFirst next next) "c" (by decide +kernel)
  have hmade : attachments (empty.trace (secondThenFirst now next))
      = [⟨"c", 2, now⟩, ⟨"c", 1, next⟩] := by decide +kernel
  have hagain : attachments ((empty.after (secondThenFirst now next)).trace
      (secondThenFirst next next)) = [⟨"c", 2, next⟩, ⟨"c", 1, next⟩] := by decide +kernel
  have hperm : firsts.Perm [⟨"c", 2, now⟩, ⟨"c", 1, next⟩] := by
    rw [List.perm_ext_iff_of_nodup hlists.first.nodup.of_map (by simp)]
    intro m
    rw [hlists.first.mem_iff, hmade]
    constructor
    · exact fun hm => (of_firstAttachment?_eq_some hm).1
    · intro hm
      rcases List.mem_pair.mp hm with rfl | rfl <;> rfl
  have hfirsts : firsts = [⟨"c", 2, now⟩, ⟨"c", 1, next⟩] := by
    refine (List.perm_pair.mp hperm).resolve_right fun hback => ?_
    have hlater : ¬(next.before now ∨ next = now ∧ (1 : Int) < 2) := by
      unfold Instant.before
      decide +kernel
    rw [hback, List.pairwise_pair] at hbyTime
    exact hlater hbyTime
  rw [hlists.same (by rw [hagain, hfirsts]; simp), hlists.rows, hfirsts]
  rfl

/-- The condition cannot be left out. What was attached in a year that four digits cannot write is
listed before what was attached in any other year. -/
theorem FirstAttachments.otherYears_first {component : String} {firsts : List Attachment}
    (h : FirstAttachments made component firsts) :
    firsts.Pairwise fun m n => n.time.hasPlainYear = false → m.time.hasPlainYear = false := by
  refine h.byText.imp ?_
  intro m n hmn hn
  rw [← Bool.not_eq_true]
  intro hm
  have hback := Instant.timestamp_lt_of_hasPlainYear hn hm
  rcases hmn with hlt | ⟨heq, -⟩
  · exact lt_asymm hlt hback
  · exact hback.ne heq.symm

/-- So what was attached after the last second of the year 9999 is listed before what was attached
in that second. -/
example :
    let last := (Instant.ofEpoch? 253402300799 0).get (by decide)
    let next := (Instant.ofEpoch? 253402300800 0).get (by decide)
    last.before next ∧ next.timestamp < last.timestamp :=
  ⟨.inl (by decide), by decide +kernel⟩

end Store
end AdvisoryLedger
