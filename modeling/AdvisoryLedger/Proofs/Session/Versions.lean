import AdvisoryLedger.Proofs.Dispatch.Batch
import AdvisoryLedger.Store.Requests

/-!
# The version of a predicate follows from its bounds

A predicate carries its version beside its bounds although the bounds alone say which version
is pinned. Only the making of a predicate works the version out; after that it is stored,
found, settled and read as a column of its own. `Predicate.IsConsistent` says that it agrees
with the bounds, and the invariant is that it does in every row of the table
(`Store.IsConsistent`). Since a predicate that is handed in was made or given out before, a
request keeps the invariant, and nothing inconsistent is ever given out.
-/

namespace AdvisoryLedger

/-- The version is there exactly if the bounds pin it, and then it is the one that they pin.
The versions that the predicate is about are affected. -/
structure Predicate.IsConsistent (p : Predicate) : Prop where
  version : ∀ v, p.version = some v ↔
    p.bounds.startIncluding = some v ∧ p.bounds.endIncluding = some v ∧
      p.bounds.startExcluding = none ∧ p.bounds.endExcluding = none
  vulnerable : p.vulnerable = true

/-- Which bounds pin a version, bound by bound. -/
theorem VersionBounds.exactVersion?_eq_some_iff_bounds {b : VersionBounds} {v : String} :
    b.exactVersion? = some v ↔ b.startIncluding = some v ∧ b.endIncluding = some v ∧
      b.startExcluding = none ∧ b.endExcluding = none := by
  rw [exactVersion?_eq_some_iff]
  cases b
  rw [VersionBounds.mk.injEq]
  tauto

namespace Predicate

variable {p : Predicate}

theorem IsConsistent.version_eq (h : p.IsConsistent) : p.version = p.bounds.exactVersion? := by
  apply Option.ext
  intro v
  rw [h.version, VersionBounds.exactVersion?_eq_some_iff_bounds]

theorem IsMade.isConsistent (h : p.IsMade) : p.IsConsistent := by
  obtain ⟨type, scope, name, bounds, rfl⟩ := h
  exact ⟨fun _ => VersionBounds.exactVersion?_eq_some_iff_bounds, rfl⟩

/-- The row makes no difference. -/
theorem IsConsistent.withRow (h : p.IsConsistent) (row : Option Int) :
    { p with row := row }.IsConsistent :=
  ⟨h.version, h.vulnerable⟩

end Predicate

theorem isMade_of_mem_candidates {package : Option Coordinate} {ranges : List String}
    {p : Predicate} (hp : p ∈ candidates package ranges) : p.IsMade := by
  obtain ⟨c, -, range, -, rfl⟩ := mem_candidates hp
  exact ⟨c.type, c.scope, c.name, .ofExpression range, rfl⟩

namespace Store

variable {s t : Store}

/-- Every predicate in the table is consistent. -/
def IsConsistent (s : Store) : Prop := ∀ r ∈ s.predicates, r.predicate.IsConsistent

/-! ## What is read from the table -/

theorem IsConsistent.find? (h : s.IsConsistent) {c p : Predicate} (hp : s.find? c = some p) :
    p.IsConsistent := by
  obtain ⟨r, hr, rfl⟩ := Option.map_eq_some_iff.mp hp
  exact h r (List.mem_of_find?_eq_some hr)

theorem IsConsistent.settle (h : s.IsConsistent) {c : Predicate} (hc : c.IsConsistent) :
    (s.settle c).IsConsistent := by
  unfold Store.settle
  cases hfind : s.find? c with
  | none => exact hc
  | some p => exact h.find? hfind

theorem IsConsistent.softwareOf (h : s.IsConsistent) {row : Nat} {p : Predicate}
    (hp : p ∈ s.softwareOf row) : p.IsConsistent := by
  obtain ⟨r, hr, rfl⟩ := List.mem_map.mp hp
  obtain ⟨l, -, hl⟩ := List.mem_filterMap.mp hr
  exact h r (List.mem_of_find?_eq_some hl)

theorem IsConsistent.get? (h : s.IsConsistent) {source : Source} {vulnId : String}
    {v : Vulnerability} (hv : s.get? source vulnId = some v) : ∀ p ∈ v.software, p.IsConsistent := by
  obtain ⟨r, -, rfl⟩ := Option.map_eq_some_iff.mp hv
  intro p hp
  exact h.softwareOf hp

theorem IsConsistent.vulnerabilitiesOf (h : s.IsConsistent) {component : String}
    {v : Vulnerability} (hv : v ∈ s.vulnerabilitiesOf component) :
    ∀ p ∈ v.software, p.IsConsistent := by
  obtain ⟨r, -, rfl⟩ := List.mem_map.mp hv
  intro p hp
  exact h.softwareOf hp

theorem IsConsistent.draft (h : s.IsConsistent) (source : Source) (package : Option Coordinate)
    (a : Advisory) : ∀ p ∈ (s.draft source package a).predicates, p.IsConsistent := by
  intro p hp
  rcases List.mem_append.mp hp with hrecord | hsoftware
  · cases hrecord
  · obtain ⟨c, hc, rfl⟩ := List.mem_map.mp hsoftware
    exact h.settle (isMade_of_mem_candidates hc).isConsistent

/-! ## What is written to the table -/

section Synchronized

variable {d : Draft} {vulnId : String} {row : Nat} {kept : List (Nat × Predicate)}

theorem Synchronized.isConsistent (ht : Synchronized s d vulnId row kept t) (h : s.IsConsistent)
    (hd : ∀ p ∈ d.software, p.IsConsistent) : t.IsConsistent := by
  obtain ⟨more, hrows, hmore⟩ := ht.predicates.fresh
  intro r hr
  rw [hrows] at hr
  rcases List.mem_append.mp hr with hold | hnew
  · exact h r hold
  · -- a row that is new has the columns of a predicate of the draft
    obtain ⟨-, p, hfind, heq⟩ := hmore r hnew
    rw [heq]
    exact (hd p (List.mem_of_find?_eq_some hfind)).withRow _

theorem Synchronized.isConsistent_answer (ht : Synchronized s d vulnId row kept t)
    (hd : ∀ p ∈ d.software, p.IsConsistent) :
    ∀ p ∈ (answer d row kept).software, p.IsConsistent := by
  intro p hp
  obtain ⟨e, he, rfl⟩ := List.mem_map.mp hp
  exact (hd e.2 (List.mem_of_find?_eq_some (ht.keeps.first e he))).withRow _

end Synchronized

/-- An operation gives out nothing inconsistent and enters nothing inconsistent. -/
theorem IsConsistent.perform (h : s.IsConsistent) (hs : s.WellFormed) (op : Operation)
    (hwritten : ∀ p ∈ (Ledger.Request.operation op).written, p.IsConsistent) :
    (∀ p ∈ (s.perform op).1.predicates, p.IsConsistent) ∧ (s.perform op).2.IsConsistent := by
  cases op with
  | upsertComponent c =>
      refine ⟨by rintro p ⟨⟩, ?_⟩
      show (s.upsertComponent c).IsConsistent
      rw [upsertComponent_eq]
      exact h
  | insertWeakness w =>
      refine ⟨by rintro p ⟨⟩, ?_⟩
      show (s.insertWeakness w).IsConsistent
      rw [insertWeakness_eq]
      exact h
  | synchronize d =>
      rcases perform_synchronize_cases hs d with ⟨e, heq⟩ | ⟨vulnId, row, kept, t, -, heq, ht⟩
      · rw [heq]
        exact ⟨by rintro p ⟨⟩, h⟩
      · rw [heq]
        exact ⟨ht.isConsistent_answer hwritten, ht.isConsistent h hwritten⟩
  | attach v component now =>
      constructor
      · simp only [Store.perform]
        cases s.attach v component now <;> rintro p ⟨⟩
      · rcases perform_attach_cases hs v component now with heq | ⟨row, -, ht⟩
        · rw [heq]
          exact h
        · rw [ht.eq]
          exact h
  | find c =>
      refine ⟨?_, h⟩
      show ∀ p ∈ (Answer.predicate (s.find? c)).predicates, p.IsConsistent
      cases hfind : s.find? c with
      | none => rintro p ⟨⟩
      | some q =>
          intro p hp
          rw [List.mem_singleton.mp hp]
          exact h.find? hfind
  | get source vulnId =>
      refine ⟨?_, h⟩
      show ∀ p ∈ (Answer.vulnerability (s.get? source vulnId)).predicates, p.IsConsistent
      cases hget : s.get? source vulnId with
      | none => rintro p ⟨⟩
      | some v => exact h.get? hget

end Store

/-! ## Runs of requests -/

namespace Ledger

variable {clock : Nat → Instant} {l : Ledger}

theorem allDrafts_on (clock : Nat → Instant) (l : Ledger) (source : Source)
    (component : Option Coordinate) (b : AdvisoryBatch) :
    ((session clock).drafts source component b).on l
      = (.ok (b.advisories.map (l.store.draft source (b.package component))), l) :=
  Work.on_mapM (draft_on clock l source _) b.advisories

/-- One request: what it gives out is consistent, and so is the table after it. -/
theorem respond_isConsistent (clock : Nat → Instant) (hs : l.store.WellFormed)
    (h : l.store.IsConsistent) (r : Request) (hwritten : ∀ p ∈ r.written, p.IsConsistent) :
    (∀ p ∈ (l.respond clock r).1.predicates, p.IsConsistent) ∧
    (l.respond clock r).2.store.WellFormed ∧ (l.respond clock r).2.store.IsConsistent := by
  cases r with
  | operation op =>
      obtain ⟨hanswer, hstore⟩ := h.perform hs op hwritten
      exact ⟨hanswer, hs.perform op, hstore⟩
  | draft source package a =>
      simp only [respond, draft_on]
      exact ⟨h.draft source package a, hs, h⟩
  | drafts source component b =>
      simp only [respond, allDrafts_on]
      refine ⟨?_, hs, h⟩
      intro p hp
      obtain ⟨d, hd, hpd⟩ := List.mem_flatMap.mp hp
      obtain ⟨a, -, rfl⟩ := List.mem_map.mp hd
      exact h.draft source _ a p hpd
  | list component =>
      refine ⟨?_, hs, h⟩
      intro p hp
      obtain ⟨v, hv, hpv⟩ := List.mem_flatMap.mp hp
      exact h.vulnerabilitiesOf hv p hpv

/-- A run gives out consistent predicates as long as those that it began with were. -/
theorem responses_isConsistent (hs : l.store.WellFormed) (h : l.store.IsConsistent)
    {known : List Predicate} (hknown : ∀ p ∈ known, p.IsConsistent) {rs : List Request}
    (hsourced : l.Sourced clock known rs) :
    ∀ response ∈ l.responses clock rs, ∀ p ∈ response.predicates, p.IsConsistent := by
  induction rs generalizing l known with
  | nil => rintro response ⟨⟩
  | cons r rs ih =>
      obtain ⟨hfrom, hrest⟩ := hsourced
      have hwritten : ∀ p ∈ r.written, p.IsConsistent := by
        intro p hp
        exact (hfrom p hp).elim (·.isConsistent) (hknown p)
      obtain ⟨hout, hs', h'⟩ := respond_isConsistent clock hs h r hwritten
      intro response hresponse
      rcases List.mem_cons.mp hresponse with rfl | hlater
      · exact hout
      · refine ih hs' h' ?_ hrest response hlater
        intro p hp
        exact (List.mem_append.mp hp).elim (hknown p) (hout p)

/-- **Versions follow from bounds on every path.** Where every predicate that is handed in was
made from its parts or given out before, every predicate that is ever given out has the
version that its bounds pin, or none if they pin none. -/
theorem versions_follow_bounds (clock : Nat → Instant) (rs : List Request)
    (h : empty.Sourced clock [] rs) :
    ∀ response ∈ empty.responses clock rs, ∀ p ∈ response.predicates, p.IsConsistent :=
  responses_isConsistent Store.wellFormed_empty (by rintro r ⟨⟩) (by rintro p ⟨⟩) h

/-- A predicate that pins a version, as it is made and as a store has it in its first row. -/
def pinned (row : Option Int) : Predicate :=
  { Predicate.ofParts "npm" none "lodash" ⟨some "1.5", none, some "1.5", none⟩ with row := row }

/-- A draft that was made against a store goes into it with a predicate that was stored for
another one and with a predicate of its own. -/
def sharedPredicate : List Request :=
  let package : Coordinate := ⟨"npm", none, "lodash", none⟩
  [.operation (.synchronize ⟨.blank .snyk (some "A"), [pinned none]⟩),
    .draft .snyk (some package)
      ⟨some "B", none, none, none, none, none, [], [], none, ["=1.5", "<2"]⟩,
    .operation (.synchronize ⟨.blank .snyk (some "B"),
      [pinned (some 1), .ofCoordinate package (.ofExpression "<2")]⟩),
    .operation (.get .snyk "B")]

theorem versions_follow_bounds_sharedPredicate :
    let clock := fun _ => (Instant.ofEpoch? 0 0).get (by decide)
    empty.Sourced clock [] sharedPredicate ∧
    ∀ response ∈ empty.responses clock sharedPredicate, ∀ p ∈ response.predicates,
      p.IsConsistent := by
  intro clock
  have hshared : pinned (some 1) ∈
      ([] ++ (empty.respond clock sharedPredicate[0]).1.predicates ++
        ((empty.respond clock sharedPredicate[0]).2.respond clock sharedPredicate[1]).1.predicates) :=
    by decide +kernel
  have hsourced : empty.Sourced clock [] sharedPredicate := by
    refine ⟨?_, by rintro p ⟨⟩, ?_, by rintro p ⟨⟩, trivial⟩
    · intro p hp
      rw [List.mem_singleton.mp hp]
      exact .inl ⟨"npm", none, "lodash", ⟨some "1.5", none, some "1.5", none⟩, rfl⟩
    · intro p hp
      rcases List.mem_cons.mp hp with rfl | hrest
      · exact .inr hshared
      · rw [List.mem_singleton.mp hrest]
        exact .inl ⟨_, _, _, _, rfl⟩
  exact ⟨hsourced, versions_follow_bounds clock sharedPredicate hsourced⟩

end Ledger
end AdvisoryLedger
