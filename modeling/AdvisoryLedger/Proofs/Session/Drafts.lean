import AdvisoryLedger.Proofs.Dispatch.Built
import AdvisoryLedger.Proofs.Dispatch.Outcome
import AdvisoryLedger.Proofs.Vulnerability.Keys

/-!
# Drafts do not depend on what is stored

A draft is made against a store: each predicate that it needs is looked up, and one that is
found is taken as it is stored, with all its columns. That must not let earlier writes change
what a draft says, and it does not. A predicate that has the key of another one has its type,
scope, name and bounds, provided that one of the two has no separator in its parts, and where
the store was built the rest of the columns follow from these. So what is found differs from
what was looked for by its row and by nothing else.

`RangesDescribe` says what the predicates of a draft are without any store, and
`AdvisoryBatch.IsAbout` which package a batch is about.
-/

namespace AdvisoryLedger

/-! ## What drafts are to say -/

/-- The packages that a batch may be about, where the component that it came in for has the
coordinate `component` or none: the one that it names, or none if it names one that cannot be
read, and only if it names none the one of the component. -/
inductive AdvisoryBatch.IsAbout (b : AdvisoryBatch) (component : Option Coordinate) :
    Option Coordinate → Prop
  | named {url : String} {c : Coordinate} :
      b.packageUrl = some url → Coordinate.ofUrl url = .ok c → IsAbout b component (some c)
  | malformed {url : String} {e : Failure} :
      b.packageUrl = some url → Coordinate.ofUrl url = .error e → IsAbout b component none
  | unnamed : b.packageUrl = none → IsAbout b component component

theorem AdvisoryBatch.isAbout_iff {b : AdvisoryBatch} {component package : Option Coordinate} :
    b.IsAbout component package ↔ b.package component = package := by
  unfold AdvisoryBatch.package
  constructor
  · intro h
    cases h with
    | named hurl hread =>
        rw [hurl]
        simp only [hread]
        rfl
    | malformed hurl hread =>
        rw [hurl]
        simp only [hread]
        rfl
    | unnamed hurl => rw [hurl]
  · rintro rfl
    cases hurl : b.packageUrl with
    | none => exact .unnamed hurl
    | some url =>
        cases hread : Coordinate.ofUrl url with
        | ok c =>
            simp only [hread]
            exact .named hurl hread
        | error e =>
            simp only [hread]
            exact .malformed hurl hread

/-- The predicates that range expressions come to for a package, whatever their rows: one for
each expression that bounds anything, in their order, and none at all without a package. -/
inductive RangesDescribe : Option Coordinate → List String → List Predicate → Prop
  | noPackage {ranges : List String} : RangesDescribe none ranges []
  | nil {c : Coordinate} : RangesDescribe (some c) [] []
  | unbounded {c : Coordinate} {range : String} {ranges : List String} {ps : List Predicate} :
      VersionBounds.ofExpression range = .empty → RangesDescribe (some c) ranges ps →
      RangesDescribe (some c) (range :: ranges) ps
  | bounded {c : Coordinate} {range : String} {ranges : List String} {p : Predicate}
      {ps : List Predicate} :
      VersionBounds.ofExpression range ≠ .empty →
      p.withoutRow = .ofParts c.type c.scope c.name (.ofExpression range) →
      RangesDescribe (some c) ranges ps → RangesDescribe (some c) (range :: ranges) (p :: ps)

theorem candidates_cons (c : Coordinate) (range : String) (ranges : List String) :
    candidates (some c) (range :: ranges) =
      if VersionBounds.ofExpression range = .empty then candidates (some c) ranges
      else .ofCoordinate c (.ofExpression range) :: candidates (some c) ranges := by
  unfold candidates
  simp only [List.map_cons, List.filter_cons]
  by_cases hempty : VersionBounds.ofExpression range = .empty
  · simp [hempty, VersionBounds.isEmpty_iff.mpr]
  · have hbounds : (VersionBounds.ofExpression range).isEmpty = false := by
      rw [← Bool.not_eq_true, VersionBounds.isEmpty_iff]
      exact hempty
    simp [hempty, hbounds]

/-- Candidates are what the expressions come to, and so is what differs from them by rows. -/
theorem rangesDescribe_of_map_eq_candidates {package : Option Coordinate} {ranges : List String}
    {ps : List Predicate} (h : ps.map Predicate.withoutRow = candidates package ranges) :
    RangesDescribe package ranges ps := by
  cases package with
  | none =>
      obtain rfl := List.map_eq_nil_iff.mp h
      exact .noPackage
  | some c =>
      induction ranges generalizing ps with
      | nil =>
          obtain rfl := List.map_eq_nil_iff.mp h
          exact .nil
      | cons range ranges ih =>
          rw [candidates_cons] at h
          split at h
          · next hempty => exact .unbounded hempty (ih h)
          · next hbounds =>
            obtain ⟨p, ps, rfl, hp, hps⟩ := List.map_eq_cons_iff.mp h
            exact .bounded hbounds hp (ih hps)

/-! ## What is found for a candidate -/

namespace Predicate

variable {p q : Predicate}

theorem IsMade.withoutRow_eq (h : p.IsMade) : p.withoutRow = p := by
  obtain ⟨type, scope, name, bounds, rfl⟩ := h
  rfl

/-- A consistent predicate is made of its parts, apart from its row. -/
theorem IsConsistent.withoutRow_eq (h : p.IsConsistent) :
    p.withoutRow = ofParts p.type p.scope p.name p.bounds := by
  unfold withoutRow ofParts
  rw [h.version_eq, h.vulnerable]

/-- The key says all of a predicate but its row. -/
theorem withoutRow_eq_of_identity_eq (h : p.identity = q.identity) (hp : p.IsConsistent)
    (hq : q.IsConsistent) (hsep : ∀ part ∈ q.keyParts, Text.isUnseparated part = true) :
    p.withoutRow = q.withoutRow := by
  have hsep' := isUnseparated_of_identity_eq h.symm hsep
  obtain ⟨htype, hscope, hname, hbounds⟩ :=
    parts_eq_of_keyParts_eq (keyParts_eq_of_identity_eq h hsep' hsep)
  rw [hp.withoutRow_eq, hq.withoutRow_eq, htype, hscope, hname, hbounds]

end Predicate

namespace Store

variable {s : Store} {package : Option Coordinate} {a : Advisory}

/-- What is found for a candidate says what the candidate says. -/
theorem Built.withoutRow_settle (h : s.Built) {p : Predicate} (hp : p.IsMade)
    (hsep : ∀ part ∈ p.keyParts, Text.isUnseparated part = true) :
    (s.settle p).withoutRow = p := by
  calc (s.settle p).withoutRow
    _ = p.withoutRow := Predicate.withoutRow_eq_of_identity_eq (identity_settle h.wellFormed p)
          (h.isConsistent.settle hp.isConsistent) hp.isConsistent hsep
    _ = p := hp.withoutRow_eq

/-- The draft of an advisory where no predicate is stored. -/
theorem draft_of_predicates_eq_nil (h : s.predicates = []) (source : Source)
    (package : Option Coordinate) (a : Advisory) :
    s.draft source package a = ⟨a.vulnerability source s.resolve?, candidates package a.ranges⟩ := by
  have hself : s.settle = id := by
    funext p
    apply settle_eq_self
    rw [predicateRow?_eq_none_iff, identities, h]
    rintro ⟨⟩
  unfold Store.draft
  rw [hself, List.map_id]

/-- The draft of an advisory is that one, apart from rows, whatever is stored. -/
theorem Built.withoutRows_draft (h : s.Built) (source : Source)
    (hpackage : ∀ c ∈ package, c.isUnseparated = true)
    (hranges : ∀ range ∈ a.ranges, Text.isUnseparated range = true) :
    (s.draft source package a).withoutRows
      = ⟨a.vulnerability source s.resolve?, candidates package a.ranges⟩ := by
  have hsettled : ∀ p ∈ candidates package a.ranges, (s.settle p).withoutRow = p := by
    intro p hp
    apply h.withoutRow_settle (isMade_of_mem_candidates hp)
    obtain ⟨c, hc, range, hrange, rfl⟩ := mem_candidates hp
    intro part
    exact Predicate.isUnseparated_of_mem_keyParts (hpackage c hc)
      (Predicate.isUnseparated_of_mem_versions (hranges range hrange))
  have hsoftware : ((candidates package a.ranges).map s.settle).map Predicate.withoutRow
      = candidates package a.ranges := by
    rw [List.map_map]
    exact (List.map_congr_left hsettled).trans (List.map_id _)
  unfold Store.draft Draft.withoutRows
  rw [hsoftware]

end Store

/-! ## Batches -/

namespace Ledger

/-- A ledger with the same weaknesses and nothing else in its tables. -/
def bare (l : Ledger) : Ledger :=
  { l with store := { Store.empty with weaknesses := l.store.weaknesses } }

/-- **Drafts do not depend on what is stored.** Whatever was built before, the drafts of a batch
are the ones that are made where only the weaknesses are the same, apart from rows. Their
predicates are those that the ranges of the advisories come to for the package that the batch
is about. The separator of keys must be in no part of that package and in no range. -/
theorem drafts_independent_of_stored (clock : Nat → Instant) {l : Ledger} (hl : l.store.Built)
    (source : Source) (component : Option Coordinate) (b : AdvisoryBatch)
    (hpackage : ∀ c, b.IsAbout component (some c) → c.isUnseparated = true)
    (hranges : ∀ a ∈ b.advisories, ∀ range ∈ a.ranges, Text.isUnseparated range = true) :
    ∃ package ds, b.IsAbout component package ∧
      ((session clock).drafts source component b).on l = (.ok ds, l) ∧
      ((session clock).drafts source component b).on l.bare
        = (.ok (ds.map Draft.withoutRows), l.bare) ∧
      List.Forall₂ (fun a d => RangesDescribe package a.ranges d.software) b.advisories ds := by
  have hpackage' : ∀ c ∈ b.package component, c.isUnseparated = true :=
    fun c hc => hpackage c (AdvisoryBatch.isAbout_iff.mpr hc)
  have hdrafts : ∀ a ∈ b.advisories,
      (l.store.draft source (b.package component) a).withoutRows
        = l.bare.store.draft source (b.package component) a := by
    intro a ha
    rw [hl.withoutRows_draft source hpackage' (hranges a ha),
      Store.draft_of_predicates_eq_nil (s := l.bare.store) rfl,
      Store.resolve?_eq (s := l.store) (t := l.bare.store) rfl]
  refine ⟨b.package component, _, AdvisoryBatch.isAbout_iff.mpr rfl,
    allDrafts_on clock l source component b, ?_, ?_⟩
  · rw [allDrafts_on, List.map_map]
    congr 2
    exact (List.map_congr_left hdrafts).symm
  · rw [List.forall₂_map_right_iff, List.forall₂_same]
    intro a ha
    apply rangesDescribe_of_map_eq_candidates
    exact congrArg Draft.software (hl.withoutRows_draft source hpackage' (hranges a ha))

/-- A ledger that has one of the predicates of `repeatedBatch`, in the row 1. -/
def stocked : Ledger :=
  ⟨(Store.empty.perform (.synchronize ⟨.blank .snyk (some "Z"),
    [.ofCoordinate ⟨"npm", none, "left-pad", none⟩ (.ofExpression "<2")]⟩)).2, 0⟩

theorem stocked_built : stocked.store.Built := by
  apply Store.Built.empty.operation
  intro p hp
  rw [List.mem_singleton.mp hp]
  exact Store.Built.empty.settledIn ⟨"npm", none, "left-pad", .ofExpression "<2", rfl⟩

/-- The batch is about the predicate in the row and about another one. -/
theorem drafts_independent_of_stored_repeatedBatch :
    let clock := fun _ => (Instant.ofEpoch? 0 0).get (by decide)
    ((candidates (repeatedBatch.package none) ["<2", "<3"]).map fun p =>
      (stocked.store.settle p).row) = [some 1, none] ∧
    ∃ package ds, repeatedBatch.IsAbout none package ∧
      ((session clock).drafts .snyk none repeatedBatch).on stocked = (.ok ds, stocked) ∧
      ((session clock).drafts .snyk none repeatedBatch).on stocked.bare
        = (.ok (ds.map Draft.withoutRows), stocked.bare) ∧
      List.Forall₂ (fun a d => RangesDescribe package a.ranges d.software) repeatedBatch.advisories
        ds := by
  intro clock
  have hpackage : (repeatedBatch.package none).all Coordinate.isUnseparated = true := by
    decide +kernel
  refine ⟨by decide +kernel, ?_⟩
  apply drafts_independent_of_stored clock stocked_built .snyk none repeatedBatch
  · intro c hc
    rw [Option.all_eq_true] at hpackage
    exact hpackage c (AdvisoryBatch.isAbout_iff.mp hc)
  · decide

end Ledger
end AdvisoryLedger
