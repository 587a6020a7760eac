import AdvisoryLedger.Dispatch.Batch
import AdvisoryLedger.Proofs.Store.Reachable

/-!
# What a batch does to the tables

On the session of the tables no step of a batch can fail except that a draft without an
identifier is passed over. So a batch comes to this: its advisories become drafts, which
depends on nothing but the weaknesses and predicates that the store had before, and then
each draft that can be stored is written and attached. `Written` says the second part, one
draft at a time from the last one on, and `writeBatch_spec` is the whole.
-/

namespace AdvisoryLedger

/-! ## Units of work -/

namespace Work

variable {σ α β : Type}

theorem on_bind_of_ok {w : Work σ α} {f : α → Work σ β} {s t : σ} {a : α}
    (h : w.on s = (.ok a, t)) : (w >>= f).on s = (f a).on t := by
  rw [on_bind, h]

/-- Steps that leave the state alone can be taken one by one on the same state. -/
theorem on_mapM {f : α → Work σ β} {g : α → β} {s : σ} (h : ∀ a, (f a).on s = (.ok (g a), s))
    (xs : List α) : (xs.mapM f).on s = (.ok (xs.map g), s) := by
  induction xs with
  | nil => rfl
  | cons x xs ih =>
      rw [List.mapM_cons, on_bind_of_ok (h x), on_bind_of_ok ih]
      rfl

end Work

/-! ## Drafts -/

/-- A candidate was made for the package and one of the ranges. -/
theorem mem_candidates {package : Option Coordinate} {ranges : List String} {p : Predicate}
    (h : p ∈ candidates package ranges) :
    ∃ c, package = some c ∧ ∃ range ∈ ranges, p = .ofCoordinate c (.ofExpression range) := by
  cases package with
  | none => cases h
  | some c =>
      obtain ⟨bounds, hbounds, rfl⟩ := List.mem_map.mp h
      obtain ⟨range, hrange, rfl⟩ := List.mem_map.mp (List.mem_of_mem_filter hbounds)
      exact ⟨c, rfl, range, hrange, rfl⟩

namespace Store

/-- The stored predicate with the key of a candidate, or the candidate. -/
def settle (s : Store) (p : Predicate) : Predicate := (s.find? p).getD p

/-- The draft of an advisory about a package. -/
def draft (s : Store) (source : Source) (package : Option Coordinate) (a : Advisory) : Draft :=
  ⟨a.vulnerability source s.resolve?, (candidates package a.ranges).map s.settle⟩

/-- The drafts of a batch that was asked for a package. -/
def drafts (s : Store) (source : Source) (package : Coordinate) (b : AdvisoryBatch) : List Draft :=
  b.advisories.map (s.draft source (b.package (some package)))

/-- Settling a candidate does not change its key. -/
theorem identity_settle {s : Store} (h : s.WellFormed) (p : Predicate) :
    (s.settle p).identity = p.identity := by
  unfold settle find?
  cases hrow : s.predicateRow? p.identity with
  | none => rfl
  | some r =>
      obtain ⟨hr, hkey⟩ := (predicateRow?_eq_some_iff h).mp hrow
      exact (h.identity_eq r hr).trans hkey

/-- Problems name the same weaknesses while the table of weaknesses is the same. -/
theorem resolve?_eq {s t : Store} (h : t.weaknesses = s.weaknesses) : t.resolve? = s.resolve? := by
  funext text
  unfold resolve? weakness?
  rw [h]

end Store

namespace Ledger

variable (clock : Nat → Instant)

theorem acquire_on (l : Ledger) : (session clock).acquire.on l = (.ok (), l) := rfl

theorem settlePredicate_on (l : Ledger) (p : Predicate) :
    ((session clock).settlePredicate p).on l = (.ok (l.store.settle p), l) := rfl

theorem draft_on (l : Ledger) (source : Source) (package : Option Coordinate) (a : Advisory) :
    ((session clock).draft source package a).on l = (.ok (l.store.draft source package a), l) := by
  unfold Session.draft
  have hget : (get : Work Ledger Ledger).on l = (.ok l, l) := rfl
  rw [Work.on_bind_of_ok hget, Work.on_bind_of_ok (Work.on_mapM (settlePredicate_on clock l) _)]
  rfl

theorem drafts_on (l : Ledger) (source : Source) (package : Coordinate) (b : AdvisoryBatch) :
    ((session clock).drafts source (some package) b).on l
      = (.ok (l.store.drafts source package b), l) :=
  Work.on_mapM (draft_on clock l source _) b.advisories

/-- A batch is the writing of its drafts. -/
theorem writeBatch_eq (l : Ledger) (source : Source) (package : Coordinate) (component : String)
    (b : AdvisoryBatch) (progress : Progress) :
    (session clock).writeBatch source package component b progress l
      = (session clock).writeDrafts component (l.store.drafts source package b) progress l := by
  unfold Session.writeBatch
  simp only [Work.on_bind_of_ok (acquire_on clock l), drafts_on]

end Ledger

/-! ## Writing drafts -/

/-- The event of a draft, if it can be stored. -/
def Draft.event? (d : Draft) : Option IndexEvent :=
  (Store.storableId? d.record).map fun vulnId => ⟨d.record.source, vulnId⟩

/-- The progress after some drafts were written. -/
def Progress.tell (p : Progress) (ds : List Draft) : Progress :=
  ⟨p.events ++ ds.filterMap Draft.event?, p.synchronized + (ds.filterMap Draft.event?).length⟩

theorem Progress.tell_nil (p : Progress) : p.tell [] = p := by
  simp [tell]

theorem Progress.tell_append (p : Progress) (ds ds' : List Draft) :
    p.tell (ds ++ ds') = (p.tell ds).tell ds' := by
  simp [tell, Nat.add_assoc]

theorem Progress.tell_of_storableId?_eq_none (p : Progress) {d : Draft}
    (hid : Store.storableId? d.record = .none) : p.tell [d] = p := by
  simp [tell, Draft.event?, hid]

namespace Store

variable {s t u : Store} {component : String}

/-- The store `t` is `s` after drafts were written for a component. -/
inductive Written (component : String) (s : Store) : List Draft → Store → Prop
  | nil : Written component s [] s
  /-- A draft without an identifier is passed over. -/
  | skip {ds : List Draft} {d : Draft} {t : Store} :
    Written component s ds t → storableId? d.record = none → Written component s (ds ++ [d]) t
  /-- Any other one is written and attached. -/
  | write {ds : List Draft} {d : Draft} {vulnId : String} {row : Nat}
      {kept : List (Nat × Predicate)} {t u v : Store} :
    Written component s ds t → storableId? d.record = some vulnId →
    Synchronized t d vulnId row kept u → Attached u component row v →
    Written component s (ds ++ [d]) v

theorem Synchronized.row_mem {d : Draft} {vulnId : String} {row : Nat}
    {kept : List (Nat × Predicate)} (h : Synchronized s d vulnId row kept t) :
    row ∈ t.vulnerabilityIds :=
  List.mem_map.mpr ⟨_, h.vulnerabilities.mem, rfl⟩

theorem Written.wellFormed {ds : List Draft} (h : Written component s ds t) (hs : s.WellFormed) :
    t.WellFormed := by
  induction h with
  | nil => exact hs
  | skip _ _ ih => exact ih
  | write _ _ hsync hatt _ => exact hatt.wellFormed hsync.wellFormed hsync.row_mem

theorem Written.extends {ds : List Draft} (h : Written component s ds t) : s.Extends t := by
  induction h with
  | nil => exact .refl s
  | skip _ _ ih => exact ih
  | write _ _ hsync hatt ih => exact ih.trans (hsync.extends.trans hatt.extends)

theorem Written.components {ds : List Draft} (h : Written component s ds t) :
    t.components = s.components := by
  induction h with
  | nil => rfl
  | skip _ _ ih => exact ih
  | write _ _ hsync hatt ih =>
      rw [hatt.eq]
      exact hsync.components.trans ih

theorem Written.weaknesses {ds : List Draft} (h : Written component s ds t) :
    t.weaknesses = s.weaknesses := by
  induction h with
  | nil => rfl
  | skip _ _ ih => exact ih
  | write _ _ hsync hatt ih =>
      rw [hatt.eq]
      exact hsync.weaknesses.trans ih

end Store

namespace Ledger

open Store (Written)

variable {clock : Nat → Instant} {component : String}

/-- A record that was just written is told with its draft's event. -/
theorem record_answer (p : Progress) {d : Draft} {vulnId : String}
    (hid : Store.storableId? d.record = some vulnId) (row : Nat) (kept : List (Nat × Predicate)) :
    p.record (Store.answer d row kept) = p.tell [d] := by
  have hvulnId := (Store.storableId?_eq_some_iff.mp hid).1
  simp [Progress.record, Progress.tell, Draft.event?, IndexEvent.commit?, Store.answer, hid,
    hvulnId]

/-- A draft without an identifier is refused. -/
theorem synchronize_on_of_storableId?_eq_none (clock : Nat → Instant) (l : Ledger) {d : Draft}
    (hid : Store.storableId? d.record = none) :
    ((session clock).synchronize d).on l = (.error (.payload .missingIdentifier), l) := by
  show l.synchronize d = _
  unfold Ledger.synchronize
  rw [Store.synchronize_of_storableId?_eq_none hid]

/-- Any other one is written. -/
theorem synchronize_on (clock : Nat → Instant) (l : Ledger) (hl : l.store.WellFormed) {d : Draft}
    {vulnId : String} (hid : Store.storableId? d.record = some vulnId) :
    ∃ row kept t, ((session clock).synchronize d).on l
        = (.ok (Store.answer d row kept), { l with store := t }) ∧
      Store.Synchronized l.store d vulnId row kept t := by
  obtain ⟨row, kept, t, hok, ht⟩ := Store.synchronize_spec hl hid
  refine ⟨row, kept, t, ?_, ht⟩
  show l.synchronize d = _
  unfold Ledger.synchronize
  rw [hok]

/-- A vulnerability with a row is attached. -/
theorem attach_on (clock : Nat → Instant) (l : Ledger) (hl : l.store.WellFormed) {v : Vulnerability}
    {row : Nat} (hrow : v.row = some (row : Int)) (hmem : row ∈ l.store.vulnerabilityIds)
    (component : String) :
    ∃ known t, ((session clock).attach v component).on l = (.ok known, ⟨t, l.readings + 1⟩) ∧
      Store.Attached l.store component row t := by
  obtain ⟨known, t, hok, ht⟩ := Store.attach_spec hl hrow hmem component (clock l.readings)
  refine ⟨known, t, ?_, ht⟩
  show Ledger.attach clock _ _ _ = _
  unfold Ledger.attach
  rw [hok]

/-- The writing of drafts never fails. The drafts `done` were written before. -/
theorem writeDrafts_spec {s : Store} (hs : s.WellFormed) {done : List Draft} {l : Ledger}
    (h : Written component s done l.store) (ds : List Draft) (p : Progress) :
    ∃ l', (session clock).writeDrafts component ds p l = (.ok (), p.tell ds, l') ∧
      Written component s (done ++ ds) l'.store := by
  -- on the drafts that are left, from any store that those before them made
  induction ds generalizing done l p with
  | nil => exact ⟨l, by rw [Progress.tell_nil]; rfl, by rw [List.append_nil]; exact h⟩
  | cons d ds ih =>
      have hl := h.wellFormed hs
      have htells : p.tell (d :: ds) = (p.tell [d]).tell ds := p.tell_append [d] ds
      rw [htells, List.append_cons]
      cases hid : Store.storableId? d.record with
      | none =>
          have hsync := synchronize_on_of_storableId?_eq_none clock l hid
          rw [p.tell_of_storableId?_eq_none hid]
          obtain ⟨l', heq, hw⟩ := ih (h.skip hid) p
          exact ⟨l', by rw [Session.writeDrafts_skip hsync]; exact heq, hw⟩
      | some vulnId =>
          obtain ⟨row, kept, t, hsync, ht⟩ := synchronize_on clock l hl hid
          obtain ⟨known, u, hatt, hu⟩ := attach_on clock { l with store := t } ht.wellFormed
            (v := Store.answer d row kept) rfl ht.row_mem component
          obtain ⟨l', heq, hw⟩ := ih (l := ⟨u, l.readings + 1⟩) (h.write hid ht hu) (p.tell [d])
          refine ⟨l', ?_, hw⟩
          rw [Session.writeDrafts_stored hsync hatt, record_answer p hid]
          exact heq

/-- A batch is written from beginning to end. -/
theorem writeBatch_spec (clock : Nat → Instant) (component : String) {l : Ledger}
    (hl : l.store.WellFormed) (source : Source) (package : Coordinate) (b : AdvisoryBatch)
    (p : Progress) :
    ∃ l', (session clock).writeBatch source package component b p l
        = (.ok (), p.tell (l.store.drafts source package b), l') ∧
      Written component l.store (l.store.drafts source package b) l'.store := by
  rw [writeBatch_eq]
  exact writeDrafts_spec hl .nil _ p

end Ledger
end AdvisoryLedger
