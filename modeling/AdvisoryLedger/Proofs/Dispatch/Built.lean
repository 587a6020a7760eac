import AdvisoryLedger.Proofs.Dispatch.Moments
import AdvisoryLedger.Proofs.Session.Staleness
import AdvisoryLedger.Proofs.Session.Versions

/-!
# Stores that were built

A predicate comes into a store in three steps that may lie far apart. It is made from its
parts, it is settled in the store as it is then, and it is written at some later time, when
other workers may have written to the store as well. `Store.Built` says of a store that
everything in it came about in this way, whatever the stores were in which the predicates
were settled, as long as those were built, too.

A store that was built is well-formed and consistent (`Built.invariant`). What builds stores
are the runs of workers: a step of a worker keeps that the store was built and that the
predicates which workers have in hand were settled in stores that were (`Task.IsBuilt`), so
the store was built at every moment of a run.
-/

namespace AdvisoryLedger

/-- The predicate was made from its parts and then settled in one of some stores. -/
def Predicate.SettledIn (stores : Store → Prop) (p : Predicate) : Prop :=
  ∃ s made, stores s ∧ made.IsMade ∧ p = s.settle made

namespace Store

variable {s : Store} {p : Predicate}

/-- The stores that come about when operations are performed one after another, beginning with
the empty store, and only predicates are written that were settled in such stores. -/
inductive Built : Store → Prop
  | empty : Built .empty
  | perform {s : Store} {op : Operation} (seen : Store → Prop) :
      Built s → (∀ t, seen t → Built t) →
      (∀ p ∈ (Ledger.Request.operation op).written, p.SettledIn seen) →
      Built (s.perform op).2

/-- The representation invariant and the one of versions hold in every store that was built. -/
theorem Built.invariant (h : s.Built) : s.WellFormed ∧ s.IsConsistent := by
  induction h with
  | empty => exact ⟨wellFormed_empty, by rintro r ⟨⟩⟩
  | @perform s op seen _ _ hsettled ih ihseen =>
      obtain ⟨hs, hconsistent⟩ := ih
      have hwritten : ∀ p ∈ (Ledger.Request.operation op).written, p.IsConsistent := by
        intro p hp
        obtain ⟨t, made, ht, hmade, rfl⟩ := hsettled p hp
        exact (ihseen t ht).2.settle hmade.isConsistent
      exact ⟨hs.perform op, (hconsistent.perform hs op hwritten).2⟩

theorem Built.wellFormed (h : s.Built) : s.WellFormed := h.invariant.1

theorem Built.isConsistent (h : s.Built) : s.IsConsistent := h.invariant.2

theorem Built.settledIn (h : s.Built) (hp : p.IsMade) : (s.settle p).SettledIn Built :=
  ⟨s, p, h, hp, rfl⟩

/-- It does not matter in which of the stores that were built the predicates were settled. -/
theorem Built.operation (h : s.Built) {op : Operation}
    (hwritten : ∀ p ∈ (Ledger.Request.operation op).written, p.SettledIn Built) :
    (s.perform op).2.Built :=
  .perform Built h (fun _ ht => ht) hwritten

end Store

namespace Ledger

variable {clock : Nat → Instant}

theorem store_attach_on (l : Ledger) (v : Vulnerability) (component : String) :
    (((session clock).attach v component).on l).2.store
      = (l.store.perform (.attach v component (clock l.readings))).2 := by
  show (l.attach clock v component).2.store = _
  unfold Ledger.attach
  simp only [Store.perform]
  cases l.store.attach v component (clock l.readings) <;> rfl

end Ledger

/-! ## Workers -/

/-- The predicates of the draft were settled in stores that were built. -/
def Draft.IsBuilt (d : Draft) : Prop := ∀ p ∈ d.software, p.SettledIn Store.Built

/-- The predicates that a worker has in hand were settled in stores that were built, and those
that it still wants to settle were made from their parts. -/
def Task.IsBuilt : Task → Prop
  | .request => True
  | .acquire _ _ => True
  | .draft n => ∀ d ∈ n.drafts, d.IsBuilt
  | .settle n _ settled wanted =>
    (∀ d ∈ n.drafts, d.IsBuilt) ∧ (∀ p ∈ settled, p.SettledIn Store.Built) ∧
      ∀ p ∈ wanted, p.IsMade
  | .write drafts => ∀ d ∈ drafts, d.IsBuilt
  | .tell _ drafts => ∀ d ∈ drafts, d.IsBuilt
  | .attach _ drafts => ∀ d ∈ drafts, d.IsBuilt

namespace Dispatcher

variable {π : Type} {d : Dispatcher Ledger π} {clock : Nat → Instant} {token : ApiToken}
  {component : Component} {f : RunState Ledger π}

/-- The store was built, and if a worker goes on, then so was what it has in hand. -/
def Builds (r : RunState Ledger π × Option Task) : Prop :=
  r.1.ledger.store.Built ∧ ∀ k ∈ r.2, k.IsBuilt

theorem builds_last (hf : f.ledger.store.Built) : Builds (f, none) := ⟨hf, by rintro k ⟨⟩⟩

theorem builds_next {k : Task} (hf : f.ledger.store.Built) (hk : k.IsBuilt) :
    Builds (f, some k) := by
  refine ⟨hf, ?_⟩
  rintro _ ⟨⟩
  exact hk

/-- A reply is no predicate yet. -/
theorem builds_request (hf : f.ledger.store.Built) :
    Builds (d.act token component .request f) := by
  simp only [act]
  split
  · exact builds_last hf
  · split
    · exact builds_last hf
    · split
      · exact builds_last hf
      · exact builds_next hf trivial

/-- An advisory is drafted once all its candidates are settled, and these are made. -/
theorem builds_draft {n : Drafting} (hf : f.ledger.store.Built)
    (hn : ∀ draft ∈ n.drafts, draft.IsBuilt) : Builds (d.act token component (.draft n) f) := by
  obtain ⟨package, drafts, rest⟩ := n
  cases rest with
  | nil => exact builds_next hf hn
  | cons a rest =>
      exact builds_next hf ⟨hn, by rintro p ⟨⟩, fun p hp => isMade_of_mem_candidates hp⟩

theorem builds_settle (hd : d.session = Ledger.session clock) {n : Drafting}
    {record : Vulnerability} {settled wanted : List Predicate} (hf : f.ledger.store.Built)
    (h : (Task.settle n record settled wanted).IsBuilt) :
    Builds (d.act token component (.settle n record settled wanted) f) := by
  obtain ⟨hn, hsettled, hwanted⟩ := h
  cases wanted with
  | nil =>
      apply builds_next hf
      exact List.forall_mem_append.mpr ⟨hn, List.forall_mem_singleton.mpr hsettled⟩
  | cons p wanted =>
      obtain ⟨hp, hrest⟩ := List.forall_mem_cons.mp hwanted
      simp only [act, hd, Ledger.settlePredicate_on]
      refine builds_next hf ⟨hn, ?_, hrest⟩
      exact List.forall_mem_append.mpr
        ⟨hsettled, List.forall_mem_singleton.mpr (hf.settledIn hp)⟩

/-- The draft is written to a store that need not be one in which it was settled. -/
theorem builds_write (hd : d.session = Ledger.session clock) {drafts : List Draft}
    (hf : f.ledger.store.Built) (h : ∀ draft ∈ drafts, draft.IsBuilt) :
    Builds (d.act token component (.write drafts) f) := by
  cases drafts with
  | nil => exact builds_last hf
  | cons draft drafts =>
      obtain ⟨hdraft, hrest⟩ := List.forall_mem_cons.mp h
      have hstore : (((Ledger.session clock).synchronize draft).on f.ledger).2.store.Built := by
        rw [Ledger.store_synchronize_on]
        exact hf.operation hdraft
      simp only [act, hd]
      generalize ((Ledger.session clock).synchronize draft).on f.ledger = r at hstore ⊢
      rcases r with ⟨e | v, l⟩
      · cases e with
        | payload fault => exact builds_next hstore hrest
        | _ => exact builds_last hstore
      · exact builds_next hstore hrest

theorem builds_attach (hd : d.session = Ledger.session clock) {v : Vulnerability}
    {drafts : List Draft} (hf : f.ledger.store.Built) (h : ∀ draft ∈ drafts, draft.IsBuilt) :
    Builds (d.act token component (.attach v drafts) f) := by
  have hstore : (((Ledger.session clock).attach v component.id).on f.ledger).2.store.Built := by
    rw [Ledger.store_attach_on]
    exact hf.operation (by rintro p ⟨⟩)
  simp only [act, hd]
  generalize ((Ledger.session clock).attach v component.id).on f.ledger = r at hstore ⊢
  rcases r with ⟨_ | _, l⟩
  · exact builds_last hstore
  · exact builds_next hstore h

/-- Whatever a worker does next builds. -/
theorem builds_act (hd : d.session = Ledger.session clock) {k : Task}
    (hf : f.ledger.store.Built) (hk : k.IsBuilt) : Builds (d.act token component k f) := by
  cases k with
  | request => exact builds_request hf
  | acquire package b =>
      simp only [act, hd, Ledger.acquire_on]
      exact builds_next hf (by rintro draft ⟨⟩)
  | draft n => exact builds_draft hf hk
  | settle n record settled wanted => exact builds_settle hd hf hk
  | write drafts => exact builds_write hd hf hk
  | tell v drafts => exact builds_next hf hk
  | attach v drafts => exact builds_attach hd hf hk

/-- The entries may be components or come with something besides. -/
theorem built_keeps {ε : Type} (hd : d.session = Ledger.session clock)
    {server : Server (RunState Ledger π) ε Task} {ofEntry : ε → Component}
    (hserver : server.Watches (d.server token) ofEntry id) (entries : List ε) :
    server.Keeps entries fun jobs f =>
      f.ledger.store.Built ∧ ∀ job ∈ jobs, ∀ k ∈ job.2, k.IsBuilt where
  take := by
    intro jobs f e _ h
    refine ⟨h.1, List.forall_mem_append.mpr ⟨h.2, List.forall_mem_singleton.mpr ?_⟩⟩
    rw [hserver.start]
    rintro k ⟨⟩
    trivial
  act := by
    intro before after e k k' f g h hact
    obtain ⟨hbefore, hrest⟩ := List.forall_mem_append.mp h.2
    obtain ⟨hk, hafter⟩ := List.forall_mem_cons.mp hrest
    have heq : d.act token (ofEntry e) k f = (g, k') := by
      refine (hserver.act e k f).trans ?_
      rw [hact]
      rfl
    have hbuilds : Builds (g, k') := by
      rw [← heq]
      exact builds_act hd h.1 (hk k rfl)
    exact ⟨hbuilds.1, List.forall_mem_append.mpr ⟨hbefore,
      List.forall_mem_cons.mpr ⟨hbuilds.2, hafter⟩⟩⟩

/-- **Runs build.** At every moment of a run on tables that were built the tables were built. -/
theorem Moment.built (hd : d.session = Ledger.session clock) {components : List Component}
    {g : RunState Ledger π} {s : PagesState (Component × Nat) Task}
    (h : d.Moment token components f s g) (hf : f.ledger.store.Built) : g.ledger.store.Built := by
  have hsound := (PagesState.Sound.start (d.server token).placed d.settings.workers
    (pages d.settings.pageLength components.zipIdx) f).steps d.workers_pos h
  obtain ⟨jobs, hg, -⟩ := hsound.keeps (built_keeps hd (watches_placed _) _) d.workers_pos
    ⟨hf, by rintro job ⟨⟩⟩
  exact hg

/-- So a run leaves tables that were built. -/
theorem DispatchRun.built (hd : d.session = Ledger.session clock) {components : List Component}
    {g : RunState Ledger π} (h : d.DispatchRun token components f g)
    (hf : f.ledger.store.Built) : g.ledger.store.Built := by
  have hserver : (d.server token).Watches (d.server token) id id := ⟨fun _ => rfl, fun _ _ _ => rfl⟩
  exact (PagesRun.keeps_pages (built_keeps hd hserver components) d.workers_pos
    ⟨hf, by rintro job ⟨⟩⟩ h).1

end Dispatcher
end AdvisoryLedger
