import AdvisoryLedger.Proofs.Dispatch.Interleaving
import AdvisoryLedger.Proofs.Dispatch.Replies
import AdvisoryLedger.Proofs.Dispatch.Schedule

/-!
# What a run owes to its entries

While workers serve the entries of a run, the store, the events and the counts are made of
what was done for each entry so far. `Share` is what was done for one entry. `Stage` ties it
to the place where the worker of the entry stands: what was written and what is left to be
written are the drafts of the entry, as they would be on the store `s₀` at the beginning,
however far the store has come since.

`Accounts` says what all shares together make: what was written is an interleaving of what
was written for each entry, and what was told and what was attached are the same drafts but
for those whose workers have not come to it. Each thing that a worker does keeps this, so it
holds when all entries are finished (`keeps_underway`).

What is left to be done for an entry is a list of deeds that does not depend on the other
entries (`upcoming`), and each thing that a worker does is the first of them.
-/

namespace AdvisoryLedger
namespace Dispatcher

variable {π : Type}

/-! ## The share of one entry -/

/-- What was done for an entry: what was written, and of it what is not told and what is not
attached yet. -/
structure Share where
  entry : Entry
  task : Option Task
  written : List (String × Draft)
  untold : List (String × Draft)
  unattached : List (String × Draft)

/-- The entry of a share, with the place where its worker stands. -/
def Share.job (sh : Share) : Entry × Option Task := (sh.entry, sh.task)

/-- A draft as it is written for an entry, apart from rows. -/
def draftFor (e : Entry) (draft : Draft) : String × Draft := (e.component.id, draft.withoutRows)

/-- The batch of an entry was drafted as on the store `s₀`, up to the advisories `rest`. -/
def Drafted (d : Dispatcher Ledger π) (token : ApiToken) (s₀ : Store) (e : Entry) (n : Drafting)
    (rest : List Advisory) : Prop :=
  ∃ package b made, d.found? token e = some (package, b) ∧ n.package = b.package (some package) ∧
    b.advisories = made ++ rest ∧
    n.drafts.map Draft.withoutRows
      = made.map fun a => (s₀.draft d.source n.package a).withoutRows

/-- The record is that of a draft which was written: the store has its row, and telling the
record is telling the draft. -/
structure Recorded (s : Store) (x : String × Draft) (v : Vulnerability) : Prop where
  row : ∃ r ∈ s.vulnerabilities, v.row = some (r.id : Int) ∧ x.2.key? = some r.key
  told : ∀ p : Progress, p.record v = p.tell [x.2]

/-- A share fits the place where its worker stands. -/
inductive Stage (d : Dispatcher Ledger π) (token : ApiToken) (s₀ s : Store) : Share → Prop
  | request {e} : Stage d token s₀ s ⟨e, some .request, [], [], []⟩
  | acquire {e package b} : d.found? token e = some (package, b) →
    Stage d token s₀ s ⟨e, some (.acquire package b), [], [], []⟩
  | draft {e n} : d.Drafted token s₀ e n n.rest →
    Stage d token s₀ s ⟨e, some (.draft n), [], [], []⟩
  | settle {e n a settled tried wanted} : d.Drafted token s₀ e n (a :: n.rest) →
    candidates n.package a.ranges = tried ++ wanted →
    settled.map Predicate.withoutRow = tried.map (fun p => (s₀.settle p).withoutRow) →
    Stage d token s₀ s
      ⟨e, some (.settle n (a.vulnerability d.source s₀.resolve?) settled wanted), [], [], []⟩
  | write {e written drafts} : (d.found? token e).isSome = true →
    written ++ drafts.map (draftFor e) = d.draftsOf token s₀ e →
    Stage d token s₀ s ⟨e, some (.write drafts), written, [], []⟩
  | tell {e written draft drafts v} : (d.found? token e).isSome = true →
    written ++ [draftFor e draft] ++ drafts.map (draftFor e) = d.draftsOf token s₀ e →
    Recorded s (draftFor e draft) v →
    Stage d token s₀ s ⟨e, some (.tell v drafts), written ++ [draftFor e draft],
      [draftFor e draft], [draftFor e draft]⟩
  | attach {e written draft drafts v} : (d.found? token e).isSome = true →
    written ++ [draftFor e draft] ++ drafts.map (draftFor e) = d.draftsOf token s₀ e →
    Recorded s (draftFor e draft) v →
    Stage d token s₀ s ⟨e, some (.attach v drafts), written ++ [draftFor e draft],
      [], [draftFor e draft]⟩
  | finish {e} : Stage d token s₀ s ⟨e, none, d.draftsOf token s₀ e, [], []⟩

variable {d : Dispatcher Ledger π} {token : ApiToken} {s₀ s t : Store} {sh sh' : Share}

theorem Recorded.mono {x : String × Draft} {v : Vulnerability} (h : Recorded s x v)
    (hst : s.Extends t) : Recorded t x v := by
  obtain ⟨r, hr, hrow, hkey⟩ := h.row
  obtain ⟨r', hr', hid, hkey'⟩ := hst.vulnerabilities r hr
  exact ⟨⟨r', hr', hid ▸ hrow, hkey' ▸ hkey⟩, h.told⟩

/-- What the other workers do leaves a share as it is. -/
theorem Stage.mono (h : d.Stage token s₀ s sh) (hst : s.Extends t) : d.Stage token s₀ t sh := by
  cases h with
  | request => exact .request
  | acquire hfound => exact .acquire hfound
  | draft hdrafted => exact .draft hdrafted
  | settle hdrafted hcandidates hsettled => exact .settle hdrafted hcandidates hsettled
  | write hfound hdrafts => exact .write hfound hdrafts
  | tell hfound hdrafts hrecorded => exact .tell hfound hdrafts (hrecorded.mono hst)
  | attach hfound hdrafts hrecorded => exact .attach hfound hdrafts (hrecorded.mono hst)
  | finish => exact .finish

/-- Only drafts of the entry are written for it. -/
theorem Stage.written_subset (h : d.Stage token s₀ s sh) :
    sh.written ⊆ d.draftsOf token s₀ sh.entry := by
  cases h with
  | write _ hdrafts =>
      rw [← hdrafts]
      exact List.subset_append_left _ _
  | tell _ hdrafts _ =>
      rw [← hdrafts]
      exact List.subset_append_left _ _
  | attach _ hdrafts _ =>
      rw [← hdrafts]
      exact List.subset_append_left _ _
  | finish => exact List.Subset.refl _
  | _ => exact List.nil_subset _

/-! ## What is left to be done -/

/-- What a worker does when it has its turn, with the draft that it does it with. -/
inductive Deed
  | pass
  | skip (draft : Draft)
  | write (draft : Draft)
  | tell (draft : Draft)
  | attach (draft : Draft)

namespace Deed

/-- What is written for a component, or passed over. -/
def written (component : String) : Deed → List (String × Draft)
  | skip draft | write draft => [(component, draft)]
  | _ => []

/-- What need not be told any more. -/
def told (component : String) : Deed → List (String × Draft)
  | skip draft | tell draft => [(component, draft)]
  | _ => []

/-- What need not be attached any more. -/
def attached (component : String) : Deed → List (String × Draft)
  | skip draft | attach draft => [(component, draft)]
  | _ => []

/-- The deeds that make drafts of advisories. -/
def drafting (package : Option Coordinate) (advisories : List Advisory) : List Deed :=
  advisories.flatMap (fun a => pass :: (candidates package a.ranges).map (fun _ => pass) ++ [pass])
    ++ [pass]

/-- The deeds that write drafts. -/
def writing (drafts : List Draft) : List Deed :=
  drafts.flatMap (fun draft =>
    if draft.key?.isSome then [write draft, tell draft, attach draft] else [skip draft]) ++ [pass]

end Deed

/-- What will be done for the entry of a share. It does not depend on what the store has become
since it was `s₀`. -/
def upcoming (d : Dispatcher Ledger π) (token : ApiToken) (s₀ : Store) (sh : Share) : List Deed :=
  let own := (d.draftsOf token s₀ sh.entry).map (·.2)
  match sh.task with
  | none => []
  | some .request =>
    match d.found? token sh.entry with
    | none => [.pass]
    | some (package, b) =>
      if b.advisories.isEmpty then [.pass]
      else
        .pass :: .pass :: Deed.drafting (b.package (some package)) b.advisories ++ Deed.writing own
  | some (.acquire package b) =>
    .pass :: Deed.drafting (b.package (some package)) b.advisories ++ Deed.writing own
  | some (.draft n) => Deed.drafting n.package n.rest ++ Deed.writing own
  | some (.settle n _ _ wanted) =>
    wanted.map (fun _ => .pass) ++ .pass :: Deed.drafting n.package n.rest ++ Deed.writing own
  | some (.write drafts) | some (.tell _ drafts) | some (.attach _ drafts) =>
    sh.untold.map (fun x => .tell x.2) ++ sh.unattached.map (fun x => .attach x.2)
      ++ Deed.writing (drafts.map Draft.withoutRows)

/-! ## One of many gets further -/

section Replace

variable {β : Type} {x y z : β} {first last : List β}

theorem mem_replace (h : z ∈ first ++ y :: last) : z = y ∨ z ∈ first ++ x :: last := by
  rcases List.mem_append.mp h with hold | hrest
  · exact .inr (List.mem_append_left _ hold)
  · rcases List.mem_cons.mp hrest with rfl | hold
    · exact .inl rfl
    · exact .inr (List.mem_append_right _ (List.mem_cons_of_mem _ hold))

theorem countP_replace {q : β → Bool} (hx : q x = false) :
    (first ++ y :: last).countP q = (first ++ x :: last).countP q + [y].countP q := by
  have hnone : [x].countP q = 0 := by simp [hx]
  rw [List.append_cons first y, List.append_cons first x]
  simp only [List.countP_append, hnone]
  omega

/-- What is added for one owner is added to the whole. -/
theorem perm_replace [DecidableEq β] {xs xs' own own' new ds : List β}
    (h : (xs ++ (first ++ (own ++ last))).Perm ds) (hown : (xs' ++ own').Perm (xs ++ own ++ new)) :
    (xs' ++ (first ++ (own' ++ last))).Perm (ds ++ new) := by
  rw [List.perm_iff_count] at h hown ⊢
  intro x
  have hx := h x
  have hownx := hown x
  simp only [List.count_append] at hx hownx ⊢
  omega

end Replace

/-! ## All shares -/

/-- The entry of a share is finished and was processed. -/
def Share.isProcessed (d : Dispatcher Ledger π) (token : ApiToken) (sh : Share) : Bool :=
  sh.task.isNone && (d.found? token sh.entry).isSome

/-- The entry of a share is finished and failed. -/
def Share.isFailed (d : Dispatcher Ledger π) (token : ApiToken) (sh : Share) : Bool :=
  sh.task.isNone && (d.found? token sh.entry).isNone

/-- Shares make the run `g` of the run `f`, where the drafts `ds` were written, in this order,
and those in `told` and `attached` were told and attached. -/
structure Accounts (d : Dispatcher Ledger π) (token : ApiToken) (entries : List Entry)
    (f : RunState Ledger π) (shares : List Share) (ds told attached : List (String × Draft))
    (g : RunState Ledger π) : Prop where
  entries : ∀ sh ∈ shares, sh.entry ∈ entries
  stages : ∀ sh ∈ shares, d.Stage token f.ledger.store g.ledger.store sh
  written : Interleaved (shares.map (·.written)) ds
  reached : f.ledger.store.Reached ds attached g.ledger.store
  attached : (attached ++ shares.flatMap (·.unattached)).Perm ds
  progress : g.progress = f.progress.tell (told.map (·.2))
  told : (told ++ shares.flatMap (·.untold)).Perm ds
  processed : g.processed = f.processed + shares.countP (·.isProcessed d token)
  failed : g.failed = f.failed + shares.countP (·.isFailed d token)

/-- A run that shares account for, where they have these entries and tasks. -/
def Underway (d : Dispatcher Ledger π) (token : ApiToken) (entries : List Entry)
    (f : RunState Ledger π) (jobs : List (Entry × Option Task)) (g : RunState Ledger π) : Prop :=
  ∃ shares ds told attached, shares.map Share.job = jobs ∧
    d.Accounts token entries f shares ds told attached g

/-- When the worker of an entry does the next thing for it, that is the first of the deeds that
are left to be done, and shares account for the run again. The entries of the shares `before` and
`after` were taken earlier and later. -/
def Advances (d : Dispatcher Ledger π) (token : ApiToken) (entries : List Entry)
    (f : RunState Ledger π) (before after : List Share) (sh : Share)
    (ds told attached : List (String × Draft)) (k : Task) (g : RunState Ledger π) : Prop :=
  ∃ deed sh', sh'.job = (sh.entry, ((d.entryServer token).act sh.entry k g).2) ∧
    d.upcoming token f.ledger.store sh = deed :: d.upcoming token f.ledger.store sh' ∧
    d.Accounts token entries f (before ++ sh' :: after)
      (ds ++ deed.written sh.entry.component.id) (told ++ deed.told sh.entry.component.id)
      (attached ++ deed.attached sh.entry.component.id)
      ((d.entryServer token).act sh.entry k g).1

section Accounts

variable {entries : List Entry} {f g g' : RunState Ledger π} {shares before after : List Share}
  {ds told attached : List (String × Draft)}

theorem Underway.start (hf : f.ledger.store.WellFormed) : d.Underway token entries f [] f := by
  refine ⟨[], [], [], [], rfl, ?_⟩
  exact ⟨by simp, by simp, .nil (by simp), .refl hf, .refl _, (Progress.tell_nil _).symm, .refl _,
    rfl, rfl⟩

/-- An entry that is taken has a share in nothing. -/
theorem Underway.take {jobs : List (Entry × Option Task)} {e : Entry} (he : e ∈ entries)
    (h : d.Underway token entries f jobs g) :
    d.Underway token entries f (jobs ++ [(e, some .request)]) g := by
  obtain ⟨shares, ds, told, attached, rfl, h⟩ := h
  refine ⟨shares ++ [⟨e, some .request, [], [], []⟩], ds, told, attached, ?_, ?_⟩
  · rw [List.map_append]
    rfl
  constructor
  · intro sh hsh
    rcases List.mem_append.mp hsh with hold | hlast
    · exact h.entries sh hold
    · rw [List.mem_singleton.mp hlast]
      exact he
  · intro sh hsh
    rcases List.mem_append.mp hsh with hold | hlast
    · exact h.stages sh hold
    · rw [List.mem_singleton.mp hlast]
      exact .request
  · rw [List.map_append]
    exact h.written.newPart
  · exact h.reached
  · rw [List.flatMap_append, List.flatMap_singleton, List.append_nil]
    exact h.attached
  · exact h.progress
  · rw [List.flatMap_append, List.flatMap_singleton, List.append_nil]
    exact h.told
  · rw [List.countP_append]
    exact h.processed
  · rw [List.countP_append]
    exact h.failed

theorem Accounts.advances {k : Task} (deed : Deed)
    (h : d.Accounts token entries f (before ++ sh' :: after)
      (ds ++ deed.written sh.entry.component.id) (told ++ deed.told sh.entry.component.id)
      (attached ++ deed.attached sh.entry.component.id) g')
    (hact : (d.entryServer token).act sh.entry k g = (g', sh'.task)) (hentry : sh'.entry = sh.entry)
    (hdeed : d.upcoming token f.ledger.store sh = deed :: d.upcoming token f.ledger.store sh') :
    d.Advances token entries f before after sh ds told attached k g := by
  refine ⟨deed, sh', ?_, hdeed, ?_⟩
  · rw [hact, ← hentry]
    rfl
  · rw [hact]
    exact h

/-- What was written is a draft of one of the entries. -/
theorem Accounts.exists_of_mem (h : d.Accounts token entries f shares ds told attached g)
    {x : String × Draft} (hx : x ∈ ds) : ∃ e ∈ entries, x ∈ d.draftsOf token f.ledger.store e := by
  obtain ⟨sh, hsh, hx⟩ := h.written.exists_of_mem hx
  exact ⟨sh.entry, h.entries sh hsh, (h.stages sh hsh).written_subset hx⟩

/-- The drafts that were written have the predicates that are described. -/
theorem Accounts.settled (h : d.Accounts token entries f shares ds told attached g)
    (hsep : ∀ e ∈ entries, d.isUnseparated token e = true) :
    f.ledger.store.Settled (d.Describes token entries) ds :=
  Dispatcher.settled hsep fun _ hx => h.exists_of_mem hx

/-! ## One thing that a worker does -/

/-- The share of one entry gets further while the others stay as they are. -/
theorem Accounts.replace (h : d.Accounts token entries f (before ++ sh :: after) ds told attached g)
    {new told' attached' : List (String × Draft)} (hentry : sh'.entry = sh.entry)
    (htask : sh.task.isSome = true) (hstage : d.Stage token f.ledger.store g'.ledger.store sh')
    (hext : g.ledger.store.Extends g'.ledger.store) (hwritten : sh'.written = sh.written ++ new)
    (hreached : f.ledger.store.Reached (ds ++ new) attached' g'.ledger.store)
    (hattached : (attached' ++ sh'.unattached).Perm (attached ++ sh.unattached ++ new))
    (hprogress : g'.progress = f.progress.tell (told'.map (·.2)))
    (htold : (told' ++ sh'.untold).Perm (told ++ sh.untold ++ new))
    (hprocessed : g'.processed = g.processed + [sh'].countP (·.isProcessed d token))
    (hfailed : g'.failed = g.failed + [sh'].countP (·.isFailed d token)) :
    d.Accounts token entries f (before ++ sh' :: after) (ds ++ new) told' attached' g' := by
  -- nothing that was not finished is counted
  have hunfinished : sh.task.isNone = false := by
    rw [← Option.not_isSome, htask]
    rfl
  constructor
  · intro x hx
    rcases mem_replace hx with rfl | hold
    · rw [hentry]
      exact h.entries sh (by simp)
    · exact h.entries x hold
  · intro x hx
    rcases mem_replace hx with rfl | hold
    · exact hstage
    · exact (h.stages x hold).mono hext
  · have hinterleaved := h.written
    rw [List.map_append, List.map_cons] at hinterleaved ⊢
    rw [hwritten]
    exact hinterleaved.append new
  · exact hreached
  · have hold := h.attached
    rw [List.flatMap_append, List.flatMap_cons] at hold ⊢
    exact perm_replace hold hattached
  · exact hprogress
  · have hold := h.told
    rw [List.flatMap_append, List.flatMap_cons] at hold ⊢
    exact perm_replace hold htold
  · have hnot : Share.isProcessed d token sh = false := by simp [Share.isProcessed, hunfinished]
    rw [hprocessed, h.processed, countP_replace (y := sh') hnot, Nat.add_assoc]
  · have hnot : Share.isFailed d token sh = false := by simp [Share.isFailed, hunfinished]
    rw [hfailed, h.failed, countP_replace (y := sh') hnot, Nat.add_assoc]

/-- A worker goes on to another place and nothing is written, told or attached. -/
theorem Accounts.pass (h : d.Accounts token entries f (before ++ sh :: after) ds told attached g)
    {k : Task} {k' : Option Task} (hact : (d.entryServer token).act sh.entry k g = (g', k'))
    (htask : sh.task.isSome = true)
    (hstage : d.Stage token f.ledger.store g'.ledger.store { sh with task := k' })
    (hstore : g'.ledger.store = g.ledger.store) (hprogress : g'.progress = g.progress)
    (hprocessed : g'.processed
      = g.processed + [{ sh with task := k' }].countP (·.isProcessed d token))
    (hfailed : g'.failed = g.failed + [{ sh with task := k' }].countP (·.isFailed d token))
    (hdeed : d.upcoming token f.ledger.store sh
      = .pass :: d.upcoming token f.ledger.store { sh with task := k' }) :
    d.Advances token entries f before after sh ds told attached k g := by
  have hreached := h.reached
  rw [← hstore, ← List.append_nil ds, ← List.append_nil attached] at hreached
  have hreplaced : d.Accounts token entries f (before ++ { sh with task := k' } :: after) (ds ++ [])
      (told ++ []) (attached ++ []) g' :=
    h.replace rfl htask hstage (hstore ▸ .refl _) (List.append_nil _).symm hreached
      (by simp) (by rw [hprogress, h.progress, List.append_nil]) (by simp) hprocessed hfailed
  exact hreplaced.advances .pass hact rfl hdeed

/-- An entry went well, and all its drafts were written, told and attached. -/
theorem Accounts.succeed {e : Entry} {k : Task} {written : List (String × Draft)}
    (h : d.Accounts token entries f (before ++ ⟨e, some k, written, [], []⟩ :: after)
      ds told attached g)
    (hact : (d.entryServer token).act e k g = (g.succeed, none))
    (hfound : (d.found? token e).isSome = true)
    (hwritten : written = d.draftsOf token f.ledger.store e)
    (hdeed : d.upcoming token f.ledger.store ⟨e, some k, written, [], []⟩ = [.pass]) :
    d.Advances token entries f before after ⟨e, some k, written, [], []⟩ ds told attached k g := by
  subst hwritten
  have hprocessed : Share.isProcessed d token
      ⟨e, none, d.draftsOf token f.ledger.store e, [], []⟩ = true := hfound
  have hfailed : Share.isFailed d token
      ⟨e, none, d.draftsOf token f.ledger.store e, [], []⟩ = false := by
    show (d.found? token e).isNone = false
    rw [← Option.not_isSome, hfound]
    rfl
  refine h.pass hact rfl .finish rfl rfl ?_ ?_ hdeed
  · rw [List.countP_singleton, hprocessed]
    rfl
  · rw [List.countP_singleton, hfailed]
    rfl

/-- The request of an entry ends it, or there is a batch to be drafted. -/
theorem Accounts.request {e : Entry}
    (h : d.Accounts token entries f (before ++ ⟨e, some .request, [], [], []⟩ :: after)
      ds told attached g) :
    d.Advances token entries f before after ⟨e, some .request, [], [], []⟩ ds told attached .request
      g := by
  cases hfound : d.found? token e with
  | none =>
      have hdrafts : d.draftsOf token f.ledger.store e = [] := by simp only [draftsOf, hfound]
      refine h.pass (act_request_of_found?_eq_none hfound g) rfl ?_ rfl rfl ?_ ?_ ?_
      · have hstage : d.Stage token f.ledger.store g.ledger.store
            ⟨e, none, d.draftsOf token f.ledger.store e, [], []⟩ := .finish
        rw [hdrafts] at hstage
        exact hstage
      · simp [RunState.fail, Share.isProcessed, hfound]
      · simp [RunState.fail, Share.isFailed, hfound]
      · simp only [upcoming, hfound]
  | some found =>
      obtain ⟨package, b⟩ := found
      have hnext := act_request_of_found? hfound g
      split at hnext
      · next hempty =>
        have hdrafts : d.draftsOf token f.ledger.store e = [] := by
          simp only [draftsOf, hfound, Store.drafts, List.isEmpty_iff.mp hempty, List.map_nil]
        exact h.succeed hnext (by rw [hfound]; rfl) hdrafts.symm
          (by simp only [upcoming, hfound, if_pos hempty])
      · next hsome =>
        exact h.pass hnext rfl (.acquire hfound) rfl rfl rfl rfl
          (by simp only [upcoming, hfound, if_neg hsome]; rfl)

/-- Drafts of all advisories are the drafts of the entry. -/
theorem Drafted.eq_draftsOf {e : Entry} {n : Drafting} (h : d.Drafted token s₀ e n []) :
    (d.found? token e).isSome = true ∧ n.drafts.map (draftFor e) = d.draftsOf token s₀ e := by
  obtain ⟨package, b, made, hfound, hpackage, hmade, hdrafts⟩ := h
  rw [List.append_nil] at hmade
  refine ⟨by rw [hfound]; rfl, ?_⟩
  have hpaired := congrArg (List.map fun draft => (e.component.id, draft)) hdrafts
  rw [List.map_map, List.map_map, hpackage, ← hmade] at hpaired
  simp only [draftsOf, hfound, Store.drafts, List.map_map]
  exact hpaired

/-- One more advisory is drafted when its candidates are settled. -/
theorem Drafted.concat {e : Entry} {n : Drafting} {a : Advisory} {settled : List Predicate}
    (h : d.Drafted token s₀ e n (a :: n.rest))
    (hsettled : settled.map Predicate.withoutRow
      = (candidates n.package a.ranges).map fun p => (s₀.settle p).withoutRow) :
    d.Drafted token s₀ e { n with
      drafts := n.drafts ++ [⟨a.vulnerability d.source s₀.resolve?, settled⟩] } n.rest := by
  obtain ⟨package, b, made, hfound, hpackage, hmade, hdrafts⟩ := h
  have hdraft : (Draft.mk (a.vulnerability d.source s₀.resolve?) settled).withoutRows
      = (s₀.draft d.source n.package a).withoutRows := by
    show Draft.mk _ (settled.map Predicate.withoutRow) = Draft.mk _
      (((candidates n.package a.ranges).map s₀.settle).map Predicate.withoutRow)
    rw [hsettled, List.map_map]
    rfl
  refine ⟨package, b, made ++ [a], hfound, hpackage, ?_, ?_⟩
  · rw [hmade, List.append_cons]
  · rw [List.map_append, hdrafts, List.map_singleton, hdraft, List.map_append]
    rfl

/-- The candidates of an advisory that is drafted are described. -/
theorem Drafted.describes {e : Entry} {n : Drafting} {a : Advisory} {rest : List Advisory}
    (h : d.Drafted token s₀ e n (a :: rest)) (he : e ∈ entries) {p : Predicate}
    (hp : p ∈ candidates n.package a.ranges) : d.Describes token entries p := by
  obtain ⟨package, b, made, hfound, hpackage, hmade, -⟩ := h
  refine ⟨e, he, package, b, hfound, a, ?_, hpackage ▸ hp⟩
  rw [hmade]
  exact List.mem_append_right _ (List.mem_cons_self ..)

variable {clock : Nat → Instant}

/-- A session is acquired, and nothing is drafted yet. -/
theorem Accounts.acquire (hd : d.session = Ledger.session clock) {e : Entry} {package : Coordinate}
    {b : AdvisoryBatch} (hfound : d.found? token e = some (package, b))
    (h : d.Accounts token entries f (before ++ ⟨e, some (.acquire package b), [], [], []⟩ :: after)
      ds told attached g) :
    d.Advances token entries f before after ⟨e, some (.acquire package b), [], [], []⟩ ds told
      attached (.acquire package b) g := by
  have hacquire : d.session.acquire.on g.ledger = (.ok (), g.ledger) := by
    rw [hd]
    rfl
  have hnext : (d.entryServer token).act e (.acquire package b) g
      = (g, some (.draft ⟨b.package (some package), [], b.advisories⟩)) := by
    unfold entryServer
    simp only [Dispatcher.act, hacquire]
  exact h.pass hnext rfl (.draft ⟨package, b, [], hfound, rfl, rfl, rfl⟩) rfl rfl rfl rfl rfl

/-- The next advisory is drafted, or all of them were. -/
theorem Accounts.draft (hd : d.session = Ledger.session clock) {e : Entry} {n : Drafting}
    (hdrafted : d.Drafted token f.ledger.store e n n.rest)
    (h : d.Accounts token entries f (before ++ ⟨e, some (.draft n), [], [], []⟩ :: after)
      ds told attached g) :
    d.Advances token entries f before after ⟨e, some (.draft n), [], [], []⟩ ds told attached
      (.draft n) g := by
  obtain ⟨package, drafts, rest⟩ := n
  cases rest with
  | nil =>
      obtain ⟨hfound, hdrafts⟩ := hdrafted.eq_draftsOf
      have hnext : (d.entryServer token).act e (.draft ⟨package, drafts, []⟩) g
          = (g, some (.write drafts)) := rfl
      refine h.pass hnext rfl (.write hfound hdrafts) rfl rfl rfl rfl ?_
      simp only [upcoming, ← hdrafts, List.map_map]
      rfl
  | cons a rest =>
      -- no worker changes the weaknesses, so problems name what they named at first
      have hresolve : d.session.resolve g.ledger = f.ledger.store.resolve? := by
        rw [hd]
        exact Store.resolve?_eq h.reached.weaknesses
      have hnext : (d.entryServer token).act e (.draft ⟨package, drafts, a :: rest⟩) g =
          (g, some (.settle ⟨package, drafts, rest⟩
            (a.vulnerability d.source f.ledger.store.resolve?) []
            (candidates package a.ranges))) := by
        rw [← hresolve]
        rfl
      have hcandidates : candidates package a.ranges = [] ++ candidates package a.ranges := rfl
      refine h.pass hnext rfl (.settle hdrafted hcandidates rfl) rfl rfl rfl rfl ?_
      simp [upcoming, Deed.drafting]

/-- The next candidate is settled, or all of the advisory were. -/
theorem Accounts.settle (hd : d.session = Ledger.session clock) (hf : f.ledger.store.WellFormed)
    (hsep : ∀ e ∈ entries, d.isUnseparated token e = true) {e : Entry} {n : Drafting} {a : Advisory}
    {settled tried wanted : List Predicate}
    (hdrafted : d.Drafted token f.ledger.store e n (a :: n.rest))
    (hcandidates : candidates n.package a.ranges = tried ++ wanted)
    (hsettled : settled.map Predicate.withoutRow
      = tried.map fun p => (f.ledger.store.settle p).withoutRow)
    (h : d.Accounts token entries f (before ++ ⟨e, some (.settle n
        (a.vulnerability d.source f.ledger.store.resolve?) settled wanted), [], [], []⟩ :: after)
      ds told attached g) :
    d.Advances token entries f before after ⟨e, some (.settle n
        (a.vulnerability d.source f.ledger.store.resolve?) settled wanted), [], [], []⟩ ds told
      attached (.settle n (a.vulnerability d.source f.ledger.store.resolve?) settled wanted) g := by
  cases wanted with
  | nil =>
      rw [List.append_nil] at hcandidates
      have hnext : (d.entryServer token).act e (.settle n
            (a.vulnerability d.source f.ledger.store.resolve?) settled []) g =
          (g, some (.draft { n with drafts := n.drafts ++
            [⟨a.vulnerability d.source f.ledger.store.resolve?, settled⟩] })) := rfl
      exact h.pass hnext rfl (.draft (hdrafted.concat (hcandidates ▸ hsettled))) rfl rfl rfl rfl rfl
  | cons p wanted =>
      have he : e ∈ entries := h.entries _ (List.mem_append_right _ (List.mem_cons_self ..))
      have hp : d.Describes token entries p := by
        apply hdrafted.describes he
        rw [hcandidates]
        exact List.mem_append_right _ (List.mem_cons_self ..)
      -- what is found may have been stored by another worker, but it is the same predicate
      have hsame := h.reached.settle hf (h.settled hsep) hp
      have hnext : (d.entryServer token).act e (.settle n
            (a.vulnerability d.source f.ledger.store.resolve?) settled (p :: wanted)) g =
          (g, some (.settle n (a.vulnerability d.source f.ledger.store.resolve?)
            (settled ++ [g.ledger.store.settle p]) wanted)) := by
        unfold entryServer
        simp only [act, hd, Ledger.settlePredicate_on]
      rw [List.append_cons] at hcandidates
      refine h.pass hnext rfl (.settle hdrafted hcandidates ?_) rfl rfl rfl rfl rfl
      rw [List.map_append, List.map_append, hsettled, List.map_singleton, List.map_singleton, hsame]

/-- Telling a draft is telling it without rows. -/
theorem tell_draftFor (p : Progress) (told : List (String × Draft)) (e : Entry) (draft : Draft) :
    p.tell ((told ++ [draftFor e draft]).map (·.2)) = (p.tell (told.map (·.2))).tell [draft] := by
  rw [List.map_append, Progress.tell_append]
  rfl

/-- A draft without an identifier is passed over. -/
theorem Accounts.skip (hd : d.session = Ledger.session clock) {e : Entry} {draft : Draft}
    {drafts : List Draft} {written : List (String × Draft)}
    (hfound : (d.found? token e).isSome = true)
    (hdrafts : written ++ [draftFor e draft] ++ drafts.map (draftFor e)
      = d.draftsOf token f.ledger.store e)
    (hid : Store.storableId? draft.record = none)
    (h : d.Accounts token entries f (before ++ ⟨e, some (.write (draft :: drafts)), written, [],
      []⟩ :: after) ds told attached g) :
    d.Advances token entries f before after ⟨e, some (.write (draft :: drafts)), written, [], []⟩ ds
      told attached (.write (draft :: drafts)) g := by
  have hsync := Ledger.synchronize_on_of_storableId?_eq_none clock g.ledger hid
  rw [← hd] at hsync
  have hnext : (d.entryServer token).act e (.write (draft :: drafts)) g
      = (g, some (.write drafts)) := by
    unfold entryServer
    simp only [act, hsync]
  -- there is nothing to tell of it, so it may count as told, and as attached
  have htell : f.progress.tell ((told ++ [draftFor e draft]).map (·.2))
      = f.progress.tell (told.map (·.2)) := by
    rw [tell_draftFor, Progress.tell_of_storableId?_eq_none _ hid]
  have hskipped : d.Accounts token entries f
      (before ++ ⟨e, some (.write drafts), written ++ [draftFor e draft], [], []⟩ :: after)
      (ds ++ [draftFor e draft]) (told ++ [draftFor e draft])
      (attached ++ [draftFor e draft]) g :=
    h.replace rfl rfl (.write hfound hdrafts) (.refl _) rfl (h.reached.skip hid)
      (by simp) (htell ▸ h.progress) (by simp) rfl rfl
  refine hskipped.advances (.skip draft.withoutRows) hnext rfl ?_
  simp [upcoming, Deed.writing, Store.key?_eq_none hid]

/-- Any other draft is written, and is neither told nor attached yet. -/
theorem Accounts.synchronize (hd : d.session = Ledger.session clock) {e : Entry} {draft : Draft}
    {drafts : List Draft} {written : List (String × Draft)} {vulnId : String}
    (hfound : (d.found? token e).isSome = true)
    (hdrafts : written ++ [draftFor e draft] ++ drafts.map (draftFor e)
      = d.draftsOf token f.ledger.store e)
    (hid : Store.storableId? draft.record = some vulnId)
    (h : d.Accounts token entries f (before ++ ⟨e, some (.write (draft :: drafts)), written, [],
      []⟩ :: after) ds told attached g) :
    d.Advances token entries f before after ⟨e, some (.write (draft :: drafts)), written, [], []⟩ ds
      told attached (.write (draft :: drafts)) g := by
  obtain ⟨row, kept, t, hsync, ht⟩ :=
    Ledger.synchronize_on clock g.ledger h.reached.wellFormed hid
  rw [← hd] at hsync
  have hnext : (d.entryServer token).act e (.write (draft :: drafts)) g
      = ({ g with ledger := { g.ledger with store := t } },
        some (.tell (Store.answer draft row kept) drafts)) := by
    unfold entryServer
    simp only [act, hsync]
  have hrecorded : Recorded t (draftFor e draft) (Store.answer draft row kept) :=
    ⟨⟨_, ht.vulnerabilities.mem, rfl, Store.key?_eq_some hid⟩,
      fun p => Ledger.record_answer p hid row kept⟩
  have hwritten : d.Accounts token entries f
      (before ++ ⟨e, some (.tell (Store.answer draft row kept) drafts),
        written ++ [draftFor e draft], [draftFor e draft], [draftFor e draft]⟩ :: after)
      (ds ++ [draftFor e draft]) (told ++ []) (attached ++ [])
      { g with ledger := { g.ledger with store := t } } := by
    rw [List.append_nil, List.append_nil]
    exact h.replace rfl rfl (.tell hfound hdrafts hrecorded) ht.extends rfl
      (h.reached.synchronize hid ht) (by simp) h.progress (by simp) rfl rfl
  refine hwritten.advances (.write draft.withoutRows) hnext rfl ?_
  simp [upcoming, Deed.writing, Store.key?_eq_some hid, draftFor]

/-- The next draft is written or passed over, or all of them were. -/
theorem Accounts.write (hd : d.session = Ledger.session clock) {e : Entry} {drafts : List Draft}
    {written : List (String × Draft)} (hfound : (d.found? token e).isSome = true)
    (hdrafts : written ++ drafts.map (draftFor e) = d.draftsOf token f.ledger.store e)
    (h : d.Accounts token entries f (before ++ ⟨e, some (.write drafts), written, [], []⟩ :: after)
      ds told attached g) :
    d.Advances token entries f before after ⟨e, some (.write drafts), written, [], []⟩ ds told
      attached (.write drafts) g := by
  cases drafts with
  | nil =>
      rw [List.map_nil, List.append_nil] at hdrafts
      exact h.succeed rfl hfound hdrafts rfl
  | cons draft drafts =>
      rw [List.map_cons, List.append_cons] at hdrafts
      cases hid : Store.storableId? draft.record with
      | none => exact h.skip hd hfound hdrafts hid
      | some vulnId => exact h.synchronize hd hfound hdrafts hid

/-- A record that was written is told and counted. -/
theorem Accounts.tell {e : Entry} {draft : Draft} {drafts : List Draft} {v : Vulnerability}
    {written : List (String × Draft)} (hfound : (d.found? token e).isSome = true)
    (hdrafts : written ++ [draftFor e draft] ++ drafts.map (draftFor e)
      = d.draftsOf token f.ledger.store e)
    (hrecorded : Recorded g.ledger.store (draftFor e draft) v)
    (h : d.Accounts token entries f (before ++ ⟨e, some (.tell v drafts),
        written ++ [draftFor e draft], [draftFor e draft], [draftFor e draft]⟩ :: after)
      ds told attached g) :
    d.Advances token entries f before after ⟨e, some (.tell v drafts),
        written ++ [draftFor e draft], [draftFor e draft], [draftFor e draft]⟩ ds told attached
      (.tell v drafts) g := by
  have hnext : (d.entryServer token).act e (.tell v drafts) g
      = ({ g with progress := g.progress.record v }, some (.attach v drafts)) := rfl
  have hprogress : g.progress.record v
      = f.progress.tell ((told ++ [draftFor e draft]).map (·.2)) := by
    rw [hrecorded.told, h.progress, List.map_append, Progress.tell_append]
    rfl
  have hreached := h.reached
  rw [← List.append_nil ds] at hreached
  have htold : d.Accounts token entries f
      (before ++ ⟨e, some (.attach v drafts), written ++ [draftFor e draft], [],
        [draftFor e draft]⟩ :: after)
      (ds ++ []) (told ++ [draftFor e draft]) (attached ++ [])
      { g with progress := g.progress.record v } := by
    rw [List.append_nil attached]
    exact h.replace rfl rfl (.attach hfound hdrafts hrecorded) (.refl _) (List.append_nil _).symm
      hreached (by simp) hprogress (by simp) rfl rfl
  exact htold.advances (.tell draft.withoutRows) hnext rfl rfl

/-- A record that was told is attached. -/
theorem Accounts.attach (hd : d.session = Ledger.session clock) {e : Entry} {draft : Draft}
    {drafts : List Draft} {v : Vulnerability} {written : List (String × Draft)}
    (hfound : (d.found? token e).isSome = true)
    (hdrafts : written ++ [draftFor e draft] ++ drafts.map (draftFor e)
      = d.draftsOf token f.ledger.store e)
    (hrecorded : Recorded g.ledger.store (draftFor e draft) v)
    (h : d.Accounts token entries f (before ++ ⟨e, some (.attach v drafts),
        written ++ [draftFor e draft], [], [draftFor e draft]⟩ :: after)
      ds told attached g) :
    d.Advances token entries f before after ⟨e, some (.attach v drafts),
        written ++ [draftFor e draft], [], [draftFor e draft]⟩ ds told attached (.attach v drafts)
      g := by
  -- other workers may have written since, but the row of the draft is still there
  obtain ⟨r, hr, hrow, hkey⟩ := hrecorded.row
  obtain ⟨known, t, hattach, ht⟩ := Ledger.attach_on clock g.ledger h.reached.wellFormed hrow
    (List.mem_map_of_mem hr) e.component.id
  rw [← hd] at hattach
  have hnext : (d.entryServer token).act e (.attach v drafts) g
      = ({ g with ledger := ⟨t, g.ledger.readings + 1⟩ }, some (.write drafts)) := by
    unfold entryServer
    simp only [act, hattach]
  have hreached := h.reached.attach hr hkey ht
  rw [← List.append_nil ds] at hreached
  have hattached : d.Accounts token entries f
      (before ++ ⟨e, some (.write drafts), written ++ [draftFor e draft], [], []⟩ :: after)
      (ds ++ []) (told ++ []) (attached ++ [draftFor e draft])
      { g with ledger := ⟨t, g.ledger.readings + 1⟩ } := by
    rw [List.append_nil told]
    exact h.replace rfl rfl (.write hfound hdrafts) ht.extends (List.append_nil _).symm hreached
      (by simp) h.progress (by simp) rfl rfl
  exact hattached.advances (.attach draft.withoutRows) hnext rfl rfl

/-! ## Everything that the workers do -/

/-- Whatever a worker does next is accounted for. -/
theorem Accounts.act (hd : d.session = Ledger.session clock) (hf : f.ledger.store.WellFormed)
    (hsep : ∀ e ∈ entries, d.isUnseparated token e = true) {k : Task} (hk : sh.task = some k)
    (h : d.Accounts token entries f (before ++ sh :: after) ds told attached g) :
    d.Advances token entries f before after sh ds told attached k g := by
  cases h.stages sh (List.mem_append_right _ (List.mem_cons_self ..)) with
  | request =>
      cases hk
      exact h.request
  | acquire hfound =>
      cases hk
      exact h.acquire hd hfound
  | draft hdrafted =>
      cases hk
      exact h.draft hd hdrafted
  | settle hdrafted hcandidates hsettled =>
      cases hk
      exact h.settle hd hf hsep hdrafted hcandidates hsettled
  | write hfound hdrafts =>
      cases hk
      exact h.write hd hfound hdrafts
  | tell hfound hdrafts hrecorded =>
      cases hk
      exact h.tell hfound hdrafts hrecorded
  | attach hfound hdrafts hrecorded =>
      cases hk
      exact h.attach hd hfound hdrafts hrecorded
  | finish => cases hk

theorem keeps_underway (hd : d.session = Ledger.session clock) (hf : f.ledger.store.WellFormed)
    (hsep : ∀ e ∈ entries, d.isUnseparated token e = true) :
    (d.entryServer token).Keeps entries (d.Underway token entries f) where
  take := fun he h => h.take he
  act := by
    intro before after e k k' g g' h hact
    -- the job is that of one of the shares
    obtain ⟨shares, ds, told, attached, hjobs, h⟩ := h
    obtain ⟨first, rest, rfl, rfl, hrest⟩ := List.map_eq_append_iff.mp hjobs
    obtain ⟨sh, last, rfl, hjob, rfl⟩ := List.map_eq_cons_iff.mp hrest
    obtain ⟨rfl, hk⟩ : sh.entry = e ∧ sh.task = some k := Prod.mk.inj hjob
    obtain ⟨deed, sh', hjob', -, h'⟩ := h.act hd hf hsep hk
    rw [hact] at hjob' h'
    refine ⟨first ++ sh' :: last, _, _, _, ?_, h'⟩
    rw [List.map_append, List.map_cons, hjob']

end Accounts
end Dispatcher
end AdvisoryLedger
