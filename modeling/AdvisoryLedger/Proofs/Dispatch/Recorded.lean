import AdvisoryLedger.Dispatch.Gate
import AdvisoryLedger.Proofs.Dispatch.Watching

/-!
# Requests and causes of a run

A run counts the components that fail and does not tell why, and which requests it made only its
peer knows. Both can be written down without changing anything (`dispatchRun_iff_causedRun`,
`dispatchRun_unrecorded`). What the next step of a worker may come to is said once
(`act_stepsTo`): the component fails for a cause, or it went well, or there is more to do; and the
first step makes the request and no other step does.

So at any time there is a request for each component that was taken and whose first step is done,
the components that are finished are those that were counted, and there are as many causes as
failures (`Records`). When all workers have left this holds of all components.
-/

namespace AdvisoryLedger

theorem Cause.ofAnswer?_ne_url {α : Type} (answer : Except Failure α) (text : String) :
    Cause.ofAnswer? answer ≠ some (.url text) := by
  cases answer <;> simp [Cause.ofAnswer?]

namespace Dispatcher

variable {σ π : Type} {d : Dispatcher σ π} {token : ApiToken} {c : Component}

/-! ## One step -/

/-- The requests for a component: one, if it has a package and the credential can be sent. -/
def requests (d : Dispatcher σ π) (token : ApiToken) (c : Component) : List Request :=
  (c.coordinate?.map (d.requestFor token)).toList.filter (·.authorization.all mayStandInHeader)

/-- The peer after the next step for a component. Only the first one makes a request. -/
def peerAfter (d : Dispatcher σ π) (token : ApiToken) (c : Component) (k : Task) (peer : π) : π :=
  if k = .request then
    match c.coordinate? with
    | none => peer
    | some package => (d.peer.request peer (d.requestFor token package)).2
  else peer

/-- The run did not count anything, and its peer got the request of the step if it has one. -/
structure Kept (d : Dispatcher σ π) (token : ApiToken) (c : Component) (k : Task)
    (f g : RunState σ π) : Prop where
  processed : g.processed = f.processed
  failed : g.failed = f.failed
  peer : g.peer = d.peerAfter token c k f.peer

/-- What the next step for a component may come to: the component fails for a cause, or it went
well, or there is more to do. -/
inductive StepsTo (d : Dispatcher σ π) (token : ApiToken) (c : Component) (k : Task)
    (f : RunState σ π) : Option Cause → RunState σ π × Option Task → Prop
  | fail {g : RunState σ π} (cause : Cause) : d.Kept token c k f g →
    StepsTo d token c k f (some cause) (g.fail, none)
  | succeed {g : RunState σ π} : d.Kept token c k f g → StepsTo d token c k f none (g.succeed, none)
  | goOn {g : RunState σ π} {k' : Task} : d.Kept token c k f g → k' ≠ .request →
    StepsTo d token c k f none (g, some k')

theorem Kept.of_ledger {k : Task} (hk : k ≠ .request) {f : RunState σ π} (ledger : σ)
    (progress : Progress) :
    d.Kept token c k f { f with ledger := ledger, progress := progress } where
  processed := rfl
  failed := rfl
  peer := (if_neg hk).symm

theorem act_stepsTo (d : Dispatcher σ π) (token : ApiToken) (c : Component) (k : Task)
    (f : RunState σ π) : d.StepsTo token c k f (d.cause? token c k f) (d.act token c k f) := by
  cases k with
  | request =>
    cases hpackage : c.coordinate? with
    | none =>
      simp only [act, cause?, hpackage]
      exact .fail (.url _) ⟨rfl, rfl, by simp [peerAfter, hpackage]⟩
    | some package =>
      have hkept : d.Kept token c .request f
          { f with peer := (d.peer.request f.peer (d.requestFor token package)).2 } :=
        ⟨rfl, rfl, by simp [peerAfter, hpackage]⟩
      cases hbatch : d.batchOf (d.requestFor token package).url
          (d.peer.request f.peer (d.requestFor token package)).1 with
      | error e =>
        simp only [act, cause?, hpackage, hbatch]
        exact .fail (.reply e) hkept
      | ok b =>
        simp only [act, cause?, hpackage, hbatch]
        split
        · exact .succeed hkept
        · exact .goOn hkept nofun
  | acquire package b =>
    rcases hanswer : d.session.acquire.on f.ledger with ⟨e | u, l⟩ <;>
      simp only [act, cause?, hanswer]
    · exact .fail _ (.of_ledger (by nofun) l f.progress)
    · exact .goOn (.of_ledger (by nofun) l f.progress) nofun
  | draft n =>
    obtain ⟨package, drafts, rest⟩ := n
    cases rest with
    | nil => exact .goOn (.of_ledger (by nofun) f.ledger f.progress) nofun
    | cons a rest => exact .goOn (.of_ledger (by nofun) f.ledger f.progress) nofun
  | settle n record settled wanted =>
    cases wanted with
    | nil => exact .goOn (.of_ledger (by nofun) f.ledger f.progress) nofun
    | cons p wanted =>
      rcases hanswer : (d.session.settlePredicate p).on f.ledger with ⟨e | q, l⟩ <;>
        simp only [act, cause?, hanswer]
      · exact .fail _ (.of_ledger (by nofun) l f.progress)
      · exact .goOn (.of_ledger (by nofun) l f.progress) nofun
  | write drafts =>
    cases drafts with
    | nil => exact .succeed (.of_ledger (by nofun) f.ledger f.progress)
    | cons draft drafts =>
      rcases hanswer : (d.session.synchronize draft).on f.ledger with ⟨e | v, l⟩
      · cases e with
        | payload fault =>
          simp only [act, cause?, hanswer]
          exact .goOn (.of_ledger (by nofun) l f.progress) nofun
        | _ =>
          simp only [act, cause?, hanswer]
          exact .fail _ (.of_ledger (by nofun) l f.progress)
      · simp only [act, cause?, hanswer]
        exact .goOn (.of_ledger (by nofun) l f.progress) nofun
  | tell v drafts => exact .goOn (.of_ledger (by nofun) f.ledger _) nofun
  | attach v drafts =>
    rcases hanswer : (d.session.attach v c.id).on f.ledger with ⟨e | known, l⟩ <;>
      simp only [act, cause?, hanswer]
    · exact .fail _ (.of_ledger (by nofun) l f.progress)
    · exact .goOn (.of_ledger (by nofun) l f.progress) nofun

/-- Only a component without a package fails for its package URL. -/
theorem coordinate?_of_cause? {k : Task} {f : RunState σ π} {text : String}
    (h : d.cause? token c k f = some (.url text)) : c.coordinate? = none := by
  cases k with
  | request =>
    cases hpackage : c.coordinate? with
    | none => rfl
    | some package =>
      simp only [cause?, hpackage] at h
      split at h <;> cases h
  | acquire package b => exact absurd h (Cause.ofAnswer?_ne_url _ _)
  | draft n => cases h
  | settle n record settled wanted =>
    cases wanted with
    | nil => cases h
    | cons p wanted => exact absurd h (Cause.ofAnswer?_ne_url _ _)
  | write drafts =>
    cases drafts with
    | nil => cases h
    | cons draft drafts =>
      simp only [cause?] at h
      split at h
      · cases h
      · exact absurd h (Cause.ofAnswer?_ne_url _ _)
  | tell v drafts => cases h
  | attach v drafts => exact absurd h (Cause.ofAnswer?_ne_url _ _)

namespace StepsTo

variable {k : Task} {f : RunState σ π} {cause : Option Cause} {r : RunState σ π × Option Task}

theorem failed (h : d.StepsTo token c k f cause r) :
    r.1.failed = f.failed + cause.toList.length := by
  cases h with
  | fail cause hkept => simp [RunState.fail, hkept.failed]
  | succeed hkept => simp [RunState.succeed, hkept.failed]
  | goOn hkept => simp [hkept.failed]

/-- A component is counted when it is finished. -/
theorem total (h : d.StepsTo token c k f cause r) :
    r.1.processed + r.1.failed = f.processed + f.failed + r.2.isNone.toNat := by
  cases h with
  | fail cause hkept => simp [RunState.fail, hkept.failed, hkept.processed, Nat.add_assoc]
  | succeed hkept =>
    simp [RunState.succeed, hkept.failed, hkept.processed, Nat.add_right_comm]
  | goOn hkept => simp [hkept.failed, hkept.processed]

theorem peer (h : d.StepsTo token c k f cause r) : r.1.peer = d.peerAfter token c k f.peer := by
  cases h with
  | fail cause hkept => exact hkept.peer
  | succeed hkept => exact hkept.peer
  | goOn hkept => exact hkept.peer

theorem next_ne (h : d.StepsTo token c k f cause r) : r.2 ≠ some .request := by
  cases h with
  | fail | succeed => nofun
  | goOn hkept hne => simpa using hne

end StepsTo

theorem peerAfter_recorded (d : Dispatcher σ π) (token : ApiToken) (c : Component) (k : Task)
    (peer : π × List Request) : (d.recorded.peerAfter token c k peer).2
      = peer.2 ++ if k = .request then d.requests token c else [] := by
  unfold peerAfter requests
  split
  · cases c.coordinate? with
    | none => simp
    | some package =>
      have hrequest : d.recorded.requestFor token package = d.requestFor token package := rfl
      simp only [hrequest, Option.map_some, Option.toList_some, Peer.request]
      split
      · next h => simp [h, recorded, Peer.recorded]
      · next h => simp [h]
  · rw [List.append_nil]

/-! ## All steps of a run -/

/-- What is counted and written down while workers act, where the jobs are the components that
were taken, each with the place where its worker stands. -/
structure Records (d : Dispatcher σ π) (token : ApiToken) (jobs : List (Component × Option Task))
    (s : RunState σ (π × List Request) × List Cause) : Prop where
  total : s.1.processed + s.1.failed = jobs.countP (·.2.isNone)
  failed : s.1.failed = s.2.length
  unusable : ∀ text, .url text ∈ s.2 → ∃ c ∈ jobs.map (·.1), c.coordinate? = none
  requests : s.1.peer.2.Perm
    (jobs.flatMap fun job => if job.2 = some .request then [] else d.requests token job.1)

theorem records_start (d : Dispatcher σ π) (token : ApiToken) (ledger : σ) (peer : π) :
    d.Records token [] (.start ledger (peer, []), []) where
  total := rfl
  failed := rfl
  unusable := nofun
  requests := .nil

namespace Records

variable {jobs before after : List (Component × Option Task)}
  {f : RunState σ (π × List Request)} {causes : List Cause}

theorem take (h : d.Records token jobs (f, causes)) :
    d.Records token (jobs ++ [(c, some .request)]) (f, causes) where
  total := by
    rw [List.countP_append]
    exact h.total
  failed := h.failed
  unusable := by
    intro text htext
    obtain ⟨c, hc, hnone⟩ := h.unusable text htext
    rw [List.map_append]
    exact ⟨c, List.mem_append_left _ hc, hnone⟩
  requests := by
    simpa using h.requests

theorem act {k : Task} (h : d.Records token (before ++ (c, some k) :: after) (f, causes)) :
    d.Records token (before ++ (c, (d.recorded.act token c k f).2) :: after)
      ((d.recorded.act token c k f).1,
        causes ++ (d.recorded.cause? token c k f).toList) := by
  have hstep := act_stepsTo d.recorded token c k f
  have hurl {text : String} (h : d.recorded.cause? token c k f = some (.url text)) :
      c.coordinate? = none := coordinate?_of_cause? h
  generalize d.recorded.act token c k f = r at hstep ⊢
  generalize d.recorded.cause? token c k f = cause at hstep hurl ⊢
  constructor
  case total =>
    have hold := h.total
    have hnew := hstep.total
    simp only [List.countP_append, List.countP_cons, Option.isNone_some] at hold ⊢
    rw [hnew, hold]
    cases r.2 with
    | none =>
      simp only [Option.isNone_none, Bool.toNat_true, if_true, if_false, Bool.false_eq_true]
      omega
    | some next => rfl
  case failed =>
    show r.1.failed = (causes ++ cause.toList).length
    rw [hstep.failed, List.length_append, ← h.failed]
  case unusable =>
    intro text htext
    rw [List.map_append, List.map_cons]
    rcases List.mem_append.mp htext with hold | hnew
    · have hbefore := h.unusable text hold
      rw [List.map_append, List.map_cons] at hbefore
      exact hbefore
    · exact ⟨c, List.mem_append_right _ (List.mem_cons_self ..), hurl (Option.mem_toList.mp hnew)⟩
  case requests =>
    have hold := h.requests
    rw [List.flatMap_append, List.flatMap_cons] at hold ⊢
    rw [if_neg hstep.next_ne]
    show r.1.peer.2.Perm _
    rw [hstep.peer, peerAfter_recorded]
    by_cases hk : k = .request
    · -- the request is the last one now, and was not made before
      rw [if_pos (congrArg some hk), List.nil_append] at hold
      rw [if_pos hk]
      refine (hold.append_right _).trans ?_
      rw [List.append_assoc]
      exact .append_left _ List.perm_append_comm
    · rw [if_neg (by simpa using hk)] at hold
      rw [if_neg hk, List.append_nil]
      exact hold

end Records

theorem records_keeps (d : Dispatcher σ π) (token : ApiToken) (components : List Component) :
    (d.recorded.causeServer token).Keeps components (d.Records token) where
  take := fun _ h => h.take
  act := by
    rintro before after c k k' ⟨f, causes⟩ t h hact
    obtain ⟨rfl, rfl⟩ := Prod.mk.inj hact
    exact h.act

section Runs

variable {components : List Component} {ledger : σ} {peer : π}

theorem CausedRun.records {g : RunState σ (π × List Request)} {causes : List Cause}
    (h : d.recorded.CausedRun token components (.start ledger (peer, [])) g causes) :
    d.Records token (components.map (·, none)) (g, causes) :=
  PagesRun.keeps_pages (records_keeps d token components) d.workers_pos
    (records_start d token ledger peer) h

/-- The runs with causes are the runs. -/
theorem dispatchRun_iff_causedRun {f g : RunState σ π} :
    d.DispatchRun token components f g ↔ ∃ causes, d.CausedRun token components f g causes := by
  have hwatches : (d.causeServer token).Watches (d.server token) id Prod.fst :=
    ⟨fun _ => rfl, fun _ _ _ => rfl⟩
  have hwatched : PagesRun (d.server token) d.settings.workers
      ((pages d.settings.pageLength components).map (List.map id)) (f, ([] : List Cause)).1 g ↔ _ :=
    pagesRun_iff_of_watches hwatches
  rw [List.map_id_fun, List.map_id] at hwatched
  refine hwatched.trans ⟨?_, ?_⟩
  · rintro ⟨⟨g, causes⟩, hrun, rfl⟩
    exact ⟨causes, hrun⟩
  · rintro ⟨causes, hrun⟩
    exact ⟨(g, causes), hrun, rfl⟩

end Runs

end Dispatcher

/-! ## Recording changes nothing -/

/-- The run without the requests that were written down. -/
def RunState.unrecorded {σ π : Type} (f : RunState σ (π × List Request)) : RunState σ π :=
  { ledger := f.ledger
    peer := f.peer.1
    processed := f.processed
    failed := f.failed
    progress := f.progress }

theorem Peer.request_recorded {π : Type} (p : Peer π) (s : π × List Request) (r : Request) :
    ∃ more, p.recorded.request s r
      = ((p.request s.1 r).1, (p.request s.1 r).2, s.2 ++ more) := by
  unfold Peer.request
  split
  · exact ⟨[r], rfl⟩
  · exact ⟨[], by rw [List.append_nil]⟩

namespace Dispatcher

variable {σ π : Type} {d : Dispatcher σ π} {token : ApiToken}

theorem act_unrecorded (d : Dispatcher σ π) (token : ApiToken) (c : Component) (k : Task)
    (f : RunState σ (π × List Request)) : d.act token c k f.unrecorded
      = ((d.recorded.act token c k f).1.unrecorded, (d.recorded.act token c k f).2) := by
  obtain ⟨ledger, ⟨peer, requests⟩, processed, failed, progress⟩ := f
  show d.act token c k ⟨ledger, peer, processed, failed, progress⟩ = _
  have hsession : d.recorded.session = d.session := rfl
  cases k with
  | request =>
    cases hpackage : c.coordinate? with
    | none =>
      simp only [act, hpackage]
      rfl
    | some package =>
      obtain ⟨more, hrequest⟩ :=
        d.peer.request_recorded (peer, requests) (d.requestFor token package)
      have hpeer : d.recorded.peer = d.peer.recorded := rfl
      have hfor : d.recorded.requestFor token package = d.requestFor token package := rfl
      have hbatch : d.recorded.batchOf = d.batchOf := rfl
      rcases hreply : d.peer.request peer (d.requestFor token package) with ⟨reply, peer'⟩
      simp only [act, hpackage, hpeer, hfor, hbatch, hrequest, hreply]
      split
      · rfl
      · split <;> rfl
  | acquire package b =>
    rcases hanswer : d.session.acquire.on ledger with ⟨_ | _, l⟩ <;>
      simp only [act, hsession, hanswer] <;> rfl
  | draft n =>
    obtain ⟨package, drafts, rest⟩ := n
    cases rest <;> rfl
  | settle n record settled wanted =>
    cases wanted with
    | nil => rfl
    | cons p wanted =>
      rcases hanswer : (d.session.settlePredicate p).on ledger with ⟨_ | _, l⟩ <;>
        simp only [act, hsession, hanswer] <;> rfl
  | write drafts =>
    cases drafts with
    | nil => rfl
    | cons draft drafts =>
      rcases hanswer : (d.session.synchronize draft).on ledger with ⟨e | _, l⟩
      · cases e <;> simp only [act, hsession, hanswer] <;> rfl
      · simp only [act, hsession, hanswer]
        rfl
  | tell v drafts => rfl
  | attach v drafts =>
    rcases hanswer : (d.session.attach v c.id).on ledger with ⟨_ | _, l⟩ <;>
      simp only [act, hsession, hanswer] <;> rfl

theorem dispatchRun_unrecorded {components : List Component} {f : RunState σ (π × List Request)}
    {g : RunState σ π} : d.DispatchRun token components f.unrecorded g ↔
      ∃ w, d.recorded.DispatchRun token components f w ∧ g = w.unrecorded := by
  have hwatches : (d.recorded.server token).Watches (d.server token) id RunState.unrecorded :=
    ⟨fun _ => rfl, fun c k f => d.act_unrecorded token c k f⟩
  have hwatched : PagesRun (d.server token) d.settings.workers
      ((pages d.settings.pageLength components).map (List.map id)) f.unrecorded g ↔ _ :=
    pagesRun_iff_of_watches hwatches
  rw [List.map_id_fun, List.map_id] at hwatched
  exact hwatched

end Dispatcher
end AdvisoryLedger
