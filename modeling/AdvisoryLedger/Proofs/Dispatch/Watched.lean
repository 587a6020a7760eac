import AdvisoryLedger.Dispatch.Watch
import AdvisoryLedger.Proofs.Dispatch.Alone
import AdvisoryLedger.Proofs.Dispatch.Prefix
import AdvisoryLedger.Proofs.Dispatch.Watching

/-!
# What a worker does for one component

A watched run is the run: forgetting what was written down gives it back (`watches_forget`).
What was written down for one component fits the place where its worker stands, which
`Standing` says, and `act_spec` says what the next thing that the worker does adds to it, and
how it counts. Nothing here speaks of other components; they only add to the logs for other
places.

A worker that acts alone takes these steps one after another, so what they add up to is what a
look-up does: it comes back with an error for the reasons that `Dispatcher.fails` lists and for
no other (`lookup_eq_error_iff`).
-/

namespace AdvisoryLedger

/-! ## Logs by place -/

section Log

variable {α : Type} {place other : Nat}

theorem logAt_append (place : Nat) (log more : List (Nat × α)) :
    logAt place (log ++ more) = logAt place log ++ logAt place more :=
  List.filterMap_append

theorem logAt_map_self (place : Nat) (xs : List α) : logAt place (xs.map (place, ·)) = xs := by
  simp [logAt, List.filterMap_map]

theorem logAt_map_of_ne (h : other ≠ place) (xs : List α) :
    logAt place (xs.map (other, ·)) = [] := by
  simp [logAt, List.filterMap_map, h]

end Log

/-! ## Single calls -/

namespace Session

variable {σ : Type} {s : Session σ} {place : Nat} {ledger l : σ} {calls : List (Nat × Call)}

theorem acquire_loggedAt {answer : Except Failure Unit} (h : s.acquire.on ledger = (answer, l)) :
    (s.loggedAt place).acquire.on (ledger, calls)
      = (answer, l, calls ++ [(place, .acquire answer)]) := by
  show (s.acquire.noted fun answer => (place, Call.acquire answer)).on _ = _
  exact Work.noted_on h calls

theorem synchronize_loggedAt {d : Draft} {answer : Except Failure Vulnerability}
    (h : (s.synchronize d).on ledger = (answer, l)) :
    ((s.loggedAt place).synchronize d).on (ledger, calls)
      = (answer, l, calls ++ [(place, .synchronize d answer)]) := by
  show ((s.synchronize d).noted fun answer => (place, Call.synchronize d answer)).on _ = _
  exact Work.noted_on h calls

theorem attach_loggedAt {v : Vulnerability} {component : String} {answer : Except Failure Bool}
    (h : (s.attach v component).on ledger = (answer, l)) :
    ((s.loggedAt place).attach v component).on (ledger, calls)
      = (answer, l, calls ++ [(place, .attach v component answer)]) := by
  show ((s.attach v component).noted fun answer => (place, Call.attach v component answer)).on _
    = _
  exact Work.noted_on h calls

theorem settlePredicate_on (s : Session σ) (p : Predicate) (state : σ) :
    (s.settlePredicate p).on state
      = (((s.find p).on state).1.map (·.getD p), ((s.find p).on state).2) := by
  unfold settlePredicate
  rw [Work.on_bind]
  rcases (s.find p).on state with ⟨_ | _, t⟩ <;> rfl

theorem settlePredicate_loggedAt {p : Predicate} {answer : Except Failure (Option Predicate)}
    (h : (s.find p).on ledger = (answer, l)) :
    ((s.loggedAt place).settlePredicate p).on (ledger, calls)
      = (answer.map (·.getD p), l, calls ++ [(place, .find p answer)]) := by
  have hfind : ((s.loggedAt place).find p).on (ledger, calls)
      = (answer, l, calls ++ [(place, .find p answer)]) := by
    show ((s.find p).noted fun answer => (place, Call.find p answer)).on _ = _
    exact Work.noted_on h calls
  rw [settlePredicate_on, hfind]

end Session

/-- A reply is written down if the request can be sent at all. -/
theorem Peer.request_loggedAt {π : Type} (p : Peer π) (place : Nat)
    (s : π × List (Nat × Option Reply)) (r : Request) :
    ∃ replies : List (Option Reply), replies.head?.join = (p.request s.1 r).1 ∧
      (p.loggedAt place).request s r
        = ((p.request s.1 r).1, (p.request s.1 r).2, s.2 ++ replies.map (place, ·)) := by
  unfold Peer.request
  by_cases hsent : r.authorization.all mayStandInHeader = true
  · refine ⟨[(p.send s.1 r).1], ?_, ?_⟩
    · rw [if_pos hsent]
      rfl
    · rw [if_pos hsent, if_pos hsent]
      rfl
  · refine ⟨[], ?_, ?_⟩
    · rw [if_neg hsent]
      rfl
    · rw [if_neg hsent, if_neg hsent, List.map_nil, List.append_nil]

namespace Dispatcher

variable {σ π : Type} {d : Dispatcher σ π} {token : ApiToken} {c : Component} {place : Nat}

/-! ## Forgetting -/

theorem requestFor_loggedAt (package : Coordinate) :
    (d.loggedAt place).requestFor token package = d.requestFor token package := rfl

theorem batchOf_loggedAt (url : String) (reply : Option Reply) :
    (d.loggedAt place).batchOf url reply = d.batchOf url reply := rfl

theorem session_loggedAt : (d.loggedAt place).session = d.session.loggedAt place := rfl

theorem peer_loggedAt : (d.loggedAt place).peer = d.peer.loggedAt place := rfl

theorem act_forget (d : Dispatcher σ π) (token : ApiToken) (c : Component) (place : Nat) (k : Task)
    (f : WatchState σ π) : d.act token c k f.forget
      = (((d.loggedAt place).act token c k f).1.forget,
        ((d.loggedAt place).act token c k f).2) := by
  obtain ⟨⟨ledger, calls⟩, ⟨peer, replies⟩, processed, failed, progress⟩ := f
  show d.act token c k ⟨ledger, peer, processed, failed, progress⟩ = _
  cases k with
  | request =>
      cases hpackage : c.coordinate? with
      | none =>
          simp only [act, hpackage]
          rfl
      | some package =>
          obtain ⟨more, -, hrequest⟩ :=
            d.peer.request_loggedAt place (peer, replies) (d.requestFor token package)
          simp only [act, hpackage, requestFor_loggedAt, batchOf_loggedAt, peer_loggedAt, hrequest]
          cases d.batchOf (d.requestFor token package).url
            (d.peer.request peer (d.requestFor token package)).1 with
          | error e => rfl
          | ok b =>
              by_cases hempty : b.advisories.isEmpty = true
              · simp only [if_pos hempty]
                rfl
              · simp only [if_neg hempty, RunState.forget]
  | acquire package b =>
      cases h : d.session.acquire.on ledger with
      | mk answer l =>
          cases answer <;> simp only [act, session_loggedAt, h, Session.acquire_loggedAt h] <;> rfl
  | draft n =>
      obtain ⟨package, drafts, rest⟩ := n
      cases rest <;> rfl
  | settle n record settled wanted =>
      cases wanted with
      | nil => rfl
      | cons p wanted =>
          cases h : (d.session.find p).on ledger with
          | mk answer l =>
              cases answer <;>
                simp only [act, session_loggedAt, Session.settlePredicate_on, h,
                  Session.settlePredicate_loggedAt h, Except.map] <;> rfl
  | write drafts =>
      cases drafts with
      | nil => rfl
      | cons draft drafts =>
          cases h : (d.session.synchronize draft).on ledger with
          | mk answer l =>
              rcases answer with e | v
              · cases e <;>
                  simp only [act, session_loggedAt, h, Session.synchronize_loggedAt h] <;> rfl
              · simp only [act, session_loggedAt, h, Session.synchronize_loggedAt h]
                rfl
  | tell v drafts => rfl
  | attach v drafts =>
      cases h : (d.session.attach v c.id).on ledger with
      | mk answer l =>
          cases answer <;> simp only [act, session_loggedAt, h, Session.attach_loggedAt h] <;> rfl

/-- A watched run does what the run does. -/
theorem watches_forget (d : Dispatcher σ π) (token : ApiToken) :
    (d.watchServer token).Watches (d.server token) (·.1) RunState.forget where
  start := fun _ => rfl
  act := fun e k f => d.act_forget token e.1 e.2 k f

/-! ## Where a worker stands -/

/-- What was written down for a component, and the events that were told for it. -/
structure Notes where
  replies : List (Option Reply)
  calls : List Call
  events : List IndexEvent

namespace Notes

def append (n more : Notes) : Notes :=
  ⟨n.replies ++ more.replies, n.calls ++ more.calls, n.events ++ more.events⟩

/-- The reply to the request for the component. -/
def reply (n : Notes) : Option Reply := n.replies.head?.join

end Notes

/-- The reply for the component has the batch. -/
def Came (d : Dispatcher σ π) (token : ApiToken) (c : Component) (n : Notes) (b : AdvisoryBatch) :
    Prop :=
  ∃ package, c.coordinate? = some package ∧
    d.batchOf (d.requestFor token package).url n.reply = .ok b

/-- Drafts are being made. The advisories of the batch are those with the events `upcoming`. -/
structure Reading (d : Dispatcher σ π) (token : ApiToken) (c : Component)
    (upcoming : List (Option IndexEvent)) (n : Notes) : Prop where
  came : ∃ b, d.Came token c n b ∧ b.advisories.map (Advisory.event? d.source) = upcoming
  calls : ∀ call ∈ n.calls, call.stop? = none ∧ call.event? = none
  events : n.events = []

/-- Drafts are being written. The advisories of the batch are those that had their turn, which
have the events that were told among theirs, and then those of the drafts that are left. -/
structure Writing (d : Dispatcher σ π) (token : ApiToken) (c : Component) (drafts : List Draft)
    (n : Notes) : Prop where
  came : ∃ b past, d.Came token c n b ∧ b.advisories.map (Advisory.event? d.source)
      = past ++ drafts.map (fun draft => IndexEvent.commit? draft.record) ∧
    n.events.Sublist (past.filterMap id)
  calls : ∀ call ∈ n.calls, call.stop? = none
  events : n.events = n.calls.filterMap Call.event?

/-- What was told for a component are the events of the records that were stored for it, and
they come in the order of its advisories. -/
structure Told (d : Dispatcher σ π) (token : ApiToken) (c : Component) (n : Notes) : Prop where
  events : n.events = n.calls.filterMap Call.event?
  ordered : n.events.Sublist
    ((d.advisoriesOf token c n.reply).filterMap (Advisory.event? d.source))

/-- What was written down for a component fits the place where its worker stands. -/
inductive Standing (d : Dispatcher σ π) (token : ApiToken) (c : Component) :
    Option Task → Notes → Prop
  | request : Standing d token c (some .request) ⟨[], [], []⟩
  | acquire {package b replies} : d.Came token c ⟨replies, [], []⟩ b →
    Standing d token c (some (.acquire package b)) ⟨replies, [], []⟩
  | draft {m n} :
    d.Reading token c (m.drafts.map (fun draft => IndexEvent.commit? draft.record)
      ++ m.rest.map (Advisory.event? d.source)) n →
    Standing d token c (some (.draft m)) n
  | settle {m record settled wanted n} :
    d.Reading token c (m.drafts.map (fun draft => IndexEvent.commit? draft.record)
      ++ IndexEvent.commit? record :: m.rest.map (Advisory.event? d.source)) n →
    Standing d token c (some (.settle m record settled wanted)) n
  | write {drafts n} : d.Writing token c drafts n → Standing d token c (some (.write drafts)) n
  | tell {v drafts n event} : IndexEvent.commit? v = some event →
    d.Writing token c drafts (n.append ⟨[], [], [event]⟩) →
    Standing d token c (some (.tell v drafts)) n
  | attach {v drafts n} : d.Writing token c drafts n →
    Standing d token c (some (.attach v drafts)) n
  | finish {n} : d.Told token c n → Standing d token c none n

/-- A record was written and is not told yet. -/
def isUntold : Option Task → Bool
  | some (.tell ..) => true
  | _ => false

@[simp] theorem isUntold_none : isUntold none = false := rfl

/-- The component is finished, and it failed or it did not. -/
def isCounted (d : Dispatcher σ π) (c : Component) (n : Notes) (k : Option Task) (failed : Bool) :
    Bool :=
  k.isNone && d.fails c n.reply n.calls == failed

/-- What the next thing that a worker does for the component at a place comes to: it adds to
the notes, tells what it adds to the events, and is counted if it is the last one. -/
structure Did (d : Dispatcher σ π) (token : ApiToken) (c : Component) (place : Nat) (k : Task)
    (n more : Notes) (f : WatchState σ π) (r : WatchState σ π × Option Task) : Prop where
  standing : d.Standing token c r.2 (n.append more)
  replies : r.1.peer.2 = f.peer.2 ++ more.replies.map (place, ·)
  calls : r.1.ledger.2 = f.ledger.2 ++ more.calls.map (place, ·)
  events : r.1.progress.events = f.progress.events ++ more.events
  synchronized : r.1.progress.synchronized = f.progress.synchronized + more.events.length
  stored : more.calls.countP (·.stored?.isSome) + (isUntold (some k)).toNat
    = more.events.length + (isUntold r.2).toNat
  processed : r.1.processed = f.processed + (d.isCounted c (n.append more) r.2 false).toNat
  failed : r.1.failed = f.failed + (d.isCounted c (n.append more) r.2 true).toNat

/-! ### Notes that grow -/

section Notes

variable {n : Notes} {b : AdvisoryBatch} {call : Call} {upcoming : List (Option IndexEvent)}
  {drafts : List Draft}

@[simp] theorem Notes.reply_append (n : Notes) (calls : List Call) (events : List IndexEvent) :
    (n.append ⟨[], calls, events⟩).reply = n.reply := by
  simp [Notes.reply, Notes.append]

@[simp] theorem Notes.calls_append (n : Notes) (replies : List (Option Reply)) (calls : List Call)
    (events : List IndexEvent) : (n.append ⟨replies, calls, events⟩).calls = n.calls ++ calls := rfl

@[simp] theorem Notes.events_append (n : Notes) (replies : List (Option Reply))
    (calls : List Call) (events : List IndexEvent) :
    (n.append ⟨replies, calls, events⟩).events = n.events ++ events := rfl

@[simp] theorem came_append {calls : List Call} {events : List IndexEvent} :
    d.Came token c (n.append ⟨[], calls, events⟩) b ↔ d.Came token c n b := by
  unfold Came
  rw [Notes.reply_append]

theorem Came.advisoriesOf (h : d.Came token c n b) :
    d.advisoriesOf token c n.reply = b.advisories := by
  obtain ⟨package, hpackage, hbatch⟩ := h
  simp only [Dispatcher.advisoriesOf, hpackage, hbatch]

/-- With a batch only a call can make the component fail. -/
theorem Came.fails_eq (h : d.Came token c n b) (calls : List Call) :
    d.fails c n.reply calls = calls.any (·.stop?.isSome) := by
  obtain ⟨package, hpackage, hbatch⟩ := h
  unfold fails
  cases hreply : n.reply with
  | none =>
      rw [hreply] at hbatch
      cases hbatch
  | some r =>
      rw [hreply, batchOf] at hbatch
      by_cases hstatus : r.status ≠ 200
      · rw [if_pos hstatus] at hbatch
        cases hbatch
      · rw [if_neg hstatus] at hbatch
        cases hdecoded : d.shape.decode? r.body with
        | none =>
            rw [hdecoded] at hbatch
            cases hbatch
        | some b' => simp [hpackage, hdecoded, not_not.mp hstatus]

theorem fails_of_batchOf_eq_error {url : String} {reply : Option Reply}
    {e : Failure} (hbatch : d.batchOf url reply = .error e) (calls : List Call) :
    d.fails c reply calls = true := by
  unfold fails
  cases reply with
  | none => simp
  | some r =>
      rw [batchOf] at hbatch
      by_cases hstatus : r.status ≠ 200
      · simp [hstatus]
      · rw [if_neg hstatus] at hbatch
        cases hdecoded : d.shape.decode? r.body with
        | none => simp [hdecoded]
        | some b =>
            rw [hdecoded] at hbatch
            cases hbatch

theorem fails_of_stop? {reply : Option Reply} {calls : List Call} (hcall : call ∈ calls)
    (hstop : call.stop?.isSome = true) : d.fails c reply calls = true := by
  have hany : calls.any (·.stop?.isSome) = true := List.any_eq_true.mpr ⟨call, hcall, hstop⟩
  unfold fails
  cases reply <;> simp [hany]

theorem Reading.told (h : d.Reading token c upcoming n) : d.Told token c n where
  events := by
    rw [h.events, eq_comm, List.filterMap_eq_nil_iff]
    exact fun call hcall => (h.calls call hcall).2
  ordered := by
    rw [h.events]
    exact List.nil_sublist _

theorem Writing.told (h : d.Writing token c drafts n) : d.Told token c n where
  events := h.events
  ordered := by
    obtain ⟨b, past, hcame, hadvisories, hpast⟩ := h.came
    have hevents : b.advisories.filterMap (Advisory.event? d.source)
        = (b.advisories.map (Advisory.event? d.source)).filterMap id := by
      rw [List.filterMap_map]
      rfl
    rw [hcame.advisoriesOf, hevents, hadvisories, List.filterMap_append]
    exact hpast.trans (List.sublist_append_left _ _)

theorem Told.append (h : d.Told token c n) (hcall : call.event? = none) :
    d.Told token c (n.append ⟨[], [call], []⟩) where
  events := by simp [h.events, hcall]
  ordered := by simpa using h.ordered

theorem Reading.append (h : d.Reading token c upcoming n) (hstop : call.stop? = none)
    (hevent : call.event? = none) : d.Reading token c upcoming (n.append ⟨[], [call], []⟩) where
  came := by simpa using h.came
  calls := List.forall_mem_append.mpr ⟨h.calls, List.forall_mem_singleton.mpr ⟨hstop, hevent⟩⟩
  events := by simp [h.events]

/-- A call that leaves the drafts alone. -/
theorem Writing.append (h : d.Writing token c drafts n) (hstop : call.stop? = none)
    (hevent : call.event? = none) : d.Writing token c drafts (n.append ⟨[], [call], []⟩) where
  came := by simpa using h.came
  calls := List.forall_mem_append.mpr ⟨h.calls, List.forall_mem_singleton.mpr hstop⟩
  events := by simp [h.events, hevent]

/-- A draft that is passed over. -/
theorem Writing.skip {draft : Draft} (h : d.Writing token c (draft :: drafts) n) :
    d.Writing token c drafts n where
  came := by
    obtain ⟨b, past, hcame, hadvisories, hpast⟩ := h.came
    refine ⟨b, past ++ [IndexEvent.commit? draft.record], hcame, ?_, ?_⟩
    · rw [hadvisories, List.map_cons, List.append_assoc, List.singleton_append]
    · rw [List.filterMap_append]
      exact hpast.trans (List.sublist_append_left _ _)
  calls := h.calls
  events := h.events

/-- A draft that is written, and whose event is told. -/
theorem Writing.store {draft : Draft} {v : Vulnerability} {event : IndexEvent}
    (h : d.Writing token c (draft :: drafts) n) (hv : IndexEvent.commit? v = some event)
    (hdraft : IndexEvent.commit? draft.record = some event) :
    d.Writing token c drafts (n.append ⟨[], [.synchronize draft (.ok v)], [event]⟩) where
  came := by
    obtain ⟨b, past, hcame, hadvisories, hpast⟩ := h.came
    refine ⟨b, past ++ [IndexEvent.commit? draft.record], came_append.mpr hcame, ?_, ?_⟩
    · rw [hadvisories, List.map_cons, List.append_assoc, List.singleton_append]
    · rw [List.filterMap_append, hdraft]
      exact hpast.append (List.Sublist.refl [event])
  calls := List.forall_mem_append.mpr ⟨h.calls, List.forall_mem_singleton.mpr rfl⟩
  events := by simp [h.events, Call.event?, Call.stored?, hv]

end Notes

/-! ## What a worker does next -/

section Act

variable {n : Notes} {f : WatchState σ π} {l : σ} {call : Call}

/-- A step inside the worker, which nobody else sees. -/
theorem did_nothing {k k' : Task} (hk : isUntold (some k) = isUntold (some k'))
    (h : d.Standing token c (some k') n) :
    d.Did token c place k n ⟨[], [], []⟩ f (f, some k') where
  standing := by simpa [Notes.append] using h
  replies := by simp
  calls := by simp
  events := by simp
  synchronized := rfl
  stored := by simp [hk]
  processed := rfl
  failed := rfl

/-- A call after which the worker goes on. -/
theorem did_call {k k' : Task}
    (hstored : [call].countP (·.stored?.isSome) + (isUntold (some k)).toNat
      = (isUntold (some k')).toNat)
    (h : d.Standing token c (some k') (n.append ⟨[], [call], []⟩)) :
    d.Did token c place k n ⟨[], [call], []⟩ f
      ({ f with ledger := (l, f.ledger.2 ++ [(place, call)]) }, some k') where
  standing := h
  replies := by simp
  calls := rfl
  events := by simp
  synchronized := rfl
  stored := by simpa using hstored
  processed := rfl
  failed := rfl

theorem stored?_eq_none_of_stop? (hstop : call.stop?.isSome = true) : call.stored? = none := by
  cases call with
  | synchronize draft answer =>
      cases answer with
      | error e => rfl
      | ok v => cases hstop
  | _ => rfl

theorem event?_eq_none_of_stored? (hstored : call.stored? = none) : call.event? = none := by
  rw [Call.event?, hstored]
  rfl

/-- A call with a failure that ends the batch. -/
theorem did_fail {k : Task} (hk : isUntold (some k) = false) (hstop : call.stop?.isSome = true)
    (h : d.Told token c n) :
    d.Did token c place k n ⟨[], [call], []⟩ f
      (RunState.fail { f with ledger := (l, f.ledger.2 ++ [(place, call)]) }, none) := by
  have hstored := stored?_eq_none_of_stop? hstop
  have hfails : d.fails c n.reply (n.calls ++ [call]) = true :=
    fails_of_stop? (List.mem_append_right _ (List.mem_singleton_self call)) hstop
  constructor
  case standing => exact .finish (h.append (event?_eq_none_of_stored? hstored))
  case calls => rfl
  case stored => simp [hstored, hk]
  all_goals simp [RunState.fail, isCounted, hfails]

/-- The last step of a component for which nothing failed. -/
theorem did_succeed {k : Task} (hk : isUntold (some k) = false)
    (hfails : d.fails c n.reply n.calls = false) (h : d.Told token c n) :
    d.Did token c place k n ⟨[], [], []⟩ f (f.succeed, none) where
  standing := by simpa [Notes.append] using Standing.finish h
  replies := by simp [RunState.succeed]
  calls := by simp [RunState.succeed]
  events := by simp [RunState.succeed]
  synchronized := rfl
  stored := by simp [hk]
  processed := by simp [RunState.succeed, isCounted, hfails]
  failed := by simp [RunState.succeed, isCounted, hfails]

/-! ### Each kind of task -/

theorem told_replies (replies : List (Option Reply)) : d.Told token c ⟨replies, [], []⟩ where
  events := rfl
  ordered := List.nil_sublist _

theorem act_request (f : WatchState σ π) : ∃ more, d.Did token c place .request ⟨[], [], []⟩ more f
    ((d.loggedAt place).act token c .request f) := by
  cases hpackage : c.coordinate? with
  | none =>
      have hfails : d.fails c none [] = true := by simp [fails, hpackage]
      refine ⟨⟨[], [], []⟩, ?_⟩
      simp only [act, hpackage]
      constructor
      case standing => exact .finish (told_replies [])
      case stored => rfl
      all_goals simp [RunState.fail, Notes.append, Notes.reply, isCounted, hfails]
  | some package =>
      obtain ⟨replies, hreply, hrequest⟩ :=
        d.peer.request_loggedAt place f.peer (d.requestFor token package)
      refine ⟨⟨replies, [], []⟩, ?_⟩
      simp only [act, hpackage, requestFor_loggedAt, batchOf_loggedAt, peer_loggedAt, hrequest,
        ← hreply]
      cases hbatch : d.batchOf (d.requestFor token package).url replies.head?.join with
      | error e =>
          have hfails := fails_of_batchOf_eq_error (c := c) hbatch []
          constructor
          case standing => exact .finish (told_replies replies)
          case stored => rfl
          all_goals simp [RunState.fail, Notes.append, Notes.reply, isCounted, hfails]
      | ok b =>
          have hcame : d.Came token c ⟨replies, [], []⟩ b := ⟨package, hpackage, hbatch⟩
          by_cases hempty : b.advisories.isEmpty = true
          · have hfails : d.fails c replies.head?.join [] = false := hcame.fails_eq []
            simp only [if_pos hempty]
            constructor
            case standing => exact .finish (told_replies replies)
            case stored => rfl
            all_goals simp [RunState.succeed, Notes.append, Notes.reply, isCounted, hfails]
          · simp only [if_neg hempty]
            constructor
            case standing => exact .acquire hcame
            case stored => rfl
            all_goals simp [isCounted]

theorem act_acquire {package : Coordinate} {b : AdvisoryBatch} {replies : List (Option Reply)}
    (h : d.Came token c ⟨replies, [], []⟩ b) (f : WatchState σ π) :
    ∃ more, d.Did token c place (.acquire package b) ⟨replies, [], []⟩ more f
      ((d.loggedAt place).act token c (.acquire package b) f) := by
  have hreading : d.Reading token c (b.advisories.map (Advisory.event? d.source))
      ⟨replies, [], []⟩ := ⟨⟨b, h, rfl⟩, by simp, rfl⟩
  cases hanswer : d.session.acquire.on f.ledger.1 with
  | mk answer l =>
      have hcall : (d.loggedAt place).session.acquire.on f.ledger
          = (answer, l, f.ledger.2 ++ [(place, .acquire answer)]) :=
        Session.acquire_loggedAt hanswer
      refine ⟨⟨[], [.acquire answer], []⟩, ?_⟩
      cases answer with
      | error e =>
          simp only [act, hcall]
          exact did_fail rfl rfl hreading.told
      | ok u =>
          simp only [act, hcall]
          exact did_call rfl (.draft (hreading.append rfl rfl))

theorem act_draft {m : Drafting} (h : d.Reading token c (m.drafts.map
      (fun draft => IndexEvent.commit? draft.record) ++ m.rest.map (Advisory.event? d.source)) n)
    (f : WatchState σ π) : ∃ more, d.Did token c place (.draft m) n more f
      ((d.loggedAt place).act token c (.draft m) f) := by
  obtain ⟨package, drafts, rest⟩ := m
  refine ⟨⟨[], [], []⟩, ?_⟩
  cases rest with
  | nil =>
      refine did_nothing rfl (.write ⟨?_, fun call hcall => (h.calls call hcall).1, h.told.events⟩)
      obtain ⟨b, hcame, hadvisories⟩ := h.came
      rw [List.map_nil, List.append_nil] at hadvisories
      exact ⟨b, [], hcame, hadvisories, by rw [h.events]; exact List.nil_sublist _⟩
  | cons a rest => exact did_nothing rfl (.settle h)

theorem act_settle {m : Drafting} {record : Vulnerability} {settled wanted : List Predicate}
    (h : d.Reading token c (m.drafts.map (fun draft => IndexEvent.commit? draft.record)
      ++ IndexEvent.commit? record :: m.rest.map (Advisory.event? d.source)) n)
    (f : WatchState σ π) : ∃ more, d.Did token c place (.settle m record settled wanted) n more f
      ((d.loggedAt place).act token c (.settle m record settled wanted) f) := by
  cases wanted with
  | nil =>
      refine ⟨⟨[], [], []⟩, did_nothing rfl (.draft ?_)⟩
      rw [List.map_append, List.append_assoc]
      exact h
  | cons p wanted =>
      cases hanswer : (d.session.find p).on f.ledger.1 with
      | mk answer l =>
          have hcall : ((d.loggedAt place).session.settlePredicate p).on f.ledger
              = (answer.map (·.getD p), l, f.ledger.2 ++ [(place, .find p answer)]) :=
            Session.settlePredicate_loggedAt hanswer
          refine ⟨⟨[], [.find p answer], []⟩, ?_⟩
          cases answer with
          | error e =>
              simp only [act, hcall, Except.map]
              exact did_fail rfl rfl h.told
          | ok found =>
              simp only [act, hcall, Except.map]
              exact did_call rfl (.settle (h.append rfl rfl))

theorem act_write (hkeys : d.session.KeepsKeys) {drafts : List Draft}
    (h : d.Writing token c drafts n) (f : WatchState σ π) :
    ∃ more, d.Did token c place (.write drafts) n more f
      ((d.loggedAt place).act token c (.write drafts) f) := by
  cases drafts with
  | nil =>
      have hfails : d.fails c n.reply n.calls = false := by
        obtain ⟨b, -, hcame, -⟩ := h.came
        rw [hcame.fails_eq, List.any_eq_false]
        intro call hcall
        rw [h.calls call hcall]
        exact Bool.false_ne_true
      exact ⟨⟨[], [], []⟩, did_succeed rfl hfails h.told⟩
  | cons draft drafts =>
      cases hanswer : (d.session.synchronize draft).on f.ledger.1 with
      | mk answer l =>
          have hcall : ((d.loggedAt place).session.synchronize draft).on f.ledger
              = (answer, l, f.ledger.2 ++ [(place, .synchronize draft answer)]) :=
            Session.synchronize_loggedAt hanswer
          refine ⟨⟨[], [.synchronize draft answer], []⟩, ?_⟩
          cases answer with
          | error e =>
              cases e with
              | payload fault =>
                  simp only [act, hcall]
                  exact did_call rfl (.write (h.skip.append rfl rfl))
              | _ =>
                  simp only [act, hcall]
                  exact did_fail rfl rfl h.told
          | ok v =>
              obtain ⟨event, hv, hdraft⟩ := hkeys draft _ v l hanswer
              simp only [act, hcall]
              refine did_call rfl (.tell hv ?_)
              simpa [Notes.append] using h.store hv hdraft

theorem act_tell {v : Vulnerability} {event : IndexEvent} {drafts : List Draft}
    (hv : IndexEvent.commit? v = some event)
    (h : d.Writing token c drafts (n.append ⟨[], [], [event]⟩)) (f : WatchState σ π) :
    ∃ more, d.Did token c place (.tell v drafts) n more f
      ((d.loggedAt place).act token c (.tell v drafts) f) := by
  refine ⟨⟨[], [], [event]⟩, ?_⟩
  constructor
  case standing => exact .attach h
  case events => simp [act, Progress.record, hv]
  case stored => rfl
  all_goals simp [act, Progress.record, isCounted]

theorem act_attach {v : Vulnerability} {drafts : List Draft} (h : d.Writing token c drafts n)
    (f : WatchState σ π) : ∃ more, d.Did token c place (.attach v drafts) n more f
      ((d.loggedAt place).act token c (.attach v drafts) f) := by
  cases hanswer : (d.session.attach v c.id).on f.ledger.1 with
  | mk answer l =>
      have hcall : ((d.loggedAt place).session.attach v c.id).on f.ledger
          = (answer, l, f.ledger.2 ++ [(place, .attach v c.id answer)]) :=
        Session.attach_loggedAt hanswer
      refine ⟨⟨[], [.attach v c.id answer], []⟩, ?_⟩
      cases answer with
      | error e =>
          simp only [act, hcall]
          exact did_fail rfl rfl h.told
      | ok known =>
          simp only [act, hcall]
          exact did_call rfl (.write (h.append rfl rfl))

/-- Whatever a worker has to do next for a component, it adds to what was written down and is
counted if it was the last thing. -/
theorem act_spec (hkeys : d.session.KeepsKeys) {k : Task} (h : d.Standing token c (some k) n)
    (f : WatchState σ π) :
    ∃ more, d.Did token c place k n more f ((d.loggedAt place).act token c k f) := by
  cases h with
  | request => exact act_request f
  | acquire hcame => exact act_acquire hcame f
  | draft hreading => exact act_draft hreading f
  | settle hreading => exact act_settle hreading f
  | write hwriting => exact act_write hkeys hwriting f
  | tell hv hwriting => exact act_tell hv hwriting f
  | attach hwriting => exact act_attach hwriting f

/-! ### One component alone -/

/-- What is done next adds to what was done before. -/
theorem Did.trans {k j : Task} {more more' : Notes} {s r : WatchState σ π × Option Task}
    (h : d.Did token c place k n more f s) (hs : s.2 = some j)
    (h' : d.Did token c place j (n.append more) more' s.1 r) :
    d.Did token c place k n (more.append more') f r where
  standing := by simpa [Notes.append] using h'.standing
  replies := by simp [h'.replies, h.replies, Notes.append]
  calls := by simp [h'.calls, h.calls, Notes.append]
  events := by simp [h'.events, h.events, Notes.append]
  synchronized := by
    rw [h'.synchronized, h.synchronized, Notes.append, List.length_append, Nat.add_assoc]
  stored := by
    have hfirst := h.stored
    have hrest := h'.stored
    rw [hs] at hfirst
    rw [Notes.append, List.countP_append, List.length_append]
    omega
  processed := by simp [h'.processed, h.processed, hs, isCounted, Notes.append]
  failed := by simp [h'.failed, h.failed, hs, isCounted, Notes.append]

theorem did_of_alone (hkeys : d.session.KeepsKeys) {k : Task} {g : WatchState σ π}
    (halone : Alone ((d.loggedAt place).act token c) k f g) (h : d.Standing token c (some k) n) :
    ∃ more, d.Did token c place k n more f (g, none) := by
  induction halone generalizing n with
  | @last k f g hact =>
      obtain ⟨more, hdid⟩ : ∃ more, d.Did token c place k n more f _ := act_spec hkeys h f
      rw [hact] at hdid
      exact ⟨more, hdid⟩
  | @next k j f _ g hact _ ih =>
      obtain ⟨more, hdid⟩ : ∃ more, d.Did token c place k n more f _ := act_spec hkeys h f
      rw [hact] at hdid
      obtain ⟨more', hrest⟩ := ih hdid.standing
      exact ⟨more.append more', hdid.trans rfl hrest⟩

/-- A look-up counts nothing. -/
theorem lookup_failed (d : Dispatcher σ π) (token : ApiToken) (c : Component)
    (f : RunState σ π) : (d.lookup token c f).2.failed = f.failed := by
  unfold lookup
  cases c.coordinate? with
  | none => rfl
  | some package =>
      cases hbatch : d.batchOf (d.requestFor token package).url
        (d.peer.request f.peer (d.requestFor token package)).1 with
      | error e => simp only [hbatch]
      | ok b =>
          simp only [hbatch]
          split <;> rfl

theorem process_of_lookup_error {d : Dispatcher σ π} {f g : RunState σ π} {e : Failure}
    (h : d.lookup token c f = (.error e, g)) : d.process token f c = g.fail := by
  rw [process, h]
  rfl

theorem process_of_lookup_ok {d : Dispatcher σ π} {f g : RunState σ π}
    (h : d.lookup token c f = (.ok (), g)) : d.process token f c = g.succeed := by
  rw [process, h]
  rfl

/-- A component that is looked up alone comes back with an error if it fails, that is for one
of the reasons that `fails` lists. -/
theorem lookup_eq_error_iff (hkeys : d.session.KeepsKeys) (token : ApiToken) (c : Component)
    (place : Nat) (f : WatchState σ π) :
    ∃ (replies : List (Option Reply)) (calls : List Call),
      ((d.loggedAt place).lookup token c f).2.peer.2 = f.peer.2 ++ replies.map (place, ·) ∧
      ((d.loggedAt place).lookup token c f).2.ledger.2 = f.ledger.2 ++ calls.map (place, ·) ∧
      ((∃ e, ((d.loggedAt place).lookup token c f).1 = .error e) ↔
        d.fails c replies.head?.join calls = true) := by
  obtain ⟨more, hdid⟩ := did_of_alone hkeys (alone_process (d.loggedAt place) token c f) .request
  have hverdict : d.isCounted c (Notes.append ⟨[], [], []⟩ more) none true
      = d.fails c more.replies.head?.join more.calls := by
    simp [isCounted, Notes.append, Notes.reply]
  have hbefore := lookup_failed (d.loggedAt place) token c f
  have hcount := hdid.failed
  rw [hverdict] at hcount
  rcases hresult : (d.loggedAt place).lookup token c f with ⟨e | u, g⟩
  · rw [process_of_lookup_error hresult] at hdid hcount
    rw [hresult] at hbefore
    refine ⟨more.replies, more.calls, hdid.replies, hdid.calls, fun _ => ?_, fun _ => ⟨e, rfl⟩⟩
    cases hfails : d.fails c more.replies.head?.join more.calls with
    | true => rfl
    | false =>
        rw [hfails] at hcount
        simp only [RunState.fail, Bool.toNat_false] at hcount hbefore
        omega
  · rw [process_of_lookup_ok hresult] at hdid hcount
    rw [hresult] at hbefore
    refine ⟨more.replies, more.calls, hdid.replies, hdid.calls, nofun, fun hfails => ?_⟩
    rw [hfails] at hcount
    simp only [RunState.succeed, Bool.toNat_true] at hcount hbefore
    omega

end Act

end Dispatcher
end AdvisoryLedger
