import AdvisoryLedger.Dispatch.CallLog
import AdvisoryLedger.Dispatch.Workers

/-!
# Runs that are watched

A watched run does what the run does and writes down, for the place of each component in the
list, the reply to its request and the calls that its worker made of the session. It is the
same run of the same workers: the session and the peer of a worker are those of the run, with
a log that has the place of the component in it. So one can say for which components something
failed, while the run itself only counts them.
-/

namespace AdvisoryLedger

/-! ### Logs by place -/

/-- The session with a log of its calls, made for the component at a place. -/
def Session.loggedAt {σ : Type} (s : Session σ) (place : Nat) : Session (σ × List (Nat × Call)) :=
  { acquire := s.acquire.noted fun answer => (place, .acquire answer)
    resolve := fun (state, _) text => s.resolve state text
    find := fun p => (s.find p).noted fun answer => (place, .find p answer)
    synchronize := fun d => (s.synchronize d).noted fun answer => (place, .synchronize d answer)
    attach := fun v component =>
      (s.attach v component).noted fun answer => (place, .attach v component answer) }

/-- The peer with a log of its replies. -/
def Peer.loggedAt {π : Type} (p : Peer π) (place : Nat) : Peer (π × List (Nat × Option Reply)) :=
  { send := fun (state, log) request =>
      let (reply, state) := p.send state request
      (reply, (state, log ++ [(place, reply)])) }

/-- What a log has for a place. -/
def logAt {α : Type} (place : Nat) (log : List (Nat × α)) : List α :=
  log.filterMap fun entry => if entry.1 = place then some entry.2 else none

/-- The state of a watched run. -/
abbrev WatchState (σ π : Type) := RunState (σ × List (Nat × Call)) (π × List (Nat × Option Reply))

namespace RunState

variable {σ π : Type}

/-- The run without what was written down. -/
def forget (f : WatchState σ π) : RunState σ π :=
  { ledger := f.ledger.1
    peer := f.peer.1
    processed := f.processed
    failed := f.failed
    progress := f.progress }

/-- The reply to the request for the component at a place. There is none without a request. -/
def replyAt (f : WatchState σ π) (place : Nat) : Option Reply := (logAt place f.peer.2).head?.join

/-- The calls that were made for the component at a place. -/
def callsAt (f : WatchState σ π) (place : Nat) : List Call := logAt place f.ledger.2

end RunState

namespace Dispatcher

variable {σ π : Type}

/-- The dispatcher that writes down what it does for the component at a place. -/
def loggedAt (d : Dispatcher σ π) (place : Nat) :
    Dispatcher (σ × List (Nat × Call)) (π × List (Nat × Option Reply)) :=
  { settings := d.settings
    source := d.source
    session := d.session.loggedAt place
    peer := d.peer.loggedAt place }

/-- The service of components with their places, which is written down. -/
def watchServer (d : Dispatcher σ π) (token : ApiToken) :
    Server (WatchState σ π) (Component × Nat) Task :=
  { start := fun _ => .request, act := fun e => (d.loggedAt e.2).act token e.1 }

/-- Everything that a watched run may come to from a store and a peer. -/
def WatchedRun (d : Dispatcher σ π) (token : ApiToken) (components : List Component) (ledger : σ)
    (peer : π) (g : WatchState σ π) : Prop :=
  PagesRun (d.watchServer token) d.settings.workers
    (pages d.settings.pageLength components.zipIdx) (.start (ledger, []) (peer, [])) g

/-! ### What the logs tell -/

/-- A component fails: its package URL cannot be used, there is no reply to its request, the
reply has another status than 200 or a body that cannot be decoded, or a call of the session
was answered with a failure that ends its batch. -/
def fails (d : Dispatcher σ π) (c : Component) (reply : Option Reply) (calls : List Call) : Bool :=
  c.coordinate?.isNone ||
    match reply with
    | none => true
    | some r =>
      decide (r.status ≠ 200) || (d.shape.decode? r.body).isNone || calls.any (·.stop?.isSome)

/-- The advisories in the reply for a component, if there are any. -/
def advisoriesOf (d : Dispatcher σ π) (token : ApiToken) (c : Component) (reply : Option Reply) :
    List Advisory :=
  match c.coordinate? with
  | none => []
  | some package =>
    match d.batchOf (d.requestFor token package).url reply with
    | .ok b => b.advisories
    | .error _ => []

end Dispatcher

/-- The event for an advisory, which has to have an identifier. -/
def Advisory.event? (source : Source) (a : Advisory) : Option IndexEvent :=
  a.id.map fun id => ⟨source, id⟩

/-- The event for a record that was stored by a call. -/
def Call.event? (c : Call) : Option IndexEvent := c.stored?.bind IndexEvent.commit?

end AdvisoryLedger
