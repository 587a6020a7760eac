import AdvisoryLedger.Dispatch.Workers

/-!
# Analyses

An analysis is a run behind a gate. Nothing is begun when the analyzer is disabled, when there is
no token, or when no component can be looked up, and this is asked in that order. `InformRun` is
everything that an analysis may come to: past the gate the workers may take any turns.

What goes out through the gate can be written down. A peer that records keeps the requests that
it was sent. Why a component failed is told by the step of its worker that failed
(`Dispatcher.cause?`), and a service of components may keep a list of these causes.
-/

namespace AdvisoryLedger

namespace Component

/-- The package URL of the component can be parsed and has a version. -/
def isVersioned (c : Component) : Bool := (c.coordinate?.bind (·.version)).isSome

end Component

/-- The peer with a list of the requests that it was sent. -/
def Peer.recorded {π : Type} (p : Peer π) : Peer (π × List Request) :=
  { send := fun (state, requests) request =>
      let (reply, state) := p.send state request
      (reply, (state, requests ++ [request])) }

/-- Why a component failed. -/
inductive Cause
  /-- It has no package URL, or one that cannot be used. -/
  | url (text : String)
  /-- There is no reply to its request, or none that can be used. -/
  | reply (e : Failure)
  /-- A call of the session failed. -/
  | session (e : Failure)
  deriving DecidableEq, Repr

/-- The cause in the answer to a call of the session. -/
def Cause.ofAnswer? {α : Type} : Except Failure α → Option Cause
  | .error e => some (.session e)
  | .ok _ => none

namespace Dispatcher

variable {σ π : Type}

/-! ### Everything that an analysis may come to -/

/-- The answers that an analysis may give, and where it may leave the run. -/
inductive InformRun (d : Dispatcher σ π) (credentials : CredentialSource)
    (components : List Component) (f : RunState σ π) :
    Except Failure Summary → RunState σ π → Prop
  | disabled : d.settings.enabled = false → InformRun d credentials components f (.ok .zero) f
  | noToken {e : Failure} : d.settings.enabled = true → credentials.token = .error e →
    InformRun d credentials components f (.error e) f
  | idle {token : ApiToken} : d.settings.enabled = true → credentials.token = .ok token →
    components.filter (·.isCapable) = [] → InformRun d credentials components f (.ok .zero) f
  | run {token : ApiToken} {g : RunState σ π} : d.settings.enabled = true →
    credentials.token = .ok token → components.filter (·.isCapable) ≠ [] →
    d.DispatchRun token (components.filter (·.isCapable)) f g →
    InformRun d credentials components f (.ok g.summary) g

/-! ### Requests and causes -/

/-- The dispatcher whose peer keeps the requests that it was sent. -/
def recorded (d : Dispatcher σ π) : Dispatcher σ (π × List Request) :=
  { settings := d.settings, source := d.source, session := d.session, peer := d.peer.recorded }

/-- Why the component fails with the next thing that a worker does for it, if it does. -/
def cause? (d : Dispatcher σ π) (token : ApiToken) (c : Component) :
    Task → RunState σ π → Option Cause
  | .request, f =>
    match c.coordinate? with
    | none => some (.url (c.purl.getD ""))
    | some package =>
      let request := d.requestFor token package
      match d.batchOf request.url (d.peer.request f.peer request).1 with
      | .error e => some (.reply e)
      | .ok _ => none
  | .acquire _ _, f => Cause.ofAnswer? (d.session.acquire.on f.ledger).1
  | .settle _ _ _ (p :: _), f => Cause.ofAnswer? ((d.session.settlePredicate p).on f.ledger).1
  | .write (draft :: _), f =>
    match ((d.session.synchronize draft).on f.ledger).1 with
    | .error (.payload _) => none
    | answer => Cause.ofAnswer? answer
  | .attach v _, f => Cause.ofAnswer? ((d.session.attach v c.id).on f.ledger).1
  | _, _ => none

/-- The service of components, with a list of the causes for which they failed. -/
def causeServer (d : Dispatcher σ π) (token : ApiToken) :
    Server (RunState σ π × List Cause) Component Task where
  start := fun _ => .request
  act := fun c k (f, causes) =>
    let (g, next) := d.act token c k f
    ((g, causes ++ (d.cause? token c k f).toList), next)

/-- Everything that a run may come to, with the causes for which its components failed. -/
def CausedRun (d : Dispatcher σ π) (token : ApiToken) (components : List Component)
    (f g : RunState σ π) (causes : List Cause) : Prop :=
  PagesRun (d.causeServer token) d.settings.workers (pages d.settings.pageLength components)
    (f, []) (g, causes)

end Dispatcher
end AdvisoryLedger
