import AdvisoryLedger.Advisory.Decode
import AdvisoryLedger.Credential
import AdvisoryLedger.Dispatch.Batch
import AdvisoryLedger.Dispatch.Peer
import AdvisoryLedger.Settings

/-!
# Runs

A run looks up a list of components, page by page. For one component it asks the peer for
the advisories of the component's package, decodes the reply and writes the batch. A
component counts as processed when all of that went well and as failed otherwise; what was
written before a failure counts all the same.

The list is split into pages of the configured length, and a page is finished before the
next one starts. Here the components of a page come one after another; in which other orders
workers may take them is said in `AdvisoryLedger.Dispatch.Workers`.
-/

namespace AdvisoryLedger

structure Summary where
  processed : Nat
  failed : Nat
  synchronized : Nat
  deriving DecidableEq, Repr

def Summary.zero : Summary := ⟨0, 0, 0⟩

/-- Where a run stands: the state of the store and of the peer, how many components are
done, and what was written. -/
structure RunState (σ π : Type) where
  ledger : σ
  peer : π
  processed : Nat
  failed : Nat
  progress : Progress

namespace RunState

variable {σ π : Type}

def start (ledger : σ) (peer : π) : RunState σ π := ⟨ledger, peer, 0, 0, .none⟩

def summary (f : RunState σ π) : Summary := ⟨f.processed, f.failed, f.progress.synchronized⟩

end RunState

/-- Lists of at most so many components, in order; the length is taken to be at least one. -/
def pages {α : Type} (length : Nat) (xs : List α) : List (List α) :=
  match xs with
  | [] => []
  | x :: xs => (x :: xs.take (length - 1)) :: pages length (xs.drop (length - 1))
termination_by xs.length
decreasing_by exact Nat.lt_succ_of_le (List.drop_sublist _ _).length_le

/-- What a run works with. -/
structure Dispatcher (σ π : Type) where
  settings : AnalyzerSettings
  source : Source
  session : Session σ
  peer : Peer π

namespace Dispatcher

variable {σ π : Type}

def shape (d : Dispatcher σ π) : ResponseShape := .ofVersionTag d.settings.apiVersion

def requestFor (d : Dispatcher σ π) (token : ApiToken) (package : Coordinate) : Request :=
  { url := d.settings.packageUrl package
    authorization := Text.utf8 (token.headerValue d.settings.authScheme)
    userAgent := userAgent }

/-- The batch in the reply to a request. -/
def batchOf (d : Dispatcher σ π) (url : String) : Option Reply → Except Failure AdvisoryBatch
  | none => .error .transport
  | some reply =>
    if reply.status ≠ 200 then .error (.httpStatus reply.status url)
    else
      match d.shape.decode? reply.body with
      | some b => .ok b
      | none => .error (.payload .malformed)

/-- Look up a component and write what comes back. A batch without advisories needs no
session. -/
def lookup (d : Dispatcher σ π) (token : ApiToken) (c : Component) (f : RunState σ π) :
    Except Failure Unit × RunState σ π :=
  match c.coordinate? with
  | none => (.error (.unusableUrl (c.purl.getD "")), f)
  | some package =>
    let request := d.requestFor token package
    let (reply, peer) := d.peer.request f.peer request
    let f := { f with peer := peer }
    match d.batchOf request.url reply with
    | .error e => (.error e, f)
    | .ok b =>
      if b.advisories.isEmpty then (.ok (), f)
      else
        let (result, progress, ledger) :=
          d.session.writeBatch d.source package c.id b f.progress f.ledger
        (result, { f with ledger := ledger, progress := progress })

/-- Look up a component and count it. -/
def process (d : Dispatcher σ π) (token : ApiToken) (f : RunState σ π) (c : Component) :
    RunState σ π :=
  match d.lookup token c f with
  | (.ok (), f) => { f with processed := f.processed + 1 }
  | (.error _, f) => { f with failed := f.failed + 1 }

/-- Look up the components of a page, one after another. -/
def runPage (d : Dispatcher σ π) (token : ApiToken) (f : RunState σ π) (page : List Component) :
    RunState σ π :=
  page.foldl (d.process token) f

/-- Look up all components, page by page. -/
def dispatch (d : Dispatcher σ π) (token : ApiToken) (components : List Component)
    (f : RunState σ π) : RunState σ π :=
  (pages d.settings.pageLength components).foldl (d.runPage token) f

/-! ### The entry -/

/-- Analyse the components that can be looked up. Nothing happens when the analyzer is
disabled, and nothing when there is no token. -/
def inform (d : Dispatcher σ π) (credentials : CredentialSource) (components : List Component)
    (f : RunState σ π) : Except Failure Summary × RunState σ π :=
  if !d.settings.enabled then (.ok .zero, f)
  else
    match credentials.token with
    | .error e => (.error e, f)
    | .ok token =>
      let capable := components.filter (·.isCapable)
      if capable.isEmpty then (.ok .zero, f)
      else
        let f := d.dispatch token capable f
        (.ok f.summary, f)

end Dispatcher
end AdvisoryLedger
