import AdvisoryLedger.Dispatch.Run

/-!
# Workers

The entries of a page wait in a queue, and a fixed number of workers serve it. A worker
takes the first entry, does what there is to do for it, and comes back for another one; it
leaves when the queue is empty. Which worker acts next is open, and `PageStep` allows every
choice.

An entry is not done in one go. While its request is under way and between any two calls of
its session the other workers act, and they act on the same store. `Task` is where a worker
stands with an entry and `Dispatcher.act` is the next thing that it does. A worker that acts
alone does what `Dispatcher.process` does.

`PageRun` is what any sequence of steps can do to a page, and `PagesRun` what it can do to a
list of pages, where a page begins when all workers of the page before have left.
`DispatchRun` is that for the components of a run and whatever its peer replies. `EntriesRun`
is that for components each of which comes with the reply that it will get, whoever asks.
-/

namespace AdvisoryLedger

/-! ### Pages -/

/-- How entries are served: where the work on an entry begins, and what is done next. There is
nothing left to do for the entry where no place to go on from comes back. -/
structure Server (α ε κ : Type) where
  start : ε → κ
  act : ε → κ → α → α × Option κ

/-- What a worker is doing. -/
inductive Worker (ε κ : Type)
  | idle
  | busy (e : ε) (k : κ)
  | gone
  deriving DecidableEq, Repr

/-- A page in progress: the entries that wait, the workers, and the entries that were taken
and finished so far, in these orders. -/
structure PageState (ε κ : Type) where
  queue : List ε
  workers : List (Worker ε κ)
  taken : List ε
  finished : List ε
  deriving DecidableEq, Repr

namespace PageState

variable {ε κ : Type}

/-- A page at its beginning, with no more workers than entries. -/
def start (workers : Nat) (page : List ε) : PageState ε κ :=
  ⟨page, List.replicate (min workers page.length) .idle, [], []⟩

/-- All workers have left. -/
def isDone (p : PageState ε κ) : Prop := ∀ w ∈ p.workers, w = .gone

def inHand? : Worker ε κ → Option (ε × κ)
  | .busy e k => some (e, k)
  | _ => none

@[simp] theorem inHand?_idle : inHand? (.idle : Worker ε κ) = none := rfl

@[simp] theorem inHand?_busy (e : ε) (k : κ) : inHand? (.busy e k) = some (e, k) := rfl

@[simp] theorem inHand?_gone : inHand? (.gone : Worker ε κ) = none := rfl

def inFlight (p : PageState ε κ) : List (ε × κ) := p.workers.filterMap inHand?

end PageState

section Page

variable {α ε κ : Type}

/-- One step of one worker, and what it does to the run. -/
inductive PageStep (server : Server α ε κ) : PageState ε κ × α → PageState ε κ × α → Prop
  /-- An idle worker takes the first entry that waits. -/
  | take {e queue before after taken finished a} :
    PageStep server
      (⟨e :: queue, before ++ .idle :: after, taken, finished⟩, a)
      (⟨queue, before ++ .busy e (server.start e) :: after, taken ++ [e], finished⟩, a)
  /-- A worker does the next thing for its entry. -/
  | act {e k k' queue before after taken finished a b} :
    server.act e k a = (b, some k') →
    PageStep server
      (⟨queue, before ++ .busy e k :: after, taken, finished⟩, a)
      (⟨queue, before ++ .busy e k' :: after, taken, finished⟩, b)
  /-- A worker does the last thing for its entry. -/
  | finish {e k queue before after taken finished a b} :
    server.act e k a = (b, none) →
    PageStep server
      (⟨queue, before ++ .busy e k :: after, taken, finished⟩, a)
      (⟨queue, before ++ .idle :: after, taken, finished ++ [e]⟩, b)
  /-- An idle worker finds nothing to take. -/
  | leave {before after taken finished a} :
    PageStep server
      (⟨[], before ++ .idle :: after, taken, finished⟩, a)
      (⟨[], before ++ .gone :: after, taken, finished⟩, a)

/-- Any number of steps. -/
inductive PageSteps (server : Server α ε κ) : PageState ε κ × α → PageState ε κ × α → Prop
  | refl {s} : PageSteps server s s
  | step {s t u} : PageSteps server s t → PageStep server t u → PageSteps server s u

/-- A page that so many workers served until all had left. -/
def PageRun (server : Server α ε κ) (workers : Nat) (page : List ε) (a b : α) : Prop :=
  ∃ p : PageState ε κ, PageSteps server (.start workers page, a) (p, b) ∧ p.isDone

/-- Pages that were served one after another. -/
inductive PagesRun (server : Server α ε κ) (workers : Nat) : List (List ε) → α → α → Prop
  | nil {a} : PagesRun server workers [] a a
  | cons {page rest a b c} :
    PageRun server workers page a b → PagesRun server workers rest b c →
      PagesRun server workers (page :: rest) a c

end Page

/-! ### Tasks -/

/-- The drafting of a batch: the package that it is about, the drafts that are made, and the
advisories that are left. -/
structure Drafting where
  package : Option Coordinate
  drafts : List Draft
  rest : List Advisory
  deriving DecidableEq

/-- Where a worker stands with an entry. -/
inductive Task
  /-- The request is under way. -/
  | request
  /-- A session is to be acquired for the batch that came. -/
  | acquire (package : Coordinate) (b : AdvisoryBatch)
  /-- The next advisory is to be drafted. -/
  | draft (n : Drafting)
  /-- The next candidate of a draft is to be settled. -/
  | settle (n : Drafting) (record : Vulnerability) (settled wanted : List Predicate)
  /-- The next draft is to be written. -/
  | write (drafts : List Draft)
  /-- A record was written and is to be told and counted. -/
  | tell (v : Vulnerability) (drafts : List Draft)
  /-- A record was told and is to be attached. -/
  | attach (v : Vulnerability) (drafts : List Draft)
  deriving DecidableEq

namespace RunState

variable {σ π : Type}

/-- The run after a component went well. -/
def succeed (f : RunState σ π) : RunState σ π := { f with processed := f.processed + 1 }

/-- The run after a component failed. -/
def fail (f : RunState σ π) : RunState σ π := { f with failed := f.failed + 1 }

end RunState

namespace Dispatcher

variable {σ π : Type}

/-- The next thing that a worker does for a component. -/
def act (d : Dispatcher σ π) (token : ApiToken) (c : Component) :
    Task → RunState σ π → RunState σ π × Option Task
  | .request, f =>
    match c.coordinate? with
    | none => (f.fail, none)
    | some package =>
      let request := d.requestFor token package
      let (reply, peer) := d.peer.request f.peer request
      let f := { f with peer := peer }
      match d.batchOf request.url reply with
      | .error _ => (f.fail, none)
      | .ok b =>
        if b.advisories.isEmpty then (f.succeed, none) else (f, some (.acquire package b))
  | .acquire package b, f =>
    match d.session.acquire.on f.ledger with
    | (.error _, l) => ({ f with ledger := l }.fail, none)
    | (.ok (), l) => ({ f with ledger := l },
        some (.draft ⟨b.package (some package), [], b.advisories⟩))
  | .draft ⟨_, drafts, []⟩, f => (f, some (.write drafts))
  | .draft ⟨package, drafts, a :: rest⟩, f =>
    (f, some (.settle ⟨package, drafts, rest⟩
      (a.vulnerability d.source (d.session.resolve f.ledger)) [] (candidates package a.ranges)))
  | .settle n record settled [], f =>
    (f, some (.draft { n with drafts := n.drafts ++ [⟨record, settled⟩] }))
  | .settle n record settled (p :: wanted), f =>
    match (d.session.settlePredicate p).on f.ledger with
    | (.error _, l) => ({ f with ledger := l }.fail, none)
    | (.ok q, l) => ({ f with ledger := l }, some (.settle n record (settled ++ [q]) wanted))
  | .write [], f => (f.succeed, none)
  | .write (draft :: drafts), f =>
    match (d.session.synchronize draft).on f.ledger with
    | (.error (.payload _), l) => ({ f with ledger := l }, some (.write drafts))
    | (.error _, l) => ({ f with ledger := l }.fail, none)
    | (.ok v, l) => ({ f with ledger := l }, some (.tell v drafts))
  | .tell v drafts, f => ({ f with progress := f.progress.record v }, some (.attach v drafts))
  | .attach v drafts, f =>
    match (d.session.attach v c.id).on f.ledger with
    | (.error _, l) => ({ f with ledger := l }.fail, none)
    | (.ok _, l) => ({ f with ledger := l }, some (.write drafts))

/-- The service of components. -/
def server (d : Dispatcher σ π) (token : ApiToken) : Server (RunState σ π) Component Task :=
  { start := fun _ => .request, act := d.act token }

/-- Everything that a run may come to, whatever the workers do. -/
def DispatchRun (d : Dispatcher σ π) (token : ApiToken) (components : List Component)
    (f g : RunState σ π) : Prop :=
  PagesRun (d.server token) d.settings.workers (pages d.settings.pageLength components) f g

end Dispatcher

/-! ### Entries with fixed replies -/

/-- A component, and the reply that it will get. -/
structure Entry where
  component : Component
  reply : Option Reply
  deriving DecidableEq, Repr

/-- The peer that gives one reply to whatever it is asked. -/
def Peer.giving {π : Type} (reply : Option Reply) : Peer π :=
  { send := fun state _ => (reply, state) }

namespace Dispatcher

variable {σ π : Type}

/-- Look up the component of an entry, which gets its reply, and count it. -/
def processEntry (d : Dispatcher σ π) (token : ApiToken) (f : RunState σ π) (e : Entry) :
    RunState σ π :=
  { d with peer := .giving e.reply }.process token f e.component

/-- The service of entries. -/
def entryServer (d : Dispatcher σ π) (token : ApiToken) : Server (RunState σ π) Entry Task :=
  { start := fun _ => .request
    act := fun e => { d with peer := .giving e.reply }.act token e.component }

/-- Everything that a run may come to when the reply of each entry is fixed. -/
def EntriesRun (d : Dispatcher σ π) (token : ApiToken) (entries : List Entry)
    (f g : RunState σ π) : Prop :=
  PagesRun (d.entryServer token) d.settings.workers (pages d.settings.pageLength entries) f g

end Dispatcher
end AdvisoryLedger
