import AdvisoryLedger.Dispatch.Workers

/-!
# Moments of a run

`PagesRun` says what the serving of pages may come to. Here is what lies in between: the
pages that were served, the one that is being served and those that wait. A step is a step of
a worker or, when all workers of a page have left, the beginning of the next page.

The entries of a run are told apart by their places in its list, since one component may
stand there twice. `Dispatcher.Moment` is any moment of a run over a list of components.
-/

namespace AdvisoryLedger

/-- Pages in progress: those that were served, as their workers left them, the one that is
being served with the entries that it began with, and those that wait. -/
structure PagesState (ε κ : Type) where
  served : List (PageState ε κ)
  entries : List ε
  page : PageState ε κ
  waiting : List (List ε)

namespace PagesState

variable {ε κ : Type}

/-- The first page at its beginning. Without pages there is nothing to serve. -/
def start (workers : Nat) : List (List ε) → PagesState ε κ
  | [] => ⟨[], [], .start workers [], []⟩
  | page :: rest => ⟨[], page, .start workers page, rest⟩

/-- The entries that were taken so far, in this order. -/
def taken (s : PagesState ε κ) : List ε := (s.served ++ [s.page]).flatMap (·.taken)

/-- The entries that were finished so far, in this order. -/
def finished (s : PagesState ε κ) : List ε := (s.served ++ [s.page]).flatMap (·.finished)

/-- The entries that workers have in hand. -/
def inFlight (s : PagesState ε κ) : List ε :=
  (s.served ++ [s.page]).flatMap fun p => p.inFlight.map (·.1)

/-- All workers of the last page have left. -/
def isCompleted (s : PagesState ε κ) : Prop := s.page.isDone ∧ s.waiting = []

end PagesState

section Pages

variable {α ε κ : Type}

inductive PagesStep (server : Server α ε κ) (workers : Nat) :
    PagesState ε κ × α → PagesState ε κ × α → Prop
  /-- A worker of the page acts. -/
  | serve {served entries p q waiting a b} :
    PageStep server (p, a) (q, b) →
    PagesStep server workers (⟨served, entries, p, waiting⟩, a) (⟨served, entries, q, waiting⟩, b)
  /-- The workers have left, and the next page begins. -/
  | turn {served entries p page waiting a} :
    p.isDone →
    PagesStep server workers (⟨served, entries, p, page :: waiting⟩, a)
      (⟨served ++ [p], page, .start workers page, waiting⟩, a)

/-- Any number of steps. -/
inductive PagesSteps (server : Server α ε κ) (workers : Nat) :
    PagesState ε κ × α → PagesState ε κ × α → Prop
  | refl {s} : PagesSteps server workers s s
  | step {s t u} : PagesSteps server workers s t → PagesStep server workers t u →
      PagesSteps server workers s u

/-- The same service for entries with their places. -/
def Server.placed (server : Server α ε κ) : Server α (ε × Nat) κ :=
  { start := fun e => server.start e.1, act := fun e => server.act e.1 }

end Pages

/-- A moment of a run over components, whatever the workers did before. -/
def Dispatcher.Moment {σ π : Type} (d : Dispatcher σ π) (token : ApiToken)
    (components : List Component) (f : RunState σ π) (s : PagesState (Component × Nat) Task)
    (g : RunState σ π) : Prop :=
  PagesSteps (d.server token).placed d.settings.workers
    (.start d.settings.workers (pages d.settings.pageLength components.zipIdx), f) (s, g)

end AdvisoryLedger
