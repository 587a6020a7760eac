import AdvisoryLedger.Store.Write

/-!
# Sessions

A session is what a unit of work needs from a store: to look up weaknesses and predicates,
to synchronize drafts, and to attach vulnerabilities to components. It says nothing about
how the store is made, so that whatever holds of a unit of work holds for every store, also
for one that fails at any point.

Everything except the look-up of a weakness may fail, and what was done before a failure
stays done. So an operation takes the state of the store and gives a result together with
the state after it, for a failure too.

`Ledger.session` is the session of the tables. It reads a clock each time it attaches.
-/

namespace AdvisoryLedger

/-- An operation on a state that may fail. The state after a failure is part of the answer. -/
abbrev Work (σ α : Type) := ExceptT Failure (StateM σ) α

/-- Run an operation. -/
def Work.on {σ α : Type} (w : Work σ α) (s : σ) : Except Failure α × σ := (ExceptT.run w).run s

theorem Work.on_bind {σ α β : Type} (w : Work σ α) (k : α → Work σ β) (s : σ) :
    (w >>= k).on s =
      match w.on s with
      | (.ok a, t) => (k a).on t
      | (.error e, t) => (.error e, t) := by
  unfold Work.on
  rw [ExceptT.run_bind, StateT.run_bind]
  rcases (ExceptT.run w).run s with ⟨_ | _, t⟩ <;> rfl

/-- An operation given by what it does to the state. -/
def Work.of {σ α : Type} (f : σ → Except Failure α × σ) : Work σ α := ExceptT.mk f

/-- What a unit of work needs from a store. -/
structure Session (σ : Type) where
  acquire : Work σ Unit
  resolve : σ → String → Option Weakness
  find : Predicate → Work σ (Option Predicate)
  synchronize : Draft → Work σ Vulnerability
  attach : Vulnerability → String → Work σ Bool

/-- A store, and how often its clock was read. -/
structure Ledger where
  store : Store
  readings : Nat
  deriving DecidableEq, Repr

namespace Ledger

def empty : Ledger := ⟨.empty, 0⟩

def synchronize (l : Ledger) (d : Draft) : Except Failure Vulnerability × Ledger :=
  match l.store.synchronize d with
  | .ok (v, s) => (.ok v, { l with store := s })
  | .error e => (.error e, l)

/-- Attach a vulnerability at the time of the next reading of the clock. -/
def attach (clock : Nat → Instant) (l : Ledger) (v : Vulnerability) (component : String) :
    Except Failure Bool × Ledger :=
  match l.store.attach v component (clock l.readings) with
  | .ok (known, s) => (.ok known, ⟨s, l.readings + 1⟩)
  | .error e => (.error e, { l with readings := l.readings + 1 })

/-- The session of the tables under a clock. -/
def session (clock : Nat → Instant) : Session Ledger :=
  { acquire := pure ()
    resolve := fun l text => l.store.resolve? text
    find := fun p => Work.of fun l => (.ok (l.store.find? p), l)
    synchronize := fun d => Work.of fun l => l.synchronize d
    attach := fun v component => Work.of fun l => l.attach clock v component }

end Ledger

/-! ### Stores that break down -/

inductive SessionOperation
  | acquire | find | synchronize | attach
  deriving DecidableEq, Repr

/-- Fail from the call on whose number is given; calls are counted in the state. -/
def Work.failingFrom {σ α : Type} (limit : Nat) (failure : Failure) (w : Work σ α) :
    Work (σ × Nat) α :=
  Work.of fun (s, calls) =>
    if calls < limit then
      let (result, s) := w.on s
      (result, (s, calls + 1))
    else (.error failure, (s, calls + 1))

theorem Work.failingFrom_on {σ α : Type} (limit : Nat) (failure : Failure) (w : Work σ α)
    (s : σ) (calls : Nat) :
    (w.failingFrom limit failure).on (s, calls) =
      if calls < limit then ((w.on s).1, (w.on s).2, calls + 1)
      else (.error failure, s, calls + 1) := rfl

/-- The same operation beside a count that it does not touch. -/
def Work.beside {σ α : Type} (w : Work σ α) : Work (σ × Nat) α :=
  Work.of fun (s, calls) =>
    let (result, s) := w.on s
    (result, (s, calls))

theorem Work.beside_on {σ α : Type} (w : Work σ α) (s : σ) (calls : Nat) :
    w.beside.on (s, calls) = ((w.on s).1, (w.on s).2, calls) := rfl

/-- The session with one operation that works a number of times and fails from then on. -/
def Session.failingAfter {σ : Type} (s : Session σ) (operation : SessionOperation) (times : Nat)
    (failure : Failure) : Session (σ × Nat) :=
  let wrap {α : Type} (this : SessionOperation) (w : Work σ α) : Work (σ × Nat) α :=
    if this = operation then w.failingFrom times failure else w.beside
  { acquire := wrap .acquire s.acquire
    resolve := fun (state, _) text => s.resolve state text
    find := fun p => wrap .find (s.find p)
    synchronize := fun d => wrap .synchronize (s.synchronize d)
    attach := fun v component => wrap .attach (s.attach v component) }

end AdvisoryLedger
