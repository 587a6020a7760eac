import AdvisoryLedger.Dispatch.Workers

/-!
# Orders of turns

Seen from the entries, a run is a sequence of turns: in each turn the next thing is done for
the entry at some place of the list, whichever worker it is that does it. A list of places is
such an order. It is given from outside, so two runs can be made to take turns in one order
even where one of them fails early: an entry that is finished lets its turns pass.

Pages and workers only restrict which orders there can be.
-/

namespace AdvisoryLedger

/-- A run over entries in progress. An entry is finished when it has no task, and then it was
counted: as processed, or else as failed. -/
structure Turns (σ π : Type) where
  jobs : List (Entry × Option Task)
  run : RunState σ π
  counted : List (Nat × Bool)

namespace Turns

variable {σ π : Type}

/-- All entries are to be requested. -/
def start (entries : List Entry) (f : RunState σ π) : Turns σ π :=
  ⟨entries.map fun e => (e, some .request), f, []⟩

end Turns

namespace Dispatcher

variable {σ π : Type}

/-- The entry at a place has its turn. -/
def turn (d : Dispatcher σ π) (token : ApiToken) (t : Turns σ π) (place : Nat) : Turns σ π :=
  match t.jobs[place]? with
  | some (e, some k) =>
    let (g, next) := (d.entryServer token).act e k t.run
    { jobs := t.jobs.set place (e, next)
      run := g
      counted := t.counted ++
        if next.isNone then [(place, decide (t.run.processed < g.processed))] else [] }
  | _ => t

/-- The entries have their turns in the given order. -/
def takeTurns (d : Dispatcher σ π) (token : ApiToken) (entries : List Entry) (order : List Nat)
    (f : RunState σ π) : Turns σ π :=
  order.foldl (d.turn token) (.start entries f)

end Dispatcher
end AdvisoryLedger
