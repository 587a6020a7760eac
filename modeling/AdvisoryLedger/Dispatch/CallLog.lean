import AdvisoryLedger.Dispatch.Batch

/-!
# What a session was asked

A logged session does what the session does and writes down each call with its answer, so
that one can say in which order a unit of work asked for what, and where it stopped.
-/

namespace AdvisoryLedger

/-- A call of a session and the answer to it. The look-up of a weakness changes nothing and
cannot fail; it is not written down. -/
inductive Call
  | acquire (answer : Except Failure Unit)
  | find (candidate : Predicate) (answer : Except Failure (Option Predicate))
  | synchronize (draft : Draft) (answer : Except Failure Vulnerability)
  | attach (record : Vulnerability) (component : String) (answer : Except Failure Bool)

namespace Call

/-- The call can change nothing in a store. -/
def isReading : Call → Bool
  | acquire _ | find .. => true
  | synchronize .. | attach .. => false

/-- The draft that was to be written. -/
def draft? : Call → Option Draft
  | synchronize d _ => some d
  | _ => none

/-- The record that was stored. -/
def stored? : Call → Option Vulnerability
  | synchronize _ (.ok v) => some v
  | _ => none

/-- The record that was to be attached, and the component. -/
def attachment? : Call → Option (Vulnerability × String)
  | attach v component _ => some (v, component)
  | _ => none

/-- The failure with which a batch ends at this call. It does not end where a draft cannot be
stored for what it is. -/
def stop? : Call → Option Failure
  | synchronize _ (.error (.payload _)) => none
  | acquire (.error e) | find _ (.error e) | synchronize _ (.error e) | attach _ _ (.error e) =>
    some e
  | _ => none

/-- The result of a unit of work, read off its last call. -/
def outcome (calls : List Call) : Except Failure Unit :=
  match calls.getLast?.bind stop? with
  | some e => .error e
  | none => .ok ()

end Call

/-- An operation that writes itself down with its answer. -/
def Work.noted {σ α β : Type} (note : Except Failure α → β) (w : Work σ α) :
    Work (σ × List β) α :=
  Work.of fun (state, log) =>
    let (answer, state) := w.on state
    (answer, (state, log ++ [note answer]))

theorem Work.noted_on {σ α β : Type} {note : Except Failure α → β} {w : Work σ α} {state t : σ}
    {answer : Except Failure α} (h : w.on state = (answer, t)) (log : List β) :
    (w.noted note).on (state, log) = (answer, t, log ++ [note answer]) := by
  have hnoted : (w.noted note).on (state, log)
      = ((w.on state).1, (w.on state).2, log ++ [note (w.on state).1]) := rfl
  rw [hnoted, h]

/-- The session with a log of its calls. -/
def Session.logged {σ : Type} (s : Session σ) : Session (σ × List Call) :=
  { acquire := s.acquire.noted .acquire
    resolve := fun (state, _) text => s.resolve state text
    find := fun p => (s.find p).noted (.find p)
    synchronize := fun d => (s.synchronize d).noted (.synchronize d)
    attach := fun v component => (s.attach v component).noted (.attach v component) }

end AdvisoryLedger
