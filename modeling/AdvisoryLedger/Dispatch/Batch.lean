import AdvisoryLedger.Advisory.Draft
import AdvisoryLedger.Dispatch.Event

/-!
# Writing a batch

A batch is written in one session. All its advisories become drafts first, and if that
fails nothing was written. Then the drafts are written one after another, and each is told
and counted as soon as it is written, before it is attached to the component. A draft that
cannot be stored for what it is, is passed over; any other failure ends the batch, and what
was written before stays written.
-/

namespace AdvisoryLedger

/-- What a run has written so far: the events in their order, and how many records. -/
structure Progress where
  events : List IndexEvent
  synchronized : Nat
  deriving DecidableEq, Repr

def Progress.none : Progress := ⟨[], 0⟩

def Progress.record (p : Progress) (v : Vulnerability) : Progress :=
  ⟨p.events ++ (IndexEvent.commit? v).toList, p.synchronized + 1⟩

namespace Session

variable {σ : Type}

/-- Write drafts for a component. The answer has the progress and the state whether it
failed or not. -/
def writeDrafts (s : Session σ) (component : String) :
    List Draft → Progress → σ → Except Failure Unit × Progress × σ
  | [], progress, state => (.ok (), progress, state)
  | d :: ds, progress, state =>
    match (s.synchronize d).on state with
    | (.error (.payload _), state) => s.writeDrafts component ds progress state
    | (.error e, state) => (.error e, progress, state)
    | (.ok v, state) =>
      let progress := progress.record v
      match (s.attach v component).on state with
      | (.error e, state) => (.error e, progress, state)
      | (.ok _, state) => s.writeDrafts component ds progress state

/-! ### One draft of a list -/

section Steps

variable {s : Session σ} {component : String} {d : Draft} {ds : List Draft} {progress : Progress}
  {state t u : σ} {v : Vulnerability}

theorem writeDrafts_skip {fault : PayloadFault}
    (h : (s.synchronize d).on state = (.error (.payload fault), t)) :
    s.writeDrafts component (d :: ds) progress state = s.writeDrafts component ds progress t := by
  rw [writeDrafts, h]

theorem writeDrafts_refused {e : Failure} (h : (s.synchronize d).on state = (.error e, t))
    (he : ∀ fault, e ≠ .payload fault) :
    s.writeDrafts component (d :: ds) progress state = (.error e, progress, t) := by
  rw [writeDrafts, h]
  cases e with
  | payload fault => exact absurd rfl (he fault)
  | _ => rfl

theorem writeDrafts_unattached {e : Failure} (h : (s.synchronize d).on state = (.ok v, t))
    (ha : (s.attach v component).on t = (.error e, u)) :
    s.writeDrafts component (d :: ds) progress state = (.error e, progress.record v, u) := by
  rw [writeDrafts, h]
  dsimp only
  rw [ha]

theorem writeDrafts_stored {known : Bool} (h : (s.synchronize d).on state = (.ok v, t))
    (ha : (s.attach v component).on t = (.ok known, u)) :
    s.writeDrafts component (d :: ds) progress state
      = s.writeDrafts component ds (progress.record v) u := by
  rw [writeDrafts, h]
  dsimp only
  rw [ha]

end Steps

/-- Write a batch for a component whose package was asked for. -/
def writeBatch (s : Session σ) (source : Source) (package : Coordinate) (component : String)
    (b : AdvisoryBatch) (progress : Progress) (state : σ) :
    Except Failure Unit × Progress × σ :=
  let drafting : Work σ (List Draft) := do
    s.acquire
    s.drafts source (some package) b
  match drafting.on state with
  | (.error e, state) => (.error e, progress, state)
  | (.ok drafts, state) => s.writeDrafts component drafts progress state

end Session
end AdvisoryLedger
