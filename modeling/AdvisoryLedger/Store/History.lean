import AdvisoryLedger.Store.Write

/-!
# Histories

A history is what is asked of a store, one operation after another, with any arguments and
in any order. `Store.after` is the store that a history leads to and `Store.trace` keeps the
answers beside the operations. An operation that fails is part of the history like any
other; it leaves the tables as they were.

What a later reading can show depends on the drafts that were written, so `writes` picks
them out of a trace, each with the record that came back for it. In the same way `attachments`
picks out which rows were attached to which components.
-/

namespace AdvisoryLedger

/-- One operation on a store. -/
inductive Operation
  | upsertComponent (c : Component)
  | insertWeakness (w : Weakness)
  | synchronize (d : Draft)
  | attach (v : Vulnerability) (component : String) (now : Instant)
  | find (p : Predicate)
  | get (source : Source) (vulnId : String)

inductive Answer
  | done
  | synchronized (result : Except Failure Vulnerability)
  | attached (result : Except Failure Bool)
  | predicate (found : Option Predicate)
  | vulnerability (found : Option Vulnerability)

namespace Store

/-- The answer to an operation, and the store after it. -/
def perform (s : Store) : Operation → Answer × Store
  | .upsertComponent c => (.done, s.upsertComponent c)
  | .insertWeakness w => (.done, s.insertWeakness w)
  | .synchronize d =>
    match s.synchronize d with
    | .ok (v, t) => (.synchronized (.ok v), t)
    | .error e => (.synchronized (.error e), s)
  | .attach v component now =>
    match s.attach v component now with
    | .ok (known, t) => (.attached (.ok known), t)
    | .error e => (.attached (.error e), s)
  | .find p => (.predicate (s.find? p), s)
  | .get source vulnId => (.vulnerability (s.get? source vulnId), s)

/-- The store after a history. -/
def after (s : Store) : List Operation → Store
  | [] => s
  | op :: ops => (s.perform op).2.after ops

/-- A history with the answers. -/
def trace (s : Store) : List Operation → List (Operation × Answer)
  | [] => []
  | op :: ops => (op, (s.perform op).1) :: (s.perform op).2.trace ops

theorem after_append (s : Store) (ops later : List Operation) :
    s.after (ops ++ later) = (s.after ops).after later := by
  induction ops generalizing s with
  | nil => rfl
  | cons op ops ih => exact ih _

end Store

/-! ### Drafts that were written -/

/-- A draft that was written, and the record that came back. -/
structure Write where
  draft : Draft
  answer : Vulnerability

/-- The draft was written under this source and identifier. -/
def Write.isTo (source : Source) (vulnId : String) (w : Write) : Bool :=
  w.draft.record.source == source && w.draft.record.vulnId == some vulnId

/-- The draft that an operation wrote, if it wrote one. -/
def write? : Operation × Answer → Option Write
  | (.synchronize d, .synchronized (.ok v)) => some ⟨d, v⟩
  | _ => none

/-- The drafts that were written in a trace. -/
def writes (trace : List (Operation × Answer)) : List Write := trace.filterMap write?

/-! ### Vulnerabilities that were attached -/

/-- A vulnerability, by its row, was attached to a component at a time. The component may have
had it before. -/
structure Attachment where
  component : String
  row : Int
  time : Instant
deriving DecidableEq

/-- The first time that a row was attached to a component. -/
def firstAttachment? (made : List Attachment) (component : String) (row : Int) :
    Option Attachment :=
  made.find? fun m => m.component == component && m.row == row

/-- The attachment that an operation made, if it made one. -/
def attachment? : Operation × Answer → Option Attachment
  | (.attach v component now, .attached (.ok true)) => v.row.map fun row => ⟨component, row, now⟩
  | _ => none

/-- What was attached in a trace. -/
def attachments (trace : List (Operation × Answer)) : List Attachment :=
  trace.filterMap attachment?

end AdvisoryLedger
