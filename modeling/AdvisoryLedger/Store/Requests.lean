import AdvisoryLedger.Advisory.Draft
import AdvisoryLedger.Store.History

/-!
# Requests to a ledger

A ledger is asked for more than the operations of a history: it also gives out drafts, which
are made against it, and the list of a component's vulnerabilities. `Ledger.respond` answers
one request and `Ledger.responses` a run of them.

Drafts are made of predicates, and a program that uses the library does not put a predicate
together field by field. It makes one from its parts, or it has one from an answer: from a
draft, a look-up, or a record that was written or read. `Ledger.Sourced` says of a run that
every predicate that is handed in came about in this way.
-/

namespace AdvisoryLedger

/-- One request to a ledger. -/
inductive Ledger.Request
  /-- An operation on the store. -/
  | operation (op : Operation)
  /-- The draft of an advisory about a package. -/
  | draft (source : Source) (package : Option Coordinate) (a : Advisory)
  /-- The drafts of a batch that came in for a component. -/
  | drafts (source : Source) (component : Option Coordinate) (b : AdvisoryBatch)
  /-- The vulnerabilities of a component. -/
  | list (component : String)

inductive Ledger.Response
  | answer (a : Answer)
  | draft (result : Except Failure Draft)
  | drafts (result : Except Failure (List Draft))
  | vulnerabilities (found : List Vulnerability)

/-! ### Predicates in requests and responses -/

/-- The predicates that a request hands in to be written. -/
def Ledger.Request.written : Ledger.Request → List Predicate
  | .operation (.synchronize d) => d.software
  | _ => []

def Draft.predicates (d : Draft) : List Predicate := d.record.software ++ d.software

def Answer.predicates : Answer → List Predicate
  | .synchronized (.ok v) => v.software
  | .predicate (some p) => [p]
  | .vulnerability (some v) => v.software
  | _ => []

/-- The predicates that a response gives out. -/
def Ledger.Response.predicates : Ledger.Response → List Predicate
  | .answer a => a.predicates
  | .draft (.ok d) => d.predicates
  | .drafts (.ok ds) => ds.flatMap (·.predicates)
  | .vulnerabilities found => found.flatMap (·.software)
  | _ => []

/-- The predicate was made from its parts. -/
def Predicate.IsMade (p : Predicate) : Prop :=
  ∃ type scope name bounds, p = ofParts type scope name bounds

/-! ### Runs -/

namespace Ledger

variable (clock : Nat → Instant)

/-- The response to a request, and the ledger after it. -/
def respond (l : Ledger) : Request → Response × Ledger
  | .operation op => (.answer (l.store.perform op).1, { l with store := (l.store.perform op).2 })
  | .draft source package a =>
    let (result, l) := ((session clock).draft source package a).on l
    (.draft result, l)
  | .drafts source component b =>
    let (result, l) := ((session clock).drafts source component b).on l
    (.drafts result, l)
  | .list component => (.vulnerabilities (l.store.vulnerabilitiesOf component), l)

/-- The responses to a run of requests. -/
def responses (l : Ledger) : List Request → List Response
  | [] => []
  | r :: rs => (l.respond clock r).1 :: (l.respond clock r).2.responses rs

/-- Every predicate that the run hands in was made from its parts, is one of those that are
known already, or was given out before in the run. -/
def Sourced (l : Ledger) (known : List Predicate) : List Request → Prop
  | [] => True
  | r :: rs =>
    (∀ p ∈ r.written, p.IsMade ∨ p ∈ known) ∧
      (l.respond clock r).2.Sourced (known ++ (l.respond clock r).1.predicates) rs

end Ledger
end AdvisoryLedger
