import AdvisoryLedger.Vulnerability.Basic

/-!
# Index events

Whoever keeps a search index of the vulnerabilities is told of each one that was written.
Telling is never waited for and cannot fail: when nobody listens the event is lost.
-/

namespace AdvisoryLedger

/-- A vulnerability was written and is to be indexed. -/
structure IndexEvent where
  source : Source
  vulnId : String
  deriving DecidableEq, Repr

/-- The event for a vulnerability, which has to have an identifier. -/
def IndexEvent.commit? (v : Vulnerability) : Option IndexEvent :=
  v.vulnId.map fun id => ⟨v.source, id⟩

inductive Notifier
  | channel (listening : Bool)
  | log
  deriving DecidableEq, Repr

/-- The events that reach a listener. -/
def Notifier.delivered (n : Notifier) (events : List IndexEvent) : List IndexEvent :=
  match n with
  | .channel true => events
  | _ => []

end AdvisoryLedger
