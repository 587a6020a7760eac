import AdvisoryLedger.Text.Basic
import AdvisoryLedger.Text.Utf8

/-!
# Peers

A peer is whoever answers requests. All that a run knows of it is that a request gets a
reply, or none when the transport fails. A request whose credential cannot stand in a
header is not sent at all.

`Canned` is a peer with replies that were prepared in advance, and keeps the requests that
reached it.
-/

namespace AdvisoryLedger

/-- A request: where it goes and what it carries. -/
structure Request where
  url : String
  authorization : List UInt8
  userAgent : String
  deriving DecidableEq, Repr

structure Reply where
  status : Nat
  body : List UInt8
  deriving DecidableEq, Repr

/-- Whoever answers requests; no answer is a failure of the transport. -/
structure Peer (π : Type) where
  send : π → Request → Option Reply × π

def userAgent : String := "vulnsync/0.1.0"

/-- A byte that a header may have: no control other than the tab. -/
def mayStandInHeader (b : UInt8) : Bool := b == 9 || (32 ≤ b && b != 127)

/-- Make a request, unless its header cannot be sent. -/
def Peer.request {π : Type} (p : Peer π) (state : π) (r : Request) : Option Reply × π :=
  if r.authorization.all mayStandInHeader then p.send state r else (none, state)

/-- A peer that cannot be reached. -/
def Peer.unreachable {π : Type} : Peer π := { send := fun state _ => (none, state) }

/-! ### Replies prepared in advance -/

/-- A prepared reply, or a connection that ends without one. -/
inductive Prepared
  | reply (r : Reply)
  | hangUp
  deriving DecidableEq, Repr

/-- Replies by path, and the requests that came so far in reverse. The last reply of a path
is given again and again. -/
structure Canned where
  base : String
  replies : List (String × List Prepared)
  requests : List Request
  deriving Repr

namespace Canned

/-- The path and query of an address at the peer. -/
def target? (c : Canned) (url : String) : Option String :=
  (Text.dropFirst? c.base.toList url.toList).map String.ofList

def path (target : String) : String := String.ofList (target.toList.takeWhile (· ≠ '?'))

/-- The reply to a target, and the replies that are left. -/
def next (c : Canned) (target : String) : Option Reply × List (String × List Prepared) :=
  let take : List Prepared → Option Reply × List Prepared
    | [] => (some ⟨404, []⟩, [])
    | [last] => (match last with | .reply r => some r | .hangUp => none, [last])
    | first :: rest => (match first with | .reply r => some r | .hangUp => none, rest)
  match c.replies.find? (·.1 == path target) with
  | none => (some ⟨404, []⟩, c.replies)
  | some (p, list) =>
    let (reply, left) := take list
    (reply, c.replies.map fun e => if e.1 = p then (p, left) else e)

def peer : Peer Canned :=
  { send := fun c r =>
      match c.target? r.url with
      | none => (none, c)
      | some target =>
        let (reply, replies) := c.next target
        (reply, { c with replies := replies, requests := r :: c.requests }) }

end Canned
end AdvisoryLedger
