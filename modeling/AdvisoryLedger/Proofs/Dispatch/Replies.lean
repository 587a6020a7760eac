import AdvisoryLedger.Dispatch.Workers
import AdvisoryLedger.Proofs.Dispatch.Outcome
import AdvisoryLedger.Proofs.Vulnerability.Identity

/-!
# What is in the reply of an entry

An entry comes with the reply that it will get, so what is found in that reply is known
before anything runs: the package and the batch, the identifiers in it, and, for a store, the
drafts that come of it. The predicates of these drafts are described by the packages and
ranges of the replies. Where none of these has the separator of keys in it, a key stands for
one predicate only.
-/

namespace AdvisoryLedger
namespace Dispatcher

variable {σ π : Type}

/-- The package that an entry is about and the batch in its reply, where there is one. -/
def found? (d : Dispatcher σ π) (token : ApiToken) (e : Entry) :
    Option (Coordinate × AdvisoryBatch) :=
  e.component.coordinate?.bind fun package =>
    let request := d.requestFor token package
    let reply := if request.authorization.all mayStandInHeader then e.reply else none
    (d.batchOf request.url reply).toOption.map fun b => (package, b)

/-- The identifiers in the reply of an entry under which something can be stored. -/
def identifiers (d : Dispatcher σ π) (token : ApiToken) (e : Entry) : List String :=
  match d.found? token e with
  | none => []
  | some (_, b) => b.advisories.filterMap fun a => a.id.filter fun id => !Text.isBlankText id

/-- Neither the package of an entry nor the ranges in its reply have the separator of keys in
them. -/
def isUnseparated (d : Dispatcher σ π) (token : ApiToken) (e : Entry) : Bool :=
  match d.found? token e with
  | none => true
  | some (package, b) =>
    (b.package (some package)).all Coordinate.isUnseparated &&
      b.advisories.all fun a => a.ranges.all Text.isUnseparated

/-- The drafts of an entry on a store, each for the component of the entry. -/
def draftsOf (d : Dispatcher σ π) (token : ApiToken) (s : Store) (e : Entry) :
    List (String × Draft) :=
  match d.found? token e with
  | none => []
  | some (package, b) =>
    (s.drafts d.source package b).map fun draft => (e.component.id, draft.withoutRows)

/-- A predicate that a reply describes. -/
def Describes (d : Dispatcher σ π) (token : ApiToken) (entries : List Entry) (p : Predicate) :
    Prop :=
  ∃ e ∈ entries, ∃ package b, d.found? token e = some (package, b) ∧
    ∃ a ∈ b.advisories, p ∈ candidates (b.package (some package)) a.ranges

variable {d : Dispatcher σ π} {token : ApiToken} {entries : List Entry}

/-- A predicate that is described is made of a package and a range without separators. -/
theorem Describes.exists_unseparated (hsep : ∀ e ∈ entries, d.isUnseparated token e = true)
    {p : Predicate} (h : d.Describes token entries p) :
    ∃ c range, c.isUnseparated = true ∧ Text.isUnseparated range = true ∧
      p = .ofCoordinate c (.ofExpression range) := by
  obtain ⟨e, he, package, b, hfound, a, ha, hp⟩ := h
  obtain ⟨c, hc, range, hrange, rfl⟩ := mem_candidates hp
  have hsep := hsep e he
  unfold isUnseparated at hsep
  rw [hfound] at hsep
  simp only [Bool.and_eq_true, List.all_eq_true, Option.all_eq_true] at hsep
  exact ⟨c, range, hsep.1 c hc, hsep.2 a ha range hrange, rfl⟩

theorem Describes.inj (hsep : ∀ e ∈ entries, d.isUnseparated token e = true) {p q : Predicate}
    (hp : d.Describes token entries p) (hq : d.Describes token entries q)
    (hkey : p.identity = q.identity) : p = q := by
  obtain ⟨c, range, hc, hrange, rfl⟩ := hp.exists_unseparated hsep
  obtain ⟨c', range', hc', hrange', rfl⟩ := hq.exists_unseparated hsep
  exact Predicate.ofCoordinate_inj hc hc' hrange hrange' hkey

/-- The drafts of entries have the predicates that are described. -/
theorem settled (hsep : ∀ e ∈ entries, d.isUnseparated token e = true) {s : Store}
    {ds : List (String × Draft)} (hds : ∀ x ∈ ds, ∃ e ∈ entries, x ∈ d.draftsOf token s e) :
    s.Settled (d.Describes token entries) ds where
  inj := fun _ _ hp hq => hp.inj hsep hq
  origin := by
    intro x hx q hq
    obtain ⟨e, he, hx⟩ := hds x hx
    unfold draftsOf at hx
    split at hx
    · cases hx
    · next package b hfound =>
      obtain ⟨draft, hdraft, rfl⟩ := List.mem_map.mp hx
      obtain ⟨a, ha, rfl⟩ := List.mem_map.mp hdraft
      obtain ⟨q', hq', rfl⟩ := List.mem_map.mp hq
      obtain ⟨p, hp, rfl⟩ := List.mem_map.mp hq'
      exact ⟨p, ⟨e, he, package, b, hfound, a, ha, hp⟩, rfl⟩

/-- The key of a draft is among the identifiers of its entry. -/
theorem mem_identifiers_of_key? {s : Store} {e : Entry} {x : String × Draft}
    (hx : x ∈ d.draftsOf token s e) {key : Source × String} (hkey : x.2.key? = some key) :
    key.2 ∈ d.identifiers token e := by
  unfold draftsOf at hx
  unfold identifiers
  split at hx
  · cases hx
  · obtain ⟨draft, hdraft, rfl⟩ := List.mem_map.mp hx
    obtain ⟨a, ha, rfl⟩ := List.mem_map.mp hdraft
    obtain ⟨id, hid, rfl⟩ := Option.map_eq_some_iff.mp hkey
    exact List.mem_filterMap.mpr ⟨a, ha, hid⟩

/-! ## The request of an entry -/

theorem request_giving (reply : Option Reply) (state : π) (r : Request) :
    (Peer.giving reply).request state r
      = (if r.authorization.all mayStandInHeader then reply else none, state) := by
  unfold Peer.request
  split <;> rfl

/-- Requests and batches do not depend on the peer. -/
theorem requestFor_withPeer (d : Dispatcher σ π) (peer : Peer π) (token : ApiToken)
    (package : Coordinate) :
    { d with peer := peer }.requestFor token package = d.requestFor token package := rfl

theorem batchOf_withPeer (d : Dispatcher σ π) (peer : Peer π) (url : String)
    (reply : Option Reply) : { d with peer := peer }.batchOf url reply = d.batchOf url reply := rfl

/-- Where nothing is found the entry fails. -/
theorem act_request_of_found?_eq_none {e : Entry} (h : d.found? token e = none)
    (f : RunState σ π) : (d.entryServer token).act e .request f = (f.fail, none) := by
  unfold entryServer
  simp only [act]
  cases hpackage : e.component.coordinate? with
  | none => rfl
  | some package =>
      simp only [request_giving, requestFor_withPeer, batchOf_withPeer]
      simp only [found?, hpackage, Option.bind_some] at h
      cases hbatch : d.batchOf (d.requestFor token package).url
          (if (d.requestFor token package).authorization.all mayStandInHeader then e.reply
            else none) with
      | error failure => rfl
      | ok b =>
          rw [hbatch] at h
          cases h

/-- Where a batch is found it is written, if there is anything in it. -/
theorem act_request_of_found? {e : Entry} {package : Coordinate} {b : AdvisoryBatch}
    (h : d.found? token e = some (package, b)) (f : RunState σ π) :
    (d.entryServer token).act e .request f =
      if b.advisories.isEmpty then (f.succeed, none) else (f, some (.acquire package b)) := by
  unfold entryServer
  simp only [act]
  cases hpackage : e.component.coordinate? with
  | none =>
      simp only [found?, hpackage] at h
      cases h
  | some package' =>
      simp only [request_giving, requestFor_withPeer, batchOf_withPeer]
      simp only [found?, hpackage, Option.bind_some] at h
      cases hbatch : d.batchOf (d.requestFor token package').url
          (if (d.requestFor token package').authorization.all mayStandInHeader then e.reply
            else none) with
      | error failure =>
          rw [hbatch] at h
          cases h
      | ok b' =>
          rw [hbatch] at h
          cases h
          rfl

end Dispatcher
end AdvisoryLedger
