import AdvisoryLedger.Store.Read

/-!
# Writing to the store

Each table has a function that adds a row to it and refuses one that would break the
table's rules: a row number, key or pair that is taken already, or a link to a row that
does not exist. The operations on the whole store are made of these. An operation that
fails at any point leaves the store as it was, since the steps are taken on a value.

* `synchronize` writes a draft: its predicates first, then the vulnerability under its
  source and identifier, whose row it overwrites or makes, then the links to its weaknesses
  and predicates in place of those that it had. Predicates with one key are one row and are
  linked once, at the place of the first. The answer is the record as it was given, with its
  row and the predicates it now has.
* `attach` gives a component a vulnerability. A pair that is there keeps its first time.
-/

namespace AdvisoryLedger
namespace Store

/-! ### Catalogue and weaknesses -/

/-- Register a component, or give it another name and package URL. -/
def upsertComponent (s : Store) (c : Component) : Store :=
  if s.components.any (·.id == c.id) then
    { s with components := s.components.map fun d => if d.id = c.id then c else d }
  else { s with components := s.components ++ [c] }

/-- Enter a weakness, or give it another name. -/
def insertWeakness (s : Store) (w : Weakness) : Store :=
  if s.weaknesses.any (·.id == w.id) then
    { s with weaknesses := s.weaknesses.map fun v => if v.id = w.id then w else v }
  else { s with weaknesses := s.weaknesses ++ [w] }

/-! ### Single tables -/

def predicateRow (id : Nat) (p : Predicate) : PredicateRow :=
  { id := id
    identity := p.identity
    type := p.type
    scope := p.scope
    name := p.name
    version := p.version
    bounds := p.bounds
    vulnerable := p.vulnerable }

/-- Have a predicate in the store, as a new row unless its key is there already. The answer
is its row number. -/
def persistPredicate (s : Store) (p : Predicate) : Except Failure (Nat × Store) :=
  let id := s.lastPredicate + 1
  match s.predicateRow? p.identity with
  | some r => .ok (r.id, { s with lastPredicate := id })
  | none =>
    if s.predicates.any (·.id == id) then .error .store
    else
      .ok (id, { s with
        predicates := s.predicates ++ [predicateRow id p]
        lastPredicate := id })

/-- A score as a column of numbers keeps it: there is no number that is none, and zero has
no sign. -/
def storedScore (score : Option Binary64) : Option Binary64 :=
  score.bind fun x => if x.isNaN then none else if x.magnitude = 0 then some (.zero false) else some x

def vulnerabilityRow (id : Nat) (vulnId : String) (v : Vulnerability) : VulnerabilityRow :=
  { id := id
    source := v.source
    vulnId := vulnId
    title := v.title
    description := v.description
    references := v.references
    created := v.created.map Instant.timestamp
    published := v.published.map Instant.timestamp
    updated := v.updated.map Instant.timestamp
    severity := v.severity
    score := storedScore v.score
    vector := v.vector }

/-- Write a vulnerability over the row that it has, or into a new one. The answer is its row
number. -/
def upsertVulnerability (s : Store) (vulnId : String) (v : Vulnerability) :
    Except Failure (Nat × Store) :=
  let id := s.lastVulnerability + 1
  match s.vulnerabilityRow? v.source vulnId with
  | some r =>
    .ok (r.id, { s with
      vulnerabilities := s.vulnerabilities.map fun r' =>
        if r'.source = v.source ∧ r'.vulnId = vulnId then vulnerabilityRow r'.id vulnId v else r'
      lastVulnerability := id })
  | none =>
    if s.vulnerabilities.any (·.id == id) then .error .store
    else
      .ok (id, { s with
        vulnerabilities := s.vulnerabilities ++ [vulnerabilityRow id vulnId v]
        lastVulnerability := id })

def unlinkWeaknesses (s : Store) (row : Nat) : Store :=
  { s with weaknessLinks := s.weaknessLinks.filter (·.vulnerability != row) }

def unlinkPredicates (s : Store) (row : Nat) : Store :=
  { s with predicateLinks := s.predicateLinks.filter (·.vulnerability != row) }

/-- Give a vulnerability a weakness, unless it has it. -/
def linkWeakness (s : Store) (l : WeaknessLink) : Except Failure Store :=
  if (s.vulnerabilityAt? l.vulnerability).isNone then .error .store
  else if l ∈ s.weaknessLinks then .ok s
  else .ok { s with weaknessLinks := s.weaknessLinks ++ [l] }

/-- Give a vulnerability a predicate that it does not have. -/
def linkPredicate (s : Store) (l : PredicateLink) : Except Failure Store :=
  if (s.vulnerabilityAt? l.vulnerability).isNone || (s.predicateAt? l.predicate).isNone then
    .error .store
  else if s.predicateLinks.any fun m =>
      m.vulnerability == l.vulnerability && m.predicate == l.predicate then .error .store
  else .ok { s with predicateLinks := s.predicateLinks ++ [l] }

/-- Give a component a vulnerability, unless it has it. -/
def recordAttribution (s : Store) (component : String) (row : Int) (analyzer attributedOn : String) :
    Except Failure Store :=
  match s.component? component, s.vulnerabilityAt? row with
  | some _, some r =>
    if s.attributions.any fun a => a.component == component && a.vulnerability == r.id then .ok s
    else
      .ok { s with attributions := s.attributions ++ [⟨component, r.id, analyzer, attributedOn⟩] }
  | _, _ => .error .store

/-! ### Whole operations -/

/-- Have predicates in the store, one after another, and keep each with its row number. One
whose row is kept already is left out. -/
def persistAll (s : Store) (kept : List (Nat × Predicate)) :
    List Predicate → Except Failure (List (Nat × Predicate) × Store)
  | [] => .ok (kept, s)
  | p :: ps => do
    let (id, s) ← s.persistPredicate p
    s.persistAll (if kept.any (·.1 == id) then kept else kept ++ [(id, p)]) ps

def linkWeaknesses (s : Store) (row : Nat) (weaknesses : List Weakness) : Except Failure Store :=
  weaknesses.foldlM (fun s w => s.linkWeakness ⟨row, w.id⟩) s

/-- Give a vulnerability the predicates with the given rows, whose places count from a first
one. -/
def linkPredicates (s : Store) (row position : Nat) : List Nat → Except Failure Store
  | [] => .ok s
  | id :: ids => do
    let s ← s.linkPredicate ⟨row, id, position⟩
    s.linkPredicates row (position + 1) ids

/-- The identifier under which a vulnerability can be stored: one that is not blank. -/
def storableId? (v : Vulnerability) : Option String :=
  v.vulnId.filter fun id => !Text.isBlankText id

/-- Write a draft. The answer is the record with its row and its predicates. -/
def synchronize (s : Store) (d : Draft) : Except Failure (Vulnerability × Store) :=
  match storableId? d.record with
  | none => .error (.payload .missingIdentifier)
  | some vulnId => do
    let (kept, s) ← s.persistAll [] d.software
    let (row, s) ← s.upsertVulnerability vulnId d.record
    let s ← (s.unlinkWeaknesses row).linkWeaknesses row d.record.weaknesses
    let s ← (s.unlinkPredicates row).linkPredicates row 0 (kept.map (·.1))
    let software := kept.map fun (id, p) => { p with row := some (id : Int) }
    .ok ({ d.record with row := some (row : Int), software := software }, s)

/-- The name under which this library attributes vulnerabilities. -/
def analyzer : String := "SNYK_ANALYZER"

/-- Give a component a vulnerability that is in the store. The answer says whether the
component is known. -/
def attach (s : Store) (v : Vulnerability) (component : String) (now : Instant) :
    Except Failure (Bool × Store) :=
  match v.row with
  | none => .error (.payload .notSynchronized)
  | some row =>
    if (s.component? component).isNone then .ok (false, s)
    else (s.recordAttribution component row analyzer now.timestamp).map (true, ·)

end Store
end AdvisoryLedger
