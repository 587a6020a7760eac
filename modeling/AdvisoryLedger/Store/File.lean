import AdvisoryLedger.Json.Printer
import AdvisoryLedger.Json.Record
import AdvisoryLedger.Store.Write

/-!
# Stores as text

A store is kept between runs as a JSON text with one member for each table. A row is an
array of its columns. Scores are kept by their bits, so that they come back as they were,
and the key of a predicate is not kept but computed again from its other columns.
-/

namespace AdvisoryLedger
namespace Store

open Json (Value)

/-! ### Writing -/

def textColumn (s : String) : Value := .string s
def numberColumn (n : Nat) : Value := .number (.natural n)

/-- A column that may be missing. -/
def optionalColumn {α : Type} (write : α → Value) : Option α → Value
  | some x => write x
  | none => .null

def componentColumns (c : Component) : Value :=
  .array [textColumn c.id, textColumn c.name, optionalColumn textColumn c.purl]

def weaknessColumns (w : Weakness) : Value := .array [numberColumn w.id, textColumn w.name]

def vulnerabilityColumns (r : VulnerabilityRow) : Value :=
  .array [numberColumn r.id, textColumn r.source.word, textColumn r.vulnId,
    optionalColumn textColumn r.title, optionalColumn textColumn r.description,
    optionalColumn textColumn r.references, optionalColumn textColumn r.created,
    optionalColumn textColumn r.published, optionalColumn textColumn r.updated,
    textColumn r.severity.word, optionalColumn (fun x => numberColumn x.bits.toNat) r.score,
    optionalColumn textColumn r.vector]

def predicateColumns (r : PredicateRow) : Value :=
  .array [numberColumn r.id, textColumn r.type, optionalColumn textColumn r.scope,
    textColumn r.name, optionalColumn textColumn r.version,
    optionalColumn textColumn r.bounds.startIncluding,
    optionalColumn textColumn r.bounds.startExcluding,
    optionalColumn textColumn r.bounds.endIncluding,
    optionalColumn textColumn r.bounds.endExcluding, .bool r.vulnerable]

/-- The store as a value. -/
def value (s : Store) : Value :=
  let table {α : Type} (write : α → Value) (rows : List α) : Value := .array (rows.map write)
  .object [
    ("components", table componentColumns s.components),
    ("weaknesses", table weaknessColumns s.weaknesses),
    ("vulnerabilities", table vulnerabilityColumns s.vulnerabilities),
    ("weakness_links", table (fun l : WeaknessLink =>
      .array [numberColumn l.vulnerability, numberColumn l.weakness]) s.weaknessLinks),
    ("predicates", table predicateColumns s.predicates),
    ("predicate_links", table (fun l : PredicateLink =>
      .array [numberColumn l.vulnerability, numberColumn l.predicate, numberColumn l.position])
      s.predicateLinks),
    ("attributions", table (fun a : Attribution =>
      .array [textColumn a.component, numberColumn a.vulnerability, textColumn a.analyzer,
        textColumn a.attributedOn]) s.attributions),
    ("last_vulnerability", numberColumn s.lastVulnerability),
    ("last_predicate", numberColumn s.lastPredicate)]

/-- The store as text. -/
def text (s : Store) : String := s.value.pretty

/-! ### Reading -/

def number? : Value → Option Nat
  | .number (.natural n) => some n
  | _ => none

def truth? : Value → Option Bool
  | .bool b => some b
  | _ => none

/-- A text that may be missing. -/
def optionalText? : Value → Option (Option String)
  | .null => some none
  | .string s => some (some s)
  | _ => none

def componentOfColumns? : Value → Option Component
  | .array [id, name, purl] => do some ⟨← id.text?, ← name.text?, ← optionalText? purl⟩
  | _ => none

def weaknessOfColumns? : Value → Option Weakness
  | .array [id, name] => do some ⟨← number? id, ← name.text?⟩
  | _ => none

def vulnerabilityOfColumns? : Value → Option VulnerabilityRow
  | .array [id, source, vulnId, title, description, references, created, published, updated,
      severity, score, vector] => do
    some {
      id := ← number? id
      source := ← Source.ofText? (← source.text?)
      vulnId := ← vulnId.text?
      title := ← optionalText? title
      description := ← optionalText? description
      references := ← optionalText? references
      created := ← optionalText? created
      published := ← optionalText? published
      updated := ← optionalText? updated
      severity := Severity.ofLevel (← severity.text?)
      score := (number? score).map fun n => ⟨UInt64.ofNat n⟩
      vector := ← optionalText? vector }
  | _ => none

def predicateOfColumns? : Value → Option PredicateRow
  | .array [id, type, scope, name, version, startIncluding, startExcluding, endIncluding,
      endExcluding, vulnerable] => do
    let bounds : VersionBounds := ⟨← optionalText? startIncluding, ← optionalText? startExcluding,
      ← optionalText? endIncluding, ← optionalText? endExcluding⟩
    some (predicateRow (← number? id) {
      row := none
      type := ← type.text?
      scope := ← optionalText? scope
      name := ← name.text?
      version := ← optionalText? version
      bounds := bounds
      vulnerable := ← truth? vulnerable })
  | _ => none

def weaknessLinkOfColumns? : Value → Option WeaknessLink
  | .array [vulnerability, weakness] => do some ⟨← number? vulnerability, ← number? weakness⟩
  | _ => none

def predicateLinkOfColumns? : Value → Option PredicateLink
  | .array [vulnerability, predicate, position] => do
    some ⟨← number? vulnerability, ← number? predicate, ← number? position⟩
  | _ => none

def attributionOfColumns? : Value → Option Attribution
  | .array [component, vulnerability, analyzer, attributedOn] => do
    some ⟨← component.text?, ← number? vulnerability, ← analyzer.text?, ← attributedOn.text?⟩
  | _ => none

/-- The store that a value describes. -/
def ofValue? (v : Value) : Option Store := do
  some {
    components := ← Json.listOf? componentOfColumns? (← v.member? "components")
    weaknesses := ← Json.listOf? weaknessOfColumns? (← v.member? "weaknesses")
    vulnerabilities := ← Json.listOf? vulnerabilityOfColumns? (← v.member? "vulnerabilities")
    weaknessLinks := ← Json.listOf? weaknessLinkOfColumns? (← v.member? "weakness_links")
    predicates := ← Json.listOf? predicateOfColumns? (← v.member? "predicates")
    predicateLinks := ← Json.listOf? predicateLinkOfColumns? (← v.member? "predicate_links")
    attributions := ← Json.listOf? attributionOfColumns? (← v.member? "attributions")
    lastVulnerability := ← number? (← v.member? "last_vulnerability")
    lastPredicate := ← number? (← v.member? "last_predicate") }

/-- The store that a text describes. -/
def ofBytes? (bytes : List UInt8) : Option Store := (Value.ofBytes? bytes).bind ofValue?

end Store
end AdvisoryLedger
