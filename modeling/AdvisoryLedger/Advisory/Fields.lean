import AdvisoryLedger.Advisory.Basic
import AdvisoryLedger.Json.Record
import AdvisoryLedger.Text.Basic

/-!
# The parts of an advisory in JSON

Both shapes of a response write an advisory's ratings, problems, references and ranges
alike. Each reader here answers none where the part is malformed, and then the entry that
it belongs to is dropped.
-/

namespace AdvisoryLedger
namespace Json

/-- A problem is an identifier, or an object that may have one. -/
def problem? : Value → Option (Option String)
  | .string id => some (some id)
  | .object members => optional? Value.text? (lookupLast "id" members)
  | _ => none

/-- A score is a number or a text. -/
def baseScore? : Value → Option BaseScore
  | .number n => some (.number n.toBinary64)
  | .string s => some (.text s)
  | _ => none

/-- A score stands alone, or in an object that may have one. -/
def score? : Value → Option (Option BaseScore)
  | .object members => optional? baseScore? (lookupLast "base_score" members)
  | v => (baseScore? v).map some

def severity? (v : Value) : Option SeverityEntry := do
  match ← v.fields? ["level", "vector", "score"] with
  | [level, vector, score] =>
    some {
      level := ← optional? Value.text? level
      vector := ← optional? Value.text? vector
      baseScore := (← optional? score? score).join }
  | _ => none

def reference? (v : Value) : Option (Option String) := do
  match ← v.fields? ["url"] with
  | [url] => optional? Value.text? url
  | _ => none

def coordinate? (v : Value) : Option (List String) := do
  match ← v.fields? ["representation"] with
  | [ranges] => some ((← optional? (listOf? Value.text?) ranges).getD [])
  | _ => none

/-- The identifiers among the problems. -/
def problems? (field : Option Value) : Option (List String) :=
  (optional? (listOf? problem?) field).map fun list => (list.getD []).filterMap id

/-- The first of the ratings; all of them have to be well formed. -/
def firstSeverity? (field : Option Value) : Option (Option SeverityEntry) :=
  (optional? (listOf? severity?) field).map fun list => list.bind List.head?

/-- The addresses among the references that are not blank. -/
def presentAddresses (list : Option (List (Option String))) : List String :=
  ((list.getD []).filterMap id).filter fun url => !Text.isBlankText url

def references? (field : Option Value) : Option (List String) :=
  (optional? (listOf? reference?) field).map presentAddresses

def ranges? (field : Option Value) : Option (List String) :=
  (optional? (listOf? coordinate?) field).map fun list => (list.getD []).flatten

/-- The package that a response names: a text that is not blank, without blanks around it. -/
def packageUrl? (v : Option Value) : Option String :=
  match v with
  | some (.string s) =>
    let name := Text.trimmed s
    if name.isEmpty then none else some name
  | _ => none

end Json
end AdvisoryLedger
