import AdvisoryLedger.Advisory.Fields

/-!
# Responses about one package

The document has, in `data` and there in `attributes`, the address of the package and the
list of its vulnerabilities. A response without those attributes says nothing and is not
malformed.
-/

namespace AdvisoryLedger
namespace Package

open Json

/-- The advisory of an entry. A malformed entry has none. -/
def advisory? (v : Value) : Option Advisory := do
  match ← v.fields? ["id", "title", "description", "created_at", "updated_at", "published_at",
      "problems", "severities", "references", "coordinates"] with
  | [id, title, description, createdAt, updatedAt, publishedAt, problems, severities, references,
      coordinates] =>
    some {
      id := ← optional? Value.text? id
      title := ← optional? Value.text? title
      description := ← optional? Value.text? description
      createdAt := ← optional? Value.text? createdAt
      updatedAt := ← optional? Value.text? updatedAt
      publishedAt := ← optional? Value.text? publishedAt
      references := ← references? references
      problems := ← problems? problems
      severity := ← firstSeverity? severities
      ranges := ← ranges? coordinates }
  | _ => none

/-- The batch of the package's attributes, three levels deep in the document. -/
def attributes? (t : Tree) : Option AdvisoryBatch := do
  match ← t.fields? ["package_url", "vulnerabilities"] 2 with
  | [url, list] =>
    let url ← optionalTree? (Value.ofTree? (nestingLimit - 3)) url
    let entries ← optionalTree? (treesOf? (Value.ofTree? (nestingLimit - 4))) list
    some ⟨packageUrl? url, (entries.getD []).filterMap advisory?⟩
  | _ => none

/-- The batch of the package that a response is about. -/
def data? (t : Tree) : Option (Option AdvisoryBatch) := do
  match ← t.fields? ["attributes"] 1 with
  | [attributes] => optionalTree? attributes? attributes
  | _ => none

/-- The batch of a response. -/
def batch? (t : Tree) : Option AdvisoryBatch := do
  match ← t.fields? ["data"] 1 with
  | [data] => some ((← optionalTree? data? data).join.getD .empty)
  | _ => none

end Package
end AdvisoryLedger
