import AdvisoryLedger.Advisory.Fields
import AdvisoryLedger.Text.Casing

/-!
# Responses that list issues

The document has a list `data` of issues and, in `meta`, the address of the package. An
issue has attributes; only issues whose attributes give the type of a package vulnerability
are advisories. This shape has no time of publication.
-/

namespace AdvisoryLedger
namespace Issues

open Json

/-- The type of the issues that are advisories. -/
def vulnerabilityType : String := "package_vulnerability"

/-- The attributes of an issue with its type. -/
def attributes? (id : Option String) (v : Value) : Option (Option String × Advisory) := do
  match ← v.fields? ["type", "title", "description", "created_at", "updated_at", "problems",
      "severities", "slots", "coordinates"] with
  | [type, title, description, createdAt, updatedAt, problems, severities, slots, coordinates] =>
    let type ← optional? Value.text? type
    let slots ← optional? (fun slots => do
      match ← slots.fields? ["references"] with
      | [list] => optional? (listOf? reference?) list
      | _ => none) slots
    some (type, {
      id := id
      title := ← optional? Value.text? title
      description := ← optional? Value.text? description
      createdAt := ← optional? Value.text? createdAt
      updatedAt := ← optional? Value.text? updatedAt
      publishedAt := none
      references := presentAddresses slots.join
      problems := ← problems? problems
      severity := ← firstSeverity? severities
      ranges := ← ranges? coordinates })
  | _ => none

/-- The advisory of an issue. An issue that is malformed or is no vulnerability has none. -/
def advisory? (v : Value) : Option Advisory := do
  match ← v.fields? ["id", "attributes"] with
  | [id, attributes] =>
    let id ← optional? Value.text? id
    match ← optional? (attributes? id) attributes with
    | some (some type, advisory) =>
      if Text.equalIgnoringAsciiCase type vulnerabilityType then some advisory else none
    | _ => none
  | _ => none

/-- The batch of a response, given how deeply values may still nest inside the document. -/
def batch? (t : Tree) : Option AdvisoryBatch := do
  match ← t.fields? ["meta", "data"] 2 with
  | [about, data] =>
    let about ← optionalTree? (Value.ofTree? (nestingLimit - 1)) about
    let entries ← optionalTree? (treesOf? (Value.ofTree? (nestingLimit - 2))) data
    let package := about.bind (·.member? "package")
    some ⟨packageUrl? (package.bind (·.member? "url")), (entries.getD []).filterMap advisory?⟩
  | _ => none

end Issues
end AdvisoryLedger
