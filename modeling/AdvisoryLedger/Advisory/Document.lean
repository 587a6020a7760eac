import AdvisoryLedger.Advisory.Decode
import AdvisoryLedger.Json.Members
import Mathlib.Data.List.Forall2

/-!
# How responses are laid out

Decoding takes a response apart. This module says, apart from that, where a response of each
shape keeps what: the object that holds the list of entries, the address of the package, and
what an entry says about one vulnerability. With it, what decoding does can be stated on the
value of a document.

A `RawAdvisory` is an advisory as an entry has it and before anything of it is read: a member
may be missing, and it may hold any value at all, also one of a wrong type. The two shapes
write the same raw advisory in different places (`Issues.Gives` and `Package.Gives`), and
`RawAdvisory.advisory?` is what it comes to in either of them. `ResponseShape.document` writes
raw advisories down as a response.
-/

namespace AdvisoryLedger

open Json

/-! ### Places in a document -/

namespace ResponseShape

/-- The object that holds the list of entries. -/
def holder? : ResponseShape → Value → Option (List (String × Value))
  | .issues, v => v.members?
  | .package, v => ((v.member? "data").bind (·.member? "attributes")).bind Value.members?

/-- The key of the list of entries in the object that holds it. -/
def entriesKey : ResponseShape → String
  | .issues => "data"
  | .package => "vulnerabilities"

/-- What stands in the place of the package's address. -/
def url? : ResponseShape → Value → Option Value
  | .issues, v => ((v.member? "meta").bind (·.member? "package")).bind (·.member? "url")
  | .package, v => ((v.member? "data").bind (·.member? "attributes")).bind (·.member? "package_url")

/-- A document with other entries and everything else as it is. -/
def withEntries : ResponseShape → List Value → Value → Value
  | .issues, entries, v => v.mapMember "data" fun _ => .array entries
  | .package, entries, v =>
    v.mapMember "data" (Value.mapMember "attributes"
      (Value.mapMember "vulnerabilities" fun _ => .array entries))

/-- The advisory of an entry, if it has one. -/
def advisory? : ResponseShape → Value → Option Advisory
  | .issues => Issues.advisory?
  | .package => Package.advisory?

/-- No key is repeated in the objects between the document and its entries. -/
def HasPlainFrame : ResponseShape → Value → Prop
  | .issues, v => v.keys.Nodup
  | .package, v => v.keys.Nodup ∧ ∀ data ∈ v.member? "data",
      data.keys.Nodup ∧ ∀ attributes ∈ data.member? "attributes", attributes.keys.Nodup

end ResponseShape

/-! ### Entries before they are read -/

/-- What an entry says about one vulnerability. -/
structure RawAdvisory where
  id : Option Value
  title : Option Value
  description : Option Value
  createdAt : Option Value
  updatedAt : Option Value
  problems : Option Value
  severities : Option Value
  references : Option Value
  coordinates : Option Value

/-- What the members come to. One that is malformed spoils the whole. -/
def RawAdvisory.advisory? (r : RawAdvisory) : Option Advisory := do
  some {
    id := ← optional? Value.text? r.id
    title := ← optional? Value.text? r.title
    description := ← optional? Value.text? r.description
    createdAt := ← optional? Value.text? r.createdAt
    updatedAt := ← optional? Value.text? r.updatedAt
    publishedAt := none
    references := ← references? r.references
    problems := ← problems? r.problems
    severity := ← firstSeverity? r.severities
    ranges := ← ranges? r.coordinates }

namespace Issues

/-- The references of an issue stand in an object of their own, which may be left out where
there are none. -/
def SlotsGive (slots references : Option Value) : Prop :=
  (slots = none ∧ references = none) ∨
    ∃ members, slots = some (.object members) ∧ lookupLast "references" members = references

/-- The attributes of an issue that is a vulnerability give the raw advisory. -/
structure AttributesGive (attributes : List (String × Value)) (r : RawAdvisory) : Prop where
  type : ∃ type, lookupLast "type" attributes = some (.string type) ∧
    Text.equalIgnoringAsciiCase type vulnerabilityType = true
  title : lookupLast "title" attributes = r.title
  description : lookupLast "description" attributes = r.description
  createdAt : lookupLast "created_at" attributes = r.createdAt
  updatedAt : lookupLast "updated_at" attributes = r.updatedAt
  problems : lookupLast "problems" attributes = r.problems
  severities : lookupLast "severities" attributes = r.severities
  slots : SlotsGive (lookupLast "slots" attributes) r.references
  coordinates : lookupLast "coordinates" attributes = r.coordinates

/-- The issue gives the raw advisory. -/
def Gives (entry : Value) (r : RawAdvisory) : Prop :=
  entry.member? "id" = r.id ∧
    ∃ attributes, entry.member? "attributes" = some (.object attributes) ∧ AttributesGive attributes r

end Issues

namespace Package

/-- The members of an entry give the raw advisory, and no time of publication. -/
structure MembersGive (members : List (String × Value)) (r : RawAdvisory) : Prop where
  id : lookupLast "id" members = r.id
  title : lookupLast "title" members = r.title
  description : lookupLast "description" members = r.description
  createdAt : lookupLast "created_at" members = r.createdAt
  updatedAt : lookupLast "updated_at" members = r.updatedAt
  publishedAt : lookupLast "published_at" members = none
  problems : lookupLast "problems" members = r.problems
  severities : lookupLast "severities" members = r.severities
  references : lookupLast "references" members = r.references
  coordinates : lookupLast "coordinates" members = r.coordinates

/-- The entry gives the raw advisory. -/
def Gives (entry : Value) (r : RawAdvisory) : Prop :=
  ∃ members, entry = .object members ∧ MembersGive members r

end Package

namespace ResponseShape

/-- The entry gives the raw advisory, in this shape. -/
def Gives : ResponseShape → Value → RawAdvisory → Prop
  | .issues => Issues.Gives
  | .package => Package.Gives

/-- The document is a response of this shape with an entry for each raw advisory, in their
order, and with this in the place of the package's address. -/
structure Lists (shape : ResponseShape) (v : Value) (url : Option Value)
    (raws : List RawAdvisory) : Prop where
  frame : shape.HasPlainFrame v
  url : shape.url? v = url
  entries : ∃ holder entries, shape.holder? v = some holder ∧
    lookupLast shape.entriesKey holder = some (.array entries) ∧
    List.Forall₂ shape.Gives entries raws

end ResponseShape

/-! ### Responses as they are written -/

/-- The attributes of an issue with what the raw advisory has. -/
def Issues.attributes (r : RawAdvisory) : List (String × Value) :=
  present
    [("type", some (.string vulnerabilityType)), ("title", r.title),
      ("description", r.description), ("created_at", r.createdAt), ("updated_at", r.updatedAt),
      ("problems", r.problems), ("severities", r.severities),
      ("slots", r.references.map fun list => .object [("references", list)]),
      ("coordinates", r.coordinates)]

def Issues.entry (r : RawAdvisory) : Value :=
  .object (present [("id", r.id), ("attributes", some (.object (attributes r)))])

/-- An entry of a package with what the raw advisory has. -/
def Package.entry (r : RawAdvisory) : Value :=
  .object (present
    [("id", r.id), ("title", r.title), ("description", r.description),
      ("created_at", r.createdAt), ("updated_at", r.updatedAt), ("problems", r.problems),
      ("severities", r.severities), ("references", r.references),
      ("coordinates", r.coordinates)])

/-- A response of the shape about the package with this address. -/
def ResponseShape.document : ResponseShape → Value → List RawAdvisory → Value
  | .issues, url, raws => .object
    [("meta", .object [("package", .object [("url", url)])]),
      ("data", .array (raws.map Issues.entry))]
  | .package, url, raws => .object
    [("data", .object [("attributes", .object
      [("package_url", url), ("vulnerabilities", .array (raws.map Package.entry))])])]

end AdvisoryLedger
