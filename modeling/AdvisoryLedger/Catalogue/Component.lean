import AdvisoryLedger.Failure
import AdvisoryLedger.Json.Record

/-!
# Components

A component is an entry of the catalogue that is to be analysed. It can be looked up when
its package URL is in order and gives a version.
-/

namespace AdvisoryLedger

/-- An entry of the catalogue. -/
structure Component where
  id : String
  name : String
  purl : Option String
  deriving DecidableEq, Repr

namespace Component

/-- The coordinate that the component's package URL gives. -/
def coordinate? (c : Component) : Option Coordinate :=
  c.purl.bind fun purl => (Coordinate.ofUrl purl).toOption

def isCapable (c : Component) : Bool :=
  match c.coordinate? with
  | some coordinate => coordinate.isFullyQualified
  | none => false

/-- A component in a document; the package URL may be left out. -/
def ofTree? (t : Json.Tree) : Option Component := do
  match ← t.fields? ["id", "name", "purl"] 2 with
  | [id, name, purl] =>
    some ⟨← id.bind Json.Tree.text?, ← name.bind Json.Tree.text?,
      ← Json.optionalTree? Json.Tree.text? purl⟩
  | _ => none

def listOfBytes? (bytes : List UInt8) : Option (List Component) :=
  (Json.Tree.ofBytes? bytes).bind (Json.treesOf? ofTree?)

end Component
end AdvisoryLedger
