import AdvisoryLedger.Package.Coordinate
import AdvisoryLedger.Version.Bounds

/-!
# Affected packages

A predicate says which versions of a package a vulnerability affects. Its version is set
only where the bounds pin one, and follows from them; the version of the coordinate that it
was made for plays no part.

Two predicates for the same package with the same bounds are the same row of the store, and
`identity` is the key by which the store knows that.
-/

namespace AdvisoryLedger

/-- The versions of one package that are affected. The row is that of the store. -/
structure Predicate where
  row : Option Int
  type : String
  scope : Option String
  name : String
  version : Option String
  bounds : VersionBounds
  vulnerable : Bool
  deriving DecidableEq, Repr

namespace Predicate

/-- A predicate that is not in the store yet. -/
def ofParts (type : String) (scope : Option String) (name : String) (bounds : VersionBounds) :
    Predicate :=
  { row := none
    type := type
    scope := scope
    name := name
    version := bounds.exactVersion?
    bounds := bounds
    vulnerable := true }

def ofCoordinate (c : Coordinate) (bounds : VersionBounds) : Predicate :=
  ofParts c.type c.scope c.name bounds

/-- A part of the key that may be missing, told apart from an empty one. -/
def keyPart : Option String → String
  | some s => "=" ++ s
  | none => "-"

def separator : String := "\x1f"

def keyParts (p : Predicate) : List String :=
  [p.type, keyPart p.scope, p.name, keyPart p.bounds.startIncluding,
    keyPart p.bounds.startExcluding, keyPart p.bounds.endIncluding, keyPart p.bounds.endExcluding]

/-- The key by which predicates are the same. -/
def identity (p : Predicate) : String := separator.intercalate p.keyParts

end Predicate
end AdvisoryLedger
