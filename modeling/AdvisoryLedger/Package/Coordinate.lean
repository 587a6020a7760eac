import AdvisoryLedger.Text.Percent

/-!
# Package coordinates

A coordinate names a package: its type, which says where it is published, an optional
scope, its name and an optional version. `display` writes it as a plain package URL
without any encoding, and `urlParam` encodes that text so that it fits into one segment of
a path.
-/

namespace AdvisoryLedger

/-- The parts of a package URL that identify a package. -/
structure Coordinate where
  type : String
  scope : Option String
  name : String
  version : Option String
  deriving DecidableEq, Repr

namespace Coordinate

def display (c : Coordinate) : String :=
  "pkg:" ++ c.type ++ "/"
    ++ (match c.scope with | some scope => scope ++ "/" | none => "")
    ++ c.name
    ++ (match c.version with | some version => "@" ++ version | none => "")

/-- The coordinate as one segment of a URL's path. -/
def urlParam (c : Coordinate) : String := Text.percentEncode c.display

/-- Type, name and version are all there, so the package can be looked up. -/
def isFullyQualified (c : Coordinate) : Bool :=
  !c.type.isEmpty && !c.name.isEmpty && c.version.isSome

end Coordinate
end AdvisoryLedger
