import AdvisoryLedger.Text.Basic

/-!
# Shapes of a response

The service has answered in two shapes, and the version tag of a request decides which one
comes back: tags that are dated before the change name the older one. A tag may carry a
stability level behind a tilde, which does not matter here.
-/

namespace AdvisoryLedger

inductive ResponseShape
  /-- A list of issues, each with its attributes. -/
  | issues
  /-- One package with the list of its vulnerabilities. -/
  | package
  deriving DecidableEq, Repr

namespace ResponseShape

/-- The first date whose responses list issues. -/
def issuesSince : String := "2022-04-06"

/-- The part of a version tag that may be a date. -/
def tagDate (tag : String) : List Char := Text.trim (tag.toList.takeWhile (· ≠ '~'))

/-- Ten characters that are digits or hyphens. -/
def looksDated (date : List Char) : Bool :=
  date.length == issuesSince.length && date.all fun c => Text.isDigit c || c == '-'

def ofVersionTag (tag : String) : ResponseShape :=
  let date := tagDate tag
  if looksDated date && decide (date < issuesSince.toList) then .package else .issues

end ResponseShape
end AdvisoryLedger
