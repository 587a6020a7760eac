import AdvisoryLedger.Advisory.Issues
import AdvisoryLedger.Advisory.Package
import AdvisoryLedger.Advisory.Shape

/-!
# From the body of a response to its advisories

The version tag of a request decides the shape, and the shape decides how the body is read.
-/

namespace AdvisoryLedger
namespace ResponseShape

/-- The batch of a response of this shape. -/
def batchOfTree? : ResponseShape → Json.Tree → Option AdvisoryBatch
  | .issues => Issues.batch?
  | .package => Package.batch?

/-- The batch in a response's body. -/
def decode? (shape : ResponseShape) (body : List UInt8) : Option AdvisoryBatch :=
  (Json.Tree.ofBytes? body).bind shape.batchOfTree?

end ResponseShape
end AdvisoryLedger
