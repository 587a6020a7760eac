/-!
# Sets of characters

A property of Unicode characters is a set of code points, and the sets that this library
needs consist of some hundred runs. A `CharRun` is the code points from a first to a last
one in steps of one or two: alphabets in which capital and small letters take turns come
in steps of two. A set is the list of its runs.
-/

namespace AdvisoryLedger
namespace Text

/-- The code points `first, first + step, …, last`. -/
structure CharRun where
  first : Nat
  last : Nat
  step : Nat
  deriving Repr

def CharRun.contains (r : CharRun) (n : Nat) : Bool :=
  r.first ≤ n && n ≤ r.last && (n - r.first) % r.step == 0

/-- A set of characters, given by its runs. -/
abbrev CharSet := List CharRun

def CharSet.contains (s : CharSet) (c : Char) : Bool :=
  s.any (CharRun.contains · c.toNat)

def CharSet.ofTriples (triples : List (Nat × Nat × Nat)) : CharSet :=
  triples.map fun (first, last, step) => ⟨first, last, step⟩

end Text
end AdvisoryLedger
