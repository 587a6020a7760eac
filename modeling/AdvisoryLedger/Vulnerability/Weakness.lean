import AdvisoryLedger.Json.Record
import AdvisoryLedger.Number.Word
import AdvisoryLedger.Text.Basic

/-!
# Weaknesses

A weakness is an entry of the common enumeration that says what kind of flaw a
vulnerability is. Vendors write its number with or without the letters `CWE-` before it.
-/

namespace AdvisoryLedger

structure Weakness where
  id : Nat
  name : String
  deriving DecidableEq, Repr

namespace Weakness

/-- The text without the four letters of the enumeration before it. -/
def withoutLabel : List Char → List Char
  | c :: w :: e :: dash :: rest =>
    if [c, w, e, dash].map Char.toLower = ['c', 'w', 'e', '-'] then rest
    else c :: w :: e :: dash :: rest
  | cs => cs

/-- A number of 32 bits in digits, with a plus sign or without. -/
def number? (cs : List Char) : Option Nat :=
  let digits := match cs with
    | '+' :: rest => rest
    | cs => cs
  if digits.isEmpty || !digits.all Text.isDigit then none
  else
    let n := Text.decimal digits
    if n < Word.size32 then some n else none

/-- The number of the weakness that a text names. -/
def parseId? (s : String) : Option Nat := number? (withoutLabel (Text.trim s.toList))

/-- A weakness in a document. -/
def ofTree? (t : Json.Tree) : Option Weakness := do
  match ← t.fields? ["id", "name"] 2 with
  | [id, name] =>
    let id ← id.bind Json.Tree.natural?
    let name ← name.bind Json.Tree.text?
    if id < Word.size32 then some ⟨id, name⟩ else none
  | _ => none

def listOfBytes? (bytes : List UInt8) : Option (List Weakness) :=
  (Json.Tree.ofBytes? bytes).bind (Json.treesOf? ofTree?)

end Weakness
end AdvisoryLedger
