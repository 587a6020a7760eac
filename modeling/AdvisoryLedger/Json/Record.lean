import AdvisoryLedger.Json.Value

/-!
# Records in JSON

A record with known fields is written as an object, or as an array that gives the fields
in their order. `fields?` finds the fields in either form and leaves their contents to the
caller; members of an object that the record does not know are ignored.

A record is read from a value or straight from a document. In a document a field that the
record knows may not be repeated, every key is decoded, and what an unknown key holds is
never looked at. A value has one member for each key already: the last.
-/

namespace AdvisoryLedger
namespace Json

/-- The fields of a record, in the order of their names. -/
def Value.fields? (names : List String) : Value → Option (List (Option Value))
  | .array items => if items.length = names.length then some (items.map some) else none
  | .object members => some (names.map fun name => lookupLast name members)
  | _ => none

/-- The members of a document's object with their keys decoded. -/
def decodeKeys? (members : List (List UInt8 × Tree)) : Option (List (String × Tree)) :=
  members.mapM fun (raw, t) => (decodeString? raw).map (·, t)

/-- The fields of a record, in the order of their names. The array form may leave out
fields at the end, down to the given number. -/
def Tree.fields? (names : List String) (least : Nat) : Tree → Option (List (Option Tree))
  | .array items =>
    if least ≤ items.length && items.length ≤ names.length then
      some (items.map some ++ List.replicate (names.length - items.length) none)
    else none
  | .object members => do
    let members ← decodeKeys? members
    if names.all fun name => (members.filter fun m => m.1 == name).length ≤ 1 then
      some (names.map fun name => lookupLast name members)
    else none
  | _ => none

/-- A field that may be missing or null. -/
def optional? {α : Type} (read : Value → Option α) : Option Value → Option (Option α)
  | none => some none
  | some .null => some none
  | some v => (read v).map some

def optionalTree? {α : Type} (read : Tree → Option α) : Option Tree → Option (Option α)
  | none => some none
  | some .null => some none
  | some t => (read t).map some

def listOf? {α : Type} (read : Value → Option α) : Value → Option (List α)
  | .array items => items.mapM read
  | _ => none

def treesOf? {α : Type} (read : Tree → Option α) : Tree → Option (List α)
  | .array items => items.mapM read
  | _ => none

def Tree.text? : Tree → Option String
  | .string raw => decodeString? raw
  | _ => none

/-- The natural number in a document that is written as an integer. -/
def Tree.natural? : Tree → Option Nat
  | .number text =>
    match Number.ofText? text with
    | some (.natural n) => some n
    | _ => none
  | _ => none

end Json
end AdvisoryLedger
