import AdvisoryLedger.Number.Binary64

/-!
# TOML values

A table remembers how it came to be, for that decides what may be added to it later: a table
that a header names is complete but for what stands under the header, a table that stands
in braces is complete altogether, and tables that exist only because a header went through
them may still be named themselves, until a dotted key goes through them.

A number remembers only what it is worth, and some are worth nothing here: their digits are
no number of their base, or one beyond every limit. That alone makes no document invalid.
Such a number is at fault only where somebody looks at it, so `isReadable` tells the values
that can be looked at through and through.
-/

namespace AdvisoryLedger
namespace Toml

/-- How a table came to be. -/
inductive TableKind
  /-- A header named it. -/
  | header
  /-- A header went through it. -/
  | implied
  /-- A dotted key went through it. -/
  | dotted
  /-- It stands in braces. -/
  | inline
  deriving DecidableEq, Repr

/-- A value. Dates and times keep their text. -/
inductive Value
  | string (s : String)
  | integer (n : Option Int)
  | float (x : Option Binary64)
  | boolean (b : Bool)
  | datetime (text : String)
  | array (items : List Value)
  | table (kind : TableKind) (members : List (String × Value))
  /-- Tables that headers in double brackets name one after another. -/
  | tables (items : List Value)
  deriving Repr

mutual

/-- Every number in the value is worth something. -/
def Value.isReadable : Value → Bool
  | .integer n => n.isSome
  | .float x => x.isSome
  | .array items => allReadable items
  | .tables items => allReadable items
  | .table _ members => membersReadable members
  | _ => true

def allReadable : List Value → Bool
  | [] => true
  | v :: items => v.isReadable && allReadable items

def membersReadable : List (String × Value) → Bool
  | [] => true
  | (_, v) :: members => v.isReadable && membersReadable members

end

def lookup? (key : String) (members : List (String × Value)) : Option Value :=
  (members.find? fun m => m.1 == key).map Prod.snd

def replaceMember (key : String) (value : Value) (members : List (String × Value)) :
    List (String × Value) :=
  members.map fun m => if m.1 = key then (key, value) else m

/-- What a table is once a key went through it: a dotted key leaves its mark. -/
def TableKind.passed (dotted : Bool) : TableKind → TableKind
  | .implied => if dotted then .dotted else .implied
  | kind => kind

/-- Change the table at the end of a path, and make the tables on the way that are missing.
Of tables in a list the last one is meant. A dotted key may not go through a table that a
header named, and nothing goes through a table in braces. -/
def update (dotted : Bool) (change : Value → Option Value) :
    List String → Value → Option Value
  | [], v => change v
  | key :: path, .table kind members =>
    match lookup? key members with
    | none =>
      (update dotted change path (.table (TableKind.implied.passed dotted) [])).map fun v =>
        .table kind (members ++ [(key, v)])
    | some (.table inner held) =>
      if inner = .inline || (dotted && inner = .header) then none
      else
        (update dotted change path (.table (inner.passed dotted) held)).map fun v =>
          .table kind (replaceMember key v members)
    | some (.tables items) =>
      match items.reverse with
      | last :: earlier =>
        (update dotted change path last).map fun v =>
          .table kind (replaceMember key (.tables (v :: earlier).reverse) members)
      | [] => none
    | some _ => none
  | _ :: _, _ => none

/-- Give a table a member that it does not have. A dotted key has to end in a table that
dotted keys made, and a plain key may not add to such a table. -/
def addMember (viaDots : Bool) (key : String) (value : Value) : Value → Option Value
  | .table kind members =>
    if viaDots != decide (kind = .dotted) then none
    else if (lookup? key members).isSome then none
    else some (.table kind (members ++ [(key, value)]))
  | _ => none

/-- The path to a key and the key. -/
def splitPath : List String → Option (List String × String)
  | [] => none
  | [key] => some ([], key)
  | key :: path => (splitPath path).map fun (front, last) => (key :: front, last)

/-- Give a table the value of a key, which may be dotted. -/
def assign (keys : List String) (value : Value) (table : Value) : Option Value := do
  let (path, key) ← splitPath keys
  update true (addMember (!path.isEmpty) key value) path table

/-- Name a table by a header. -/
def openTable (key : String) : Value → Option Value
  | .table kind members =>
    match lookup? key members with
    | none => some (.table kind (members ++ [(key, .table .header [])]))
    | some (.table .implied held) =>
      some (.table kind (replaceMember key (.table .header held) members))
    | some _ => none
  | _ => none

/-- Begin the next table of a list by a header in double brackets. -/
def openNext (key : String) : Value → Option Value
  | .table kind members =>
    match lookup? key members with
    | none => some (.table kind (members ++ [(key, .tables [.table .header []])]))
    | some (.tables items) =>
      some (.table kind (replaceMember key (.tables (items ++ [.table .header []])) members))
    | some _ => none
  | _ => none

end Toml
end AdvisoryLedger
