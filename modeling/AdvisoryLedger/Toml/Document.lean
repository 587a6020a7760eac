import AdvisoryLedger.Toml.Scalar

/-!
# TOML documents

A document is lines: headers, which say to which table the lines after them belong, and
keys with their values. Only arrays and tables in braces contain other values, and between
their brackets a gap may go over several lines and hold comments, while a line of the
document ends where its value ends.

No more than eighty arrays and tables in braces stand inside each other; a value's reader
recurs on what is left of that number, and the loop over the items of one array is bounded
by its text.
-/

namespace AdvisoryLedger
namespace Toml

/-- Items with commas between them up to a closing bracket, after which a comma may stand
behind the last one too. The number bounds the items. -/
def itemsUpTo {α : Type} (item : Reader α) (close : Char) : Nat → Reader (List α)
  | 0, _ => none
  | count + 1, cs => do
    match ← skipTrivia false cs with
    | [] => none
    | c :: rest =>
      if c = close then some ([], rest)
      else do
        let (x, rest) ← item (c :: rest)
        match ← skipTrivia false rest with
        | ',' :: rest => do
          let (xs, rest) ← itemsUpTo item close count rest
          some (x :: xs, rest)
        | c :: rest => if c = close then some ([x], rest) else none
        | [] => none

/-- A key and its value, with gaps before and after the equals sign. -/
def assignment (gap : List Char → Option (List Char)) (value : Reader Value) :
    Reader (List String × Value) := fun cs => do
  let (keys, rest) ← key cs
  match ← gap rest with
  | '=' :: rest => do
    let (v, rest) ← value (← gap rest)
    some ((keys, v), rest)
  | _ => none

/-- How many arrays and tables in braces may stand inside each other. -/
def nestingLimit : Nat := 80

/-- A value with room for so many arrays and tables in braces. -/
def value : Nat → Reader Value
  | 0, cs =>
    match cs with
    | '[' :: _ | '\x7b' :: _ => none
    | '\x22' :: _ | '\x27' :: _ => (string cs).map fun (s, rest) => (.string s, rest)
    | cs => scalar cs
  | room + 1, cs =>
    match cs with
    | '[' :: rest => do
      let (items, rest) ← itemsUpTo (value room) ']' (rest.length + 1) rest
      some (.array items, rest)
    | '\x7b' :: rest => do
      let (pairs, rest) ← itemsUpTo (assignment (skipTrivia false) (value room)) '\x7d'
        (rest.length + 1) rest
      let t ← pairs.foldlM (fun t (keys, v) => assign keys v t) (.table .inline [])
      some (t, rest)
    | '\x22' :: _ | '\x27' :: _ => (string cs).map fun (s, rest) => (.string s, rest)
    | cs => scalar cs

/-- What was read of a document: its root table, and the table that lines now belong to. -/
structure Draft where
  root : Value
  path : List String

/-- A header up to its closing bracket, from after its opening one. -/
def header (cs : List Char) : Option (List String × List Char) := do
  match ← key (skipSpace cs) with
  | (keys, ']' :: rest) => some (keys, rest)
  | _ => none

/-- The document after one more line that is not blank. -/
def line (d : Draft) : Reader Draft
  | '[' :: '[' :: cs => do
    match ← header cs with
    | (keys, ']' :: rest) => do
      let (path, last) ← splitPath keys
      some (⟨← update false (openNext last) path d.root, keys⟩, rest)
    | _ => none
  | '[' :: cs => do
    let (keys, rest) ← header cs
    let (path, last) ← splitPath keys
    some (⟨← update false (openTable last) path d.root, keys⟩, rest)
  | cs => do
    let ((keys, v), rest) ← assignment (some <| skipSpace ·) (value nestingLimit) cs
    some (⟨← update false (assign keys v) d.path d.root, d.path⟩, rest)

/-- The root table after all lines. The number bounds them. -/
def lines : Nat → Draft → List Char → Option Value
  | 0, _, _ => none
  | count + 1, d, cs => do
    match ← skipTrivia false cs with
    | [] => some d.root
    | c :: rest => do
      let (d, rest) ← line d (c :: rest)
      lines count d (← endOfLine false rest)

def parse? (s : String) : Option Value :=
  let cs := match s.toList with
    | '\uFEFF' :: cs => cs
    | cs => cs
  lines (cs.length + 1) ⟨.table .header [], []⟩ cs

end Toml
end AdvisoryLedger
