import AdvisoryLedger.Text.Percent

/-!
# Where a store is kept

A store is named by a text. Most texts are the path of a file. The empty text and one
special word name no file at all: such a store is new whenever it is opened, and is gone
afterwards. A text may also be a `file:` URL, whose path is percent-encoded and whose query
may ask for a store that is not kept.
-/

namespace AdvisoryLedger

/-- Where a store is kept. -/
inductive StoreAddress
  /-- Nowhere: it lasts as long as it is open. -/
  | transient
  | file (path : String)
  /-- The text names a machine, and stores are kept on no other one. -/
  | elsewhere (machine : String)
  deriving DecidableEq, Repr

namespace StoreAddress

open Text

def ofName (name : String) : StoreAddress :=
  if name = "" || name = ":memory:" then .transient else .file name

/-- The machine and the path of a URL without its scheme. -/
def machineAndPath (cs : List Char) : List Char × List Char :=
  match cs with
  | '/' :: '/' :: rest => (rest.takeWhile (· ≠ '/'), rest.dropWhile (· ≠ '/'))
  | cs => ([], cs)

/-- The address that a URL without its scheme stands for. -/
def ofUrl (cs : List Char) : StoreAddress :=
  let (machine, rest) := machineAndPath (cs.takeWhile (· ≠ '#'))
  if machine ≠ [] && machine ≠ "localhost".toList then .elsewhere (String.ofList machine)
  else
    let (path, query) := match cut? '?' rest with
      | some (path, query) => (path, query.splitOn '&')
      | none => (rest, [])
    if "mode=memory".toList ∈ query then .transient
    else
      let path := String.ofList path
      ofName ((percentDecode? path).getD path)

def ofText (s : String) : StoreAddress :=
  match dropFirst? "file:".toList s.toList with
  | some rest => ofUrl rest
  | none => ofName s

/-- A URL can name the file that a path names. -/
example : ofText "file:a%20b.db?cache=shared" = ofText "a b.db" := by decide +kernel

end StoreAddress
end AdvisoryLedger
