import AdvisoryLedger.Json.Token

/-!
# JSON documents

A `Tree` is a JSON document whose shape is known and whose strings and numbers are still
text. It is built by a machine over the tokens: `Reader.step` is one transition, and the
machine keeps the arrays and objects that are still open on a stack. So no document is too
deep for it; how deep a value may be is a question for whoever decodes the tree.
-/

namespace AdvisoryLedger
namespace Json

/-- A document whose strings are still escaped and whose numbers are still text. -/
inductive Tree
  | null
  | bool (value : Bool)
  | number (text : List Char)
  | string (raw : List UInt8)
  | array (items : List Tree)
  | object (members : List (List UInt8 × Tree))
  deriving Repr

/-- An array or object that is still open. What was read of it is kept in reverse. -/
inductive Frame
  | array (items : List Tree)
  | object (members : List (List UInt8 × Tree)) (key : List UInt8)

/-- What the machine waits for, inside the frames that are open. -/
inductive Reader
  /-- A value. -/
  | value (open_ : List Frame)
  /-- A value or the end of the array that was just opened. -/
  | firstItem (open_ : List Frame)
  /-- What may follow the value that was just read. -/
  | after (value : Tree) (open_ : List Frame)
  /-- A key or the end of the object that was just opened. -/
  | firstKey (open_ : List Frame)
  /-- A key. -/
  | key (members : List (List UInt8 × Tree)) (open_ : List Frame)
  /-- The colon after a key. -/
  | colon (members : List (List UInt8 × Tree)) (key : List UInt8) (open_ : List Frame)

/-- The machine after the first token of a value. -/
def Reader.begin (frames : List Frame) : Token → Option Reader
  | .openArray => some (.firstItem frames)
  | .openObject => some (.firstKey frames)
  | .null => some (.after .null frames)
  | .bool b => some (.after (.bool b) frames)
  | .number text => some (.after (.number text) frames)
  | .string raw => some (.after (.string raw) frames)
  | _ => none

/-- The machine after one more token, or none where the document cannot go on so. -/
def Reader.step : Reader → Token → Option Reader
  | .value frames, t => Reader.begin frames t
  | .firstItem frames, .closeArray => some (.after (.array []) frames)
  | .firstItem frames, t => Reader.begin (.array [] :: frames) t
  | .after v (.array items :: frames), .comma => some (.value (.array (v :: items) :: frames))
  | .after v (.array items :: frames), .closeArray =>
    some (.after (.array (v :: items).reverse) frames)
  | .after v (.object members name :: frames), .comma => some (.key ((name, v) :: members) frames)
  | .after v (.object members name :: frames), .closeObject =>
    some (.after (.object ((name, v) :: members).reverse) frames)
  | .after _ _, _ => none
  | .firstKey frames, .closeObject => some (.after (.object []) frames)
  | .firstKey frames, .string name => some (.colon [] name frames)
  | .firstKey _, _ => none
  | .key members frames, .string name => some (.colon members name frames)
  | .key _ _, _ => none
  | .colon members name frames, .colon => some (.value (.object members name :: frames))
  | .colon _ _ _, _ => none

def Tree.ofTokens? (tokens : List Token) : Option Tree :=
  match tokens.foldlM Reader.step (.value []) with
  | some (.after v []) => some v
  | _ => none

def Tree.ofBytes? (bytes : List UInt8) : Option Tree := (tokens? bytes).bind Tree.ofTokens?

end Json
end AdvisoryLedger
