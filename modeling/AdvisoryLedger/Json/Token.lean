/-!
# The tokens of a JSON text

A JSON text is bytes, and its tokens are found by a machine that sees one byte at a time:
`Lexer.step` is one transition, and a whole text is a fold of it, so the tokens of a
concatenation are found by going on where the first part stopped.

The machine checks the shape of a token and no more. A string is kept as the bytes between
its quotes: its escapes are well formed and no control stands in it, but nothing is decoded
yet, for a value that nobody asks for is never decoded. A number is kept as its characters.
-/

namespace AdvisoryLedger
namespace Json

/-- A token. Strings are still escaped and numbers are still text. -/
inductive Token
  | openArray | closeArray | openObject | closeObject | comma | colon
  | null
  | bool (value : Bool)
  | number (text : List Char)
  | string (raw : List UInt8)
  deriving DecidableEq, Repr

/-- How far a string is into an escape. -/
inductive Escape
  | none
  | begun
  | digits (left : Nat)
  deriving DecidableEq, Repr

/-- The part of a number that was read last. -/
inductive NumberPart
  | sign | zero | whole | point | fraction | mark | markSign | exponent
  deriving DecidableEq, Repr

/-- A number may end after this part. -/
def NumberPart.isComplete : NumberPart → Bool
  | .zero | .whole | .fraction | .exponent => true
  | _ => false

/-- What the machine is in the middle of. What was read of a token is kept in reverse. -/
inductive Mode
  | between
  | word (left : List UInt8) (token : Token)
  | string (read : List UInt8) (escape : Escape)
  | number (read : List Char) (part : NumberPart)
  deriving Repr

/-- The machine: its mode, and the tokens found so far in reverse. -/
structure Lexer where
  mode : Mode
  found : List Token
  deriving Repr

/-- The character that an ASCII byte stands for. -/
def asciiChar (b : UInt8) : Char := Char.ofNat b.toNat

/-- The byte of an ASCII character. -/
def asciiByte (c : Char) : UInt8 := UInt8.ofNat c.toNat

/-- The four characters that may stand between tokens. -/
def isSpace (c : Char) : Bool := c = ' ' || c = '\n' || c = '\t' || c = '\r'

def isDigitChar (c : Char) : Bool := '0' ≤ c && c ≤ '9'

/-- A digit of an escape by code unit. -/
def isHexChar (c : Char) : Bool :=
  isDigitChar c || ('a' ≤ c && c ≤ 'f') || ('A' ≤ c && c ≤ 'F')

/-- The part that a character continues a number with. -/
def NumberPart.next? (part : NumberPart) (c : Char) : Option NumberPart :=
  match part with
  | .sign => if c = '0' then some .zero else if isDigitChar c then some .whole else none
  | .zero => if c = '.' then some .point else if c = 'e' || c = 'E' then some .mark else none
  | .whole =>
    if isDigitChar c then some .whole
    else if c = '.' then some .point
    else if c = 'e' || c = 'E' then some .mark
    else none
  | .point => if isDigitChar c then some .fraction else none
  | .fraction =>
    if isDigitChar c then some .fraction else if c = 'e' || c = 'E' then some .mark else none
  | .mark =>
    if c = '+' || c = '-' then some .markSign
    else if isDigitChar c then some .exponent
    else none
  | .markSign | .exponent => if isDigitChar c then some .exponent else none

/-- The mode after one byte of a string, or none where no string goes on so. -/
def stringStep (found : List Token) (read : List UInt8) (escape : Escape) (b : UInt8) :
    Option Lexer :=
  let c := asciiChar b
  match escape with
  | .none =>
    if c = '\x22' then some ⟨.between, .string read.reverse :: found⟩
    else if c = '\x5c' then some ⟨.string (b :: read) .begun, found⟩
    else if b < 0x20 then Option.none
    else some ⟨.string (b :: read) .none, found⟩
  | .begun =>
    if c = 'u' then some ⟨.string (b :: read) (.digits 4), found⟩
    else if c ∈ ['\x22', '\x5c', '/', 'b', 'f', 'n', 'r', 't'] then
      some ⟨.string (b :: read) .none, found⟩
    else Option.none
  | .digits left =>
    if isHexChar c then
      some ⟨.string (b :: read) (if left ≤ 1 then .none else .digits (left - 1)), found⟩
    else Option.none

/-- The machine after a byte that stands between tokens or begins one. -/
def begin (found : List Token) (b : UInt8) : Option Lexer :=
  let c := asciiChar b
  if isSpace c then some ⟨.between, found⟩
  else match c with
    | '[' => some ⟨.between, .openArray :: found⟩
    | ']' => some ⟨.between, .closeArray :: found⟩
    | '\x7b' => some ⟨.between, .openObject :: found⟩
    | '\x7d' => some ⟨.between, .closeObject :: found⟩
    | ',' => some ⟨.between, .comma :: found⟩
    | ':' => some ⟨.between, .colon :: found⟩
    | 'n' => some ⟨.word ("ull".toList.map asciiByte) .null, found⟩
    | 't' => some ⟨.word ("rue".toList.map asciiByte) (.bool true), found⟩
    | 'f' => some ⟨.word ("alse".toList.map asciiByte) (.bool false), found⟩
    | '\x22' => some ⟨.string [] .none, found⟩
    | '-' => some ⟨.number [c] .sign, found⟩
    | '0' => some ⟨.number [c] .zero, found⟩
    | _ => if isDigitChar c then some ⟨.number [c] .whole, found⟩ else none

/-- The machine after one more byte, or none where the text is no JSON. -/
def Lexer.step (l : Lexer) (b : UInt8) : Option Lexer :=
  match l.mode with
  | .between => begin l.found b
  | .word left token =>
    match left with
    | [] => none
    | [c] => if b = c then some ⟨.between, token :: l.found⟩ else none
    | c :: left => if b = c then some ⟨.word left token, l.found⟩ else none
  | .string read escape => stringStep l.found read escape b
  | .number read part =>
    match part.next? (asciiChar b) with
    | some part => some ⟨.number (asciiChar b :: read) part, l.found⟩
    | none => if part.isComplete then begin (.number read.reverse :: l.found) b else none

/-- The tokens of a text that ends here. -/
def Lexer.finish? (l : Lexer) : Option (List Token) :=
  match l.mode with
  | .between => some l.found.reverse
  | .number read part =>
    if part.isComplete then some (.number read.reverse :: l.found).reverse else none
  | _ => none

/-- The tokens of a text. -/
def tokens? (bytes : List UInt8) : Option (List Token) :=
  (bytes.foldlM Lexer.step ⟨.between, []⟩).bind Lexer.finish?

end Json
end AdvisoryLedger
