import AdvisoryLedger.Text.Basic

/-!
# Strings, keys and blank space in TOML

Each reader takes a text apart into what it is about and the rest, and answers none where
the text does not begin so.

A string stands between quotes or between triple quotes, and either understands escapes or
takes every character as it is. A string in triple quotes may run over several lines; it
drops a line end right after the opening quotes, and may have up to two more quotes before
the closing ones.
-/

namespace AdvisoryLedger
namespace Toml

open Text

/-- A reader of the front of a text. -/
abbrev Reader (α : Type) := List Char → Option (α × List Char)

def isControl (c : Char) : Bool := (c.toNat < 0x20 && c != '\t') || c.toNat == 0x7F

def isSpace (c : Char) : Bool := c = ' ' || c = '\t'

def skipSpace (cs : List Char) : List Char := cs.dropWhile isSpace

/-- The text after blank space, line ends and comments. -/
def skipTrivia (inComment : Bool) : List Char → Option (List Char)
  | [] => some []
  | c :: cs =>
    if c = '\n' then skipTrivia false cs
    else if c = '\r' then
      match cs with
      | '\n' :: rest => skipTrivia false rest
      | _ => none
    else if inComment then (if isControl c then none else skipTrivia true cs)
    else if isSpace c then skipTrivia false cs
    else if c = '#' then skipTrivia true cs
    else some (c :: cs)

/-- The text of a line's end and what follows it: blank space, a comment, and a line end or
the end of everything. -/
def endOfLine (inComment : Bool) : List Char → Option (List Char)
  | [] => some []
  | c :: cs =>
    if c = '\n' then some cs
    else if c = '\r' then
      match cs with
      | '\n' :: rest => some rest
      | _ => none
    else if inComment then (if isControl c then none else endOfLine true cs)
    else if isSpace c then endOfLine false cs
    else if c = '#' then endOfLine true cs
    else none

/-! ### Strings -/

/-- The character that a one-letter escape stands for. -/
def escape? : Char → Option Char
  | 'b' => some '\x08'
  | 't' => some '\t'
  | 'n' => some '\n'
  | 'f' => some '\x0c'
  | 'r' => some '\r'
  | 'e' => some '\x1b'
  | '\x22' => some '\x22'
  | '\x5c' => some '\x5c'
  | _ => none

def codePoint? (digits : List Char) : Option Char := do
  let values ← digits.mapM hexDigit?
  let n := values.foldl (fun n d => 16 * n + d) 0
  if n < 0xD800 ∨ (0xDFFF < n ∧ n < 0x110000) then some (Char.ofNat n) else none

/-- How many digits an escape by code point has. -/
def escapeWidth? : Char → Option Nat
  | 'x' => some 2
  | 'u' => some 4
  | 'U' => some 8
  | _ => none

/-- Whether blank space is being dropped after a backslash at a line's end. -/
inductive Skipping
  | no | beforeLineEnd | afterLineEnd
  deriving DecidableEq

/-- What is being read of an escape: nothing, its letter, or so many more digits. -/
inductive Escaping
  | no
  | letter
  | digits (read : List Char) (left : Nat)

/-- The blank space that a backslash at a line's end begins. -/
def startsLineEnd (cs : List Char) : Bool :=
  match skipSpace cs with
  | '\n' :: _ => true
  | '\r' :: '\n' :: _ => true
  | _ => false

/-- A string with escapes from after its opening quote. -/
def basicBody (escaping : Escaping) : Reader (List Char)
  | [] => none
  | c :: cs =>
    match escaping with
    | .no =>
      if c = '\x22' then some ([], cs)
      else if c = '\x5c' then basicBody .letter cs
      else if isControl c then none
      else (basicBody .no cs).map fun (s, rest) => (c :: s, rest)
    | .letter =>
      match escape? c, escapeWidth? c with
      | some x, _ => (basicBody .no cs).map fun (s, rest) => (x :: s, rest)
      | none, some width => basicBody (.digits [] width) cs
      | none, none => none
    | .digits read left =>
      if left ≤ 1 then
        match codePoint? (c :: read).reverse with
        | some x => (basicBody .no cs).map fun (s, rest) => (x :: s, rest)
        | none => none
      else basicBody (.digits (c :: read) (left - 1)) cs

/-- A string without escapes from after its opening quote. -/
def literalBody : Reader (List Char)
  | [] => none
  | c :: cs =>
    if c = '\x27' then some ([], cs)
    else if isControl c then none
    else (literalBody cs).map fun (s, rest) => (c :: s, rest)

/-- The end of a string in triple quotes: quotes that still belong to it, and the rest. -/
def closing? (quote : Char) : Reader (List Char) := fun cs =>
  let run := (cs.takeWhile (· == quote)).length
  if 3 ≤ run then
    let extra := min (run - 3) 2
    some (List.replicate extra quote, cs.drop (extra + 3))
  else none

/-- A string with escapes from after its opening triple quotes. -/
def longBasicBody (escaping : Escaping) (skipping : Skipping) : Reader (List Char)
  | [] => none
  | c :: cs =>
    match escaping with
    | .letter =>
      if startsLineEnd (c :: cs) then
        longBasicBody .no (if c = '\n' then .afterLineEnd else .beforeLineEnd) cs
      else match escape? c, escapeWidth? c with
        | some x, _ => (longBasicBody .no .no cs).map fun (s, rest) => (x :: s, rest)
        | none, some width => longBasicBody (.digits [] width) .no cs
        | none, none => none
    | .digits read left =>
      if left ≤ 1 then
        match codePoint? (c :: read).reverse with
        | some x => (longBasicBody .no .no cs).map fun (s, rest) => (x :: s, rest)
        | none => none
      else longBasicBody (.digits (c :: read) (left - 1)) .no cs
    | .no =>
      if skipping ≠ .no && (isSpace c || (c = '\r' && cs.head? = some '\n')) then
        longBasicBody .no skipping cs
      else if skipping ≠ .no && c = '\n' then longBasicBody .no .afterLineEnd cs
      else
        match closing? '\x22' (c :: cs) with
        | some (quotes, rest) => some (quotes, rest)
        | none =>
          if c = '\x5c' then longBasicBody .letter .no cs
          else if c = '\r' then
            if cs.head? = some '\n' then
              (longBasicBody .no .no cs).map fun (s, rest) => (c :: s, rest)
            else none
          else if c ≠ '\n' && isControl c then none
          else (longBasicBody .no .no cs).map fun (s, rest) => (c :: s, rest)

/-- A string without escapes from after its opening triple quotes. -/
def longLiteralBody : Reader (List Char)
  | [] => none
  | c :: cs =>
    match closing? '\x27' (c :: cs) with
    | some (quotes, rest) => some (quotes, rest)
    | none =>
      if c = '\r' then
        if cs.head? = some '\n' then (longLiteralBody cs).map fun (s, rest) => (c :: s, rest)
        else none
      else if c ≠ '\n' && isControl c then none
      else (longLiteralBody cs).map fun (s, rest) => (c :: s, rest)

/-- The text after a line end right at its front. -/
def dropLineEnd : List Char → List Char
  | '\n' :: cs => cs
  | '\r' :: '\n' :: cs => cs
  | cs => cs

def shortString : Reader String
  | '\x22' :: cs => (basicBody .no cs).map fun (s, rest) => (String.ofList s, rest)
  | '\x27' :: cs => (literalBody cs).map fun (s, rest) => (String.ofList s, rest)
  | _ => none

/-- A string in any of its four forms. -/
def string : Reader String
  | '\x22' :: '\x22' :: '\x22' :: cs =>
    (longBasicBody .no .no (dropLineEnd cs)).map fun (s, rest) => (String.ofList s, rest)
  | '\x27' :: '\x27' :: '\x27' :: cs =>
    (longLiteralBody (dropLineEnd cs)).map fun (s, rest) => (String.ofList s, rest)
  | cs => shortString cs

/-! ### Keys -/

/-- A character of a key without quotes. -/
def isKeyChar (c : Char) : Bool :=
  ('a' ≤ c && c ≤ 'z') || ('A' ≤ c && c ≤ 'Z') || isDigit c || c = '_' || c = '-'

/-- One part of a key. -/
def keyPart : Reader String
  | cs =>
    if cs.head? = some '\x22' || cs.head? = some '\x27' then shortString cs
    else
      let front := cs.takeWhile isKeyChar
      if front.isEmpty then none else some (String.ofList front, cs.dropWhile isKeyChar)

/-- A key of at most so many parts, with dots between them, and the blank space behind it. -/
def keyParts : Nat → Reader (List String)
  | 0, _ => none
  | parts + 1, cs => do
    let (part, rest) ← keyPart cs
    match skipSpace rest with
    | '.' :: rest => do
      let (more, rest) ← keyParts parts (skipSpace rest)
      some (part :: more, rest)
    | rest => some ([part], rest)

/-- How many parts a key may have. -/
def partLimit : Nat := 80

/-- A key with the blank space behind it. -/
def key : Reader (List String) := keyParts partLimit

end Toml
end AdvisoryLedger
