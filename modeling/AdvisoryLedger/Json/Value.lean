import AdvisoryLedger.Json.Tree
import AdvisoryLedger.Number.Binary64
import AdvisoryLedger.Number.Word
import AdvisoryLedger.Text.Basic
import AdvisoryLedger.Text.Utf8

/-!
# JSON values

A `Value` is a document with its strings decoded and its numbers read. Decoding can fail
where the shape of the document was fine: a string may not be UTF-8 or may hold half of a
surrogate pair, a number may be beyond the doubles, and a value may be nested too deeply.

A number is kept exactly where it is an integer of 64 bits. Any other number is a double,
and it is computed the quick way that the format's readers commonly use: the digits that
fit 64 bits make an integer, that integer becomes a double, and the double is multiplied or
divided once by a power of ten. The answer may differ from the nearest double in its last
digits, and later stages must see that very answer.

An object keeps all its members in order. Where a key is repeated, the last member counts.
-/

namespace AdvisoryLedger
namespace Json

/-- A number: an integer of 64 bits with or without a sign, or a double. -/
inductive Number
  | natural (n : Nat)
  | negative (n : Nat)
  | real (x : Binary64)
  deriving DecidableEq, Repr

inductive Value
  | null
  | bool (value : Bool)
  | number (n : Number)
  | string (s : String)
  | array (items : List Value)
  | object (members : List (String × Value))
  deriving Repr

/-! ### Strings -/

def hexUnit (a b c d : UInt8) : Nat :=
  [a, b, c, d].foldl (fun n x => 16 * n + (Text.hexDigit? (asciiChar x)).getD 0) 0

/-- The UTF-8 bytes of the character with a code point. -/
def codePointBytes (n : Nat) : List UInt8 := Text.utf8 (String.singleton (Char.ofNat n))

/-- The byte that a one-letter escape stands for. -/
def escapeByte (e : UInt8) : UInt8 :=
  match asciiChar e with
  | 'b' => 0x08
  | 'f' => 0x0C
  | 'n' => 0x0A
  | 'r' => 0x0D
  | 't' => 0x09
  | _ => e

/-- The bytes that an escaped string stands for, where no half of a surrogate pair stands
alone. -/
def unescape : List UInt8 → Option (List UInt8)
  | [] => some []
  | b :: rest =>
    if b ≠ 0x5C then (unescape rest).map (b :: ·)
    else match rest with
      | [] => none
      | e :: rest =>
        if e ≠ 0x75 then (unescape rest).map (escapeByte e :: ·)
        else match rest with
          | h₁ :: h₂ :: h₃ :: h₄ :: rest =>
            let unit := hexUnit h₁ h₂ h₃ h₄
            if 0xDC00 ≤ unit && unit ≤ 0xDFFF then none
            else if 0xD800 ≤ unit && unit ≤ 0xDBFF then
              match rest with
              | b' :: u' :: l₁ :: l₂ :: l₃ :: l₄ :: rest =>
                let low := hexUnit l₁ l₂ l₃ l₄
                if b' = 0x5C && u' = 0x75 && 0xDC00 ≤ low && low ≤ 0xDFFF then
                  (unescape rest).map
                    (codePointBytes (0x10000 + (unit - 0xD800) * 0x400 + (low - 0xDC00)) ++ ·)
                else none
              | _ => none
            else (unescape rest).map (codePointBytes unit ++ ·)
          | _ => none

/-- The text of a string that is still escaped. -/
def decodeString? (raw : List UInt8) : Option String := (unescape raw).bind Text.ofUtf8?

/-! ### Numbers -/

/-- Digits taken into a word until one does not fit: the word and the digits left over. -/
def fillWord (word : Nat) : List Char → Nat × List Char
  | [] => (word, [])
  | d :: ds =>
    let next := 10 * word + Text.digitValue d
    if next < Word.size64 then fillWord next ds else (word, d :: ds)

/-- The greatest power of ten that is a double. -/
def largestPower : Nat := 308

def powerOfTen (n : Nat) : Binary64 := Binary64.ofNat (Nat.pow 10 n)

/-- Divide by the greatest power of ten until the exponent is one that can be divided by at
once, or nothing is left. -/
def scaleDown : Nat → Binary64 → Int → Binary64
  | 0, x, _ => x
  | rounds + 1, x, exponent =>
    if -exponent ≤ largestPower then x.div (powerOfTen (-exponent).toNat)
    else if x.magnitude = 0 then x
    else scaleDown rounds (x.div (powerOfTen largestPower)) (exponent + largestPower)

/-- A word times a power of ten, or none beyond the doubles. Three divisions by the greatest
power lead from any word to zero. -/
def scaled? (word : Nat) (exponent : Int) : Option Binary64 :=
  let x := Binary64.ofNat word
  if exponent < 0 then some (scaleDown 4 x exponent)
  else if exponent ≤ largestPower then
    let y := x.mul (powerOfTen exponent.toNat)
    if y.isInfinite then none else some y
  else if x.magnitude = 0 then some x
  else none

/-- The largest exponent that a number may write out. -/
def exponentLimit : Nat := Word.size32 / 2 - 1

/-- The double of a number's parts, or none beyond the doubles. -/
def real? (whole fraction : List Char) (exponent : Option (Bool × List Char)) :
    Option Binary64 :=
  let (word, extra) := fillWord 0 whole
  let (word, unread) := fillWord word fraction
  let shift : Int := extra.length - ((fraction.length : Int) - unread.length)
  match exponent with
  | none => scaled? word shift
  | some (negative, digits) =>
    let e := Text.decimal digits
    if exponentLimit < e then
      if word ≠ 0 && !negative then none else some (Binary64.zero false)
    else
      let total := if negative then shift - e else shift + e
      scaled? word total

/-- The number that a token writes, or none beyond the doubles. -/
def Number.ofText? (text : List Char) : Option Number :=
  let negative := text.head? == some '-'
  let digits := if negative then text.drop 1 else text
  let whole := digits.takeWhile isDigitChar
  let afterWhole := digits.dropWhile isDigitChar
  let (fraction, afterFraction) := match afterWhole with
    | '.' :: rest => (rest.takeWhile isDigitChar, rest.dropWhile isDigitChar)
    | rest => ([], rest)
  let exponent := match afterFraction with
    | _ :: '-' :: rest => some (true, rest)
    | _ :: '+' :: rest => some (false, rest)
    | _ :: rest => some (false, rest)
    | [] => none
  let signed (x : Binary64) : Number := .real (if negative then x.neg else x)
  let n := Text.decimal whole
  if afterWhole.isEmpty && n < Word.size64 && !negative then some (.natural n)
  else if afterWhole.isEmpty && negative && 0 < n && n ≤ Word.size64 / 2 then some (.negative n)
  else if afterWhole.isEmpty && n < Word.size64 then some (signed (Binary64.ofNat n))
  else (real? whole fraction exponent).map signed

def Number.toBinary64 : Number → Binary64
  | .natural n => Binary64.ofNat n
  | .negative n => (Binary64.ofNat n).neg
  | .real x => x

/-! ### Values -/

/-- How many arrays and objects a value may stand in, its own among them. -/
def nestingLimit : Nat := 127

/-- The value of a document with room for so many arrays and objects inside each other. -/
def Value.ofTree? : Nat → Tree → Option Value
  | _, .null => some .null
  | _, .bool b => some (.bool b)
  | _, .number text => (Number.ofText? text).map .number
  | _, .string raw => (decodeString? raw).map .string
  | 0, .array _ => none
  | 0, .object _ => none
  | room + 1, .array items => (items.mapM (Value.ofTree? room)).map .array
  | room + 1, .object members =>
    (members.mapM fun (raw, t) => do
      let key ← decodeString? raw
      let value ← Value.ofTree? room t
      pure (key, value)).map .object

/-- The value of a JSON text. -/
def Value.ofBytes? (bytes : List UInt8) : Option Value :=
  (Tree.ofBytes? bytes).bind (Value.ofTree? nestingLimit)

/-- The last value that a key has. -/
def lookupLast {α : Type} (key : String) (members : List (String × α)) : Option α :=
  (members.reverse.find? fun m => m.1 == key).map Prod.snd

def Value.member? (key : String) : Value → Option Value
  | .object members => lookupLast key members
  | _ => none

def Value.text? : Value → Option String
  | .string s => some s
  | _ => none

end Json
end AdvisoryLedger
