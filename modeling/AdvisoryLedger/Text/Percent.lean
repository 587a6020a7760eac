import AdvisoryLedger.Text.Basic
import AdvisoryLedger.Text.Utf8

/-!
# Percent-encoding

A percent-encoded text writes a byte as `%` and two hexadecimal digits. Encoding leaves
the unreserved characters of a URL as they are and writes every other byte of the text
with capital digits, so the result has no character that a URL gives a meaning to.
Decoding reads digits of either case and takes a `%` that no two digits follow for itself.
-/

namespace AdvisoryLedger
namespace Text

/-- ASCII letters, digits and the four marks that have no meaning in a URL. -/
def isUnreserved (c : Char) : Bool :=
  ('a' ≤ c && c ≤ 'z') || ('A' ≤ c && c ≤ 'Z') || isDigit c
    || c == '-' || c == '.' || c == '_' || c == '~'

/-- A hexadecimal digit below ten, or a capital letter. -/
def hexDigit (n : Nat) : Char := if n < 10 then Char.ofNat (48 + n) else Char.ofNat (55 + n)

def percentByte (b : UInt8) : List Char :=
  let c := Char.ofNat b.toNat
  if isUnreserved c then [c] else ['%', hexDigit (b.toNat / 16), hexDigit (b.toNat % 16)]

/-- The text with every byte encoded that is not an unreserved character. -/
def percentEncode (s : String) : String := String.ofList ((utf8 s).flatMap percentByte)

def hexByte? (b : UInt8) : Option Nat := hexDigit? (Char.ofNat b.toNat)

/-- The bytes with each escape replaced by the byte that it writes. -/
def percentBytes : List UInt8 → List UInt8
  | [] => []
  | b :: high :: low :: rest =>
    if b = 0x25 then
      match hexByte? high, hexByte? low with
      | some h, some l => UInt8.ofNat (16 * h + l) :: percentBytes rest
      | _, _ => b :: percentBytes (high :: low :: rest)
    else b :: percentBytes (high :: low :: rest)
  | b :: rest => b :: percentBytes rest

/-- The text that an encoded text stands for, where its bytes are UTF-8. -/
def percentDecode? (s : String) : Option String := ofUtf8? (percentBytes (utf8 s))

end Text
end AdvisoryLedger
