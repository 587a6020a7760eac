import AdvisoryLedger.Text.EscapeTable

/-!
# Quoted text

A quoted text stands between double quotes and shows every character that a reader could
miss: the quote and the backslash with a backslash before them, four controls by a letter
or a zero, and every other control or invisible character by its code point, `\u` and the
hexadecimal digits in braces.
-/

namespace AdvisoryLedger
namespace Text

/-- A character that a quoted text shows by its code point. -/
def isHidden (c : Char) : Bool :=
  if c.toNat < 0x80 then c.toNat < 0x20 || c.toNat == 0x7F else invisible.contains c

/-- A character as it stands in a quoted text. -/
def quotedChar (c : Char) : List Char :=
  if c = '\x00' then ['\x5c', '0']
  else if c = '\t' then ['\x5c', 't']
  else if c = '\r' then ['\x5c', 'r']
  else if c = '\n' then ['\x5c', 'n']
  else if c = '\x22' then ['\x5c', '\x22']
  else if c = '\x5c' then ['\x5c', '\x5c']
  else if isHidden c then
    ['\x5c', 'u', '\x7b'] ++ Nat.toDigits 16 c.toNat ++ ['\x7d']
  else [c]

/-- The text between double quotes, with nothing left invisible. -/
def quoted (s : String) : String :=
  String.ofList ('\x22' :: s.toList.flatMap quotedChar ++ ['\x22'])

end Text
end AdvisoryLedger
