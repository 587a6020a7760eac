import AdvisoryLedger.Text.CaseTable

/-!
# Letter case

`lower` is Unicode's full lower case mapping of a text. Only two letters need more than a
table: a capital I with a dot becomes two characters, and a capital sigma becomes a final
sigma at the end of a word.

`spells word s` compares without regard to case with a word of capital ASCII letters, by
the full upper case mapping: a few characters beyond ASCII map into ASCII (a sharp s to
`SS`), and those count.
-/

namespace AdvisoryLedger
namespace Text

def isUpper (c : Char) : Bool :=
  if c.toNat < 0x80 then 'A' ≤ c && c ≤ 'Z' else uppercase.contains c

/-! ### Lower case -/

/-- The lower case form of a character that does not depend on its neighbours. -/
def lowerChar (c : Char) : List Char :=
  if c.toNat < 0x80 then
    [if 'A' ≤ c && c ≤ 'Z' then Char.ofNat (c.toNat + 0x20) else c]
  else if c = '\u0130' then ['i', '\u0307']
  else
    match lowerRuns.find? fun (first, last, step, _) => (CharRun.mk first last step).contains c.toNat with
    | some (_, _, _, distance) => [Char.ofNat (c.toNat + distance).toNat]
    | none => [c]

/-- The nearest character that is not case-ignorable is cased. -/
def meetsCased (cs : List Char) : Bool :=
  match cs.dropWhile caseIgnorable.contains with
  | [] => false
  | c :: _ => cased.contains c

/-- Lower case of the text that follows `before`, which is given from its last character. -/
def lowerAfter (before : List Char) : List Char → List Char
  | [] => []
  | c :: cs =>
    let small :=
      if c = 'Σ' then [if meetsCased before && !meetsCased cs then 'ς' else 'σ']
      else lowerChar c
    small ++ lowerAfter (c :: before) cs

def lower (s : String) : String := String.ofList (lowerAfter [] s.toList)

/-! ### Comparison with a capital word -/

/-- The ASCII text that is the upper case form of a character, where that form is ASCII. -/
def upperAscii? (c : Char) : Option (List Char) :=
  if c.toNat < 0x80 then some [c.toUpper]
  else match c with
    | 'ı' => some ['I']
    | 'ß' => some ['S', 'S']
    | 'ſ' => some ['S']
    | 'ﬀ' => some ['F', 'F']
    | 'ﬁ' => some ['F', 'I']
    | 'ﬂ' => some ['F', 'L']
    | 'ﬃ' => some ['F', 'F', 'I']
    | 'ﬄ' => some ['F', 'F', 'L']
    | 'ﬅ' => some ['S', 'T']
    | 'ﬆ' => some ['S', 'T']
    | _ => none

/-- The upper case form of the text is the given word of ASCII capitals. -/
def spells (word : String) (cs : List Char) : Bool :=
  match cs.mapM upperAscii? with
  | some parts => parts.flatten == word.toList
  | none => false

/-- The letters agree when the case of ASCII letters does not count. -/
def equalIgnoringAsciiCase (a b : String) : Bool :=
  a.toList.map Char.toLower == b.toList.map Char.toLower

end Text
end AdvisoryLedger
