import AdvisoryLedger.Text.Basic
import AdvisoryLedger.Version.Bounds

/-!
# How range expressions are written

This is the notation of range expressions from the side of those who write them. An
expression is a list of phrases with commas between them. A phrase says something about a
version when a *sign* stands with it: a comparison in front of it, a bracket in front of it
or behind it. The sign may be written more than once, and there may be blanks around
everything. Phrases that are blank, or have a version alone or a sign alone, may stand
anywhere and say nothing.

`Phrase.text` writes a phrase, and `Phrase.add` is what it says.
-/

namespace AdvisoryLedger

open Text

/-- The characters that no version has. -/
def reserved : List Char := [',', '<', '>', '=', '[', ']', '(', ')']

/-- Blanks, possibly none. -/
abbrev Gap := { g : List Char // ∀ c ∈ g, isBlank c = true }

/-- A version that may be told apart from signs, commas and blanks around it. -/
structure CleanVersion where
  text : String
  ne_empty : text ≠ ""
  trimmed : IsTrimmed text.toList
  unreserved : ∀ c ∈ text.toList, c ∉ reserved

/-- What may stand with a version. -/
inductive Sign
  | atLeast | openSquare
  | above | openRound
  | atMost | closeSquare
  | below | closeRound
  | pin
  deriving DecidableEq, Repr

namespace Sign

def token : Sign → List Char
  | atLeast => ['>', '=']
  | openSquare => ['[']
  | above => ['>']
  | openRound => ['(']
  | atMost => ['<', '=']
  | closeSquare => [']']
  | below => ['<']
  | closeRound => [')']
  | pin => ['=']

/-- The sign stands behind the version. -/
def isClosing : Sign → Bool
  | closeSquare | closeRound => true
  | _ => false

/-- The bounds with the version in the place of the sign's bound, or bounds. -/
def bound (sign : Sign) (b : VersionBounds) (version : String) : VersionBounds :=
  match sign with
  | atLeast | openSquare => { b with startIncluding := some version }
  | above | openRound => { b with startExcluding := some version }
  | atMost | closeSquare => { b with endIncluding := some version }
  | below | closeRound => { b with endExcluding := some version }
  | pin => { b with startIncluding := some version, endIncluding := some version }

/-- The sign as many times as there are gaps, with a gap behind each. -/
def leading (sign : Sign) (gaps : List Gap) : List Char :=
  gaps.flatMap fun g => sign.token ++ g.val

/-- The sign as many times as there are gaps, with a gap in front of each. -/
def trailing (sign : Sign) (gaps : List Gap) : List Char :=
  gaps.flatMap fun g => g.val ++ sign.token

end Sign

/-- What may stand between commas. -/
inductive Phrase
  | blank (gap : Gap)
  | unsigned (before : Gap) (v : CleanVersion) (after : Gap)
  | bare (before : Gap) (sign : Sign) (gap : Gap) (more : List Gap)
  | signed (before : Gap) (sign : Sign) (gap : Gap) (more : List Gap) (v : CleanVersion)
      (after : Gap)

namespace Phrase

/-- The characters of a phrase. A sign stands there once and once more for each gap in `more`. -/
def chars : Phrase → List Char
  | blank gap => gap.val
  | unsigned before v after => before.val ++ v.text.toList ++ after.val
  | bare before sign gap more => before.val ++ sign.leading (gap :: more)
  | signed before sign gap more v after =>
    if sign.isClosing then before.val ++ v.text.toList ++ sign.trailing (gap :: more) ++ after.val
    else before.val ++ sign.leading (gap :: more) ++ v.text.toList ++ after.val

def text (p : Phrase) : String := String.ofList p.chars

/-- The bounds after a phrase. -/
def add (b : VersionBounds) : Phrase → VersionBounds
  | signed _ sign _ _ v _ => sign.bound b v.text
  | _ => b

/-- The expression that phrases make. -/
def expression (phrases : List Phrase) : String := ",".intercalate (phrases.map text)

end Phrase
end AdvisoryLedger
