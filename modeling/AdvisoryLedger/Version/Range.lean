import AdvisoryLedger.Text.Basic
import AdvisoryLedger.Version.Bounds

/-!
# Range expressions

A range expression is a list of clauses with commas between them. Vendors mix three
notations: comparisons (`>=1.0`), intervals whose two halves the comma separates
(`[1.0,2.0)`), and pins (`=1.5`).

An `Operator` says which bound a clause sets, and knows the tokens that may stand for it in
front of the version and behind it. A clause has the first operator of the list `all` one of
whose tokens it shows; the order matters, for `>` also begins `>=`. Then the tokens of that
operator come off both ends, with the blanks between them, until none is left there: what
remains is the version.

A clause without an operator or without a version says nothing, and where two clauses set
the same bound the later one counts. So no expression is malformed.
-/

namespace AdvisoryLedger

open Text

/-- What a clause says about the version in it. -/
inductive Operator
  | startIncluding | startExcluding | endIncluding | endExcluding | exact
  deriving DecidableEq, Repr

namespace Operator

/-- The operators in the order in which a clause is tried for them. -/
def all : List Operator := [startIncluding, startExcluding, endIncluding, endExcluding, exact]

/-- The tokens that may stand in front of the version. -/
def opening : Operator → List (List Char)
  | startIncluding => [['>', '='], ['[']]
  | startExcluding => [['>'], ['(']]
  | endIncluding => [['<', '=']]
  | endExcluding => [['<']]
  | exact => [['=']]

/-- The tokens that may stand behind the version. -/
def closing : Operator → List (List Char)
  | endIncluding => [[']']]
  | endExcluding => [[')']]
  | _ => []

def tokens (op : Operator) : List (List Char) := op.opening ++ op.closing

/-- The clause shows the operator at one of its ends. -/
def marks (op : Operator) (clause : List Char) : Bool :=
  op.opening.any (begins · clause) || op.closing.any (ends · clause)

end Operator

/-- A clause with an operator, and the version in it, which may be empty. -/
structure Clause where
  operator : Operator
  version : String
  deriving DecidableEq, Repr

namespace Clause

/-! ### Taking tokens off -/

/-- Take a token off in front and one off behind, with the blanks that then show. -/
def stripToken (cs token : List Char) : List Char :=
  let front := trim ((dropFirst? token cs).getD cs)
  trim ((dropLast? token front).getD front)

/-- Try each token once. -/
def stripOnce (tokens : List (List Char)) (cs : List Char) : List Char :=
  tokens.foldl stripToken cs

theorem length_getD_dropFirst?_le (token cs : List Char) :
    ((dropFirst? token cs).getD cs).length ≤ cs.length := by
  cases h : dropFirst? token cs with
  | none => simp
  | some rest => simp [eq_append_of_dropFirst? h]

theorem length_getD_dropLast?_le (token cs : List Char) :
    ((dropLast? token cs).getD cs).length ≤ cs.length := by
  cases h : dropLast? token cs with
  | none => simp
  | some rest => simp [eq_append_of_dropLast? h]

theorem length_stripToken_le (cs token : List Char) :
    (stripToken cs token).length ≤ cs.length := by
  unfold stripToken
  exact Nat.le_trans (length_trim_le _) <| Nat.le_trans (length_getD_dropLast?_le _ _) <|
    Nat.le_trans (length_trim_le _) (length_getD_dropFirst?_le _ _)

theorem length_stripOnce_le (tokens : List (List Char)) (cs : List Char) :
    (stripOnce tokens cs).length ≤ cs.length := by
  induction tokens generalizing cs with
  | nil => exact Nat.le_refl _
  | cons t ts ih => exact Nat.le_trans (ih _) (length_stripToken_le cs t)

/-- Take tokens off until a round changes nothing. A round that changes something makes the
text shorter, since it only takes away. -/
def strip (tokens : List (List Char)) (cs : List Char) : List Char :=
  if (stripOnce tokens cs).length < cs.length then strip tokens (stripOnce tokens cs) else cs
termination_by cs.length

/-! ### Reading -/

/-- The clause that a text is, where it shows an operator. -/
def read? (text : String) : Option Clause :=
  let cs := trim text.toList
  (Operator.all.find? (·.marks cs)).map fun op => ⟨op, String.ofList (strip op.tokens cs)⟩

end Clause

namespace VersionBounds

/-- Set the bounds that an operator names. -/
def set (b : VersionBounds) (op : Operator) (version : String) : VersionBounds :=
  match op with
  | .startIncluding => { b with startIncluding := some version }
  | .startExcluding => { b with startExcluding := some version }
  | .endIncluding => { b with endIncluding := some version }
  | .endExcluding => { b with endExcluding := some version }
  | .exact => { b with startIncluding := some version, endIncluding := some version }

/-- The bounds after one more clause. -/
def addClause (b : VersionBounds) (text : List Char) : VersionBounds :=
  match Clause.read? (String.ofList text) with
  | some clause => if clause.version.isEmpty then b else b.set clause.operator clause.version
  | none => b

/-- The bounds of a range expression. -/
def ofExpression (expression : String) : VersionBounds :=
  (expression.toList.splitOn ',').foldl addClause empty

end VersionBounds
end AdvisoryLedger
