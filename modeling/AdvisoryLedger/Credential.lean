import AdvisoryLedger.Failure

/-!
# Credentials

A token is the secret that requests are made with. It is never blank and never shown:
`redacted` and `shown` tell its first four characters at most, and of a token with no more
than four nothing at all.
-/

namespace AdvisoryLedger

/-- At most the first four characters of a secret. -/
def redact (secret : String) : String :=
  let cs := secret.toList
  if cs.length ≤ 4 then "****" else String.ofList (cs.take 4) ++ "..."

/-- A secret without blanks around it. -/
structure ApiToken where
  secret : String
  secret_ne : secret ≠ ""
  deriving DecidableEq

namespace ApiToken

/-- The token of a secret that is not blank. -/
def ofSecret? (secret : String) : Option ApiToken :=
  if h : Text.trimmed secret ≠ "" then some ⟨Text.trimmed secret, h⟩ else none

/-- The value of the header that carries the token. -/
def headerValue (t : ApiToken) (scheme : String) : String :=
  let scheme := Text.trimmed scheme
  if scheme.isEmpty then t.secret else scheme ++ " " ++ t.secret

def redacted (t : ApiToken) : String := redact t.secret

def shown (t : ApiToken) : String := "ApiToken(" ++ Text.quoted t.redacted ++ ")"

end ApiToken

/-- Where a token comes from. -/
inductive CredentialSource
  /-- A secret that is given, or none. -/
  | given (secret : Option String)
  /-- A variable of the environment, with the value that it has. -/
  | environment (name : String) (value : Option String)
  deriving Repr

/-- An environment can be made to hold what a source says of it: the name of a variable is not
empty and has no equals sign, and neither the name nor the value has a null character. -/
def CredentialSource.isPossible : CredentialSource → Bool
  | .given _ => true
  | .environment name value =>
    name ≠ "" && name.toList.all (fun c => c ≠ '=' && c.toNat ≠ 0)
      && value.all fun v => v.toList.all fun c => c.toNat ≠ 0

/-- The token of a source. -/
def CredentialSource.token : CredentialSource → Except Failure ApiToken
  | .given secret =>
    match secret.bind ApiToken.ofSecret? with
    | some t => .ok t
    | none => .error (.configuration .noToken)
  | .environment name value =>
    match value with
    | none => .error (.configuration (.variableUnset name))
    | some secret =>
      match ApiToken.ofSecret? secret with
      | some t => .ok t
      | none => .error (.configuration (.variableBlank name))

end AdvisoryLedger
