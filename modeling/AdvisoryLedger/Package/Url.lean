import AdvisoryLedger.Package.Coordinate
import AdvisoryLedger.Text.Casing
import AdvisoryLedger.Text.Quoted

/-!
# Reading package URLs

A package URL is read from the outside in: the scheme in front, then from behind the
subpath, the qualifiers and the version, each at the last place of its mark, and then the
type up to the first slash. What is left is the scope and, after its last slash, the name.
Percent-encoding is undone in each part by itself, after the parts were found.

Several types then put the letters of the name or the scope in lower case. Subpath and
qualifiers are no part of a coordinate, but a fault in them still makes the URL invalid. They
are read first, so their faults come first, but for one: a subpath with nothing in it is
found only after everything else was in order.
-/

namespace AdvisoryLedger

/-- Why a text is no package URL. -/
inductive UrlFault
  | missingScheme
  | invalidScheme (scheme : String)
  | missingType
  | invalidType (type : String)
  | missingName
  | invalidScope (component : String)
  | invalidSubpath (segment : String)
  | invalidKey (key : String)
  | notUtf8
  deriving DecidableEq, Repr

def UrlFault.message : UrlFault → String
  | .missingScheme => "missing scheme"
  | .invalidScheme s => "invalid scheme: " ++ Text.quoted s
  | .missingType => "missing type"
  | .invalidType s => "invalid type: " ++ Text.quoted s
  | .missingName => "missing name"
  | .invalidScope s => "invalid namespace component: " ++ Text.quoted s
  | .invalidSubpath s => "invalid subpath segment: " ++ Text.quoted s
  | .invalidKey s => "invalid key: " ++ Text.quoted s
  | .notUtf8 => "utf-8 decoding failed"

namespace PackageUrl

open Text

/-- Percent-decoding that reports bytes which are not UTF-8. -/
def decode (cs : List Char) : Except UrlFault String :=
  match percentDecode? (String.ofList cs) with
  | some s => .ok s
  | none => .error .notUtf8

/-- The text after the scheme and the slashes that may follow it. -/
def afterScheme (cs : List Char) : Except UrlFault (List Char) :=
  match cut? ':' cs with
  | none => .error .missingScheme
  | some (scheme, rest) =>
    if scheme = "pkg".toList then .ok (rest.dropWhile (· == '/'))
    else .error (.invalidScheme (String.ofList scheme))

def components (path : List Char) : List (List Char) :=
  (path.splitOn '/').filter fun c => !(c.isEmpty || c = ['.'] || c = ['.', '.'])

/-- The text before the last place of a mark, and what follows the mark. -/
def cutTail (mark : Char) (cs : List Char) : List Char × Option (List Char) :=
  match cutLast? mark cs with
  | some (before, after) => (before, some after)
  | none => (cs, none)

/-- A segment of a subpath, decoded. -/
def subpathSegment (cs : List Char) : Except UrlFault String := do
  let s ← decode cs
  if s.contains '/' || s = "." || s = ".." then .error (.invalidSubpath s) else .ok s

def isAsciiLetter (c : Char) : Bool := ('a' ≤ c && c ≤ 'z') || ('A' ≤ c && c ≤ 'Z')

/-- Letters, digits and the given marks, without a digit in front. -/
def isWord (marks : List Char) : List Char → Bool
  | [] => false
  | c :: cs => !isDigit c && (c :: cs).all fun c => isAsciiLetter c || isDigit c || c ∈ marks

/-- Check a qualifier; one without a value says nothing. -/
def checkQualifier (cs : List Char) : Except UrlFault Unit :=
  match cut? '=' cs with
  | none => .ok ()
  | some (key, value) =>
    if value.isEmpty then .ok ()
    else if isWord ['.', '-', '_'] key then (decode value).map fun _ => ()
    else .error (.invalidKey (String.ofList key))

/-- The text after the type and its slash, and the type in small letters. -/
def typeAndRest (cs : List Char) : Except UrlFault (String × List Char) :=
  match cut? '/' cs with
  | none => .error .missingType
  | some (type, rest) =>
    if isWord ['.', '-', '+'] type then .ok (String.ofList (type.map Char.toLower), rest)
    else .error (.invalidType (String.ofList type))

def trimSlashes (cs : List Char) : List Char :=
  ((cs.dropWhile (· == '/')).reverse.dropWhile (· == '/')).reverse

/-- A component of the scope, decoded. -/
def scopeComponent (cs : List Char) : Except UrlFault String := do
  let s ← decode cs
  if s.isEmpty || s.contains '/' then .error (.invalidScope s) else .ok s

/-! ### Letter case by type -/

/-- The types whose names are lower case unless they are all capitals. -/
def lowersMixedNames (type : String) : Bool :=
  type ∈ ["deb", "hex", "npm"]

/-- The types whose scopes have no capitals. -/
def lowersCapitalScopes (type : String) : Bool := type ∈ ["deb", "golang", "hex", "rpm"]

/-- The types whose names and scopes are lower case. -/
def lowersAll (type : String) : Bool := type ∈ ["bitbucket", "github"]

/-- The name as its type writes it. -/
def canonicalName (type name : String) : String :=
  if lowersAll type then lower name
  else if type = "pypi" then
    lower (String.ofList (name.toList.map fun c => if c = '_' then '-' else c))
  else if lowersMixedNames type && !name.toList.all isUpper then lower name
  else name

/-- The scope as its type writes it. A letter in title case is no capital: it alone changes
nothing. -/
def canonicalScope (type scope : String) : String :=
  if lowersAll type || (lowersCapitalScopes type && scope.toList.any isUpper) then lower scope
  else scope

/-! ### The whole URL -/

/-- A part that is there and not empty. -/
def present? (s : String) : Option String := if s.isEmpty then none else some s

/-- The coordinate of a package URL. -/
def read (text : String) : Except UrlFault Coordinate := do
  let cs ← afterScheme (trim text.toList)
  let (cs, subpath) := cutTail '#' cs
  let segments ← match subpath with
    | some path => some <$> (components path).mapM subpathSegment
    | none => .ok none
  let (cs, qualifiers) := cutTail '?' cs
  (qualifiers.elim [] (·.splitOn '&')).forM checkQualifier
  let (cs, version) := cutTail '@' cs
  let version ← match version with
    | some v => decode v
    | none => .ok ""
  let (type, rest) ← typeAndRest cs
  let path := trimSlashes rest
  let (scope, name) := match cutLast? '/' path with
    | some (before, after) => (before, after)
    | none => ([], path)
  if name.isEmpty then .error .missingName
  let name ← decode name
  let scope ← (components scope).mapM scopeComponent
  if segments = some [] then .error (.invalidSubpath "")
  .ok {
    type := type
    scope := present? (canonicalScope type ("/".intercalate scope))
    name := canonicalName type name
    version := present? version }

end PackageUrl
end AdvisoryLedger
