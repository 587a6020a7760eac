import AdvisoryLedger.Package.Url
import AdvisoryLedger.Text.Utf8

/-!
# Failures

What can go wrong between a configuration and a stored vulnerability, by cause. The causes
differ in how far they reach: a bad configuration ends a run before its first request, a
failed request or a bad response costs one component, an unusable record costs that record,
and a failing store ends the unit of work that it fails in.

The words of a failure are `Failure.message`. The failures of another system (transport,
store, pool, background task) have no words of their own here.
-/

namespace AdvisoryLedger

/-- What a computation that succeeds has gone through first. -/
theorem exists_of_bind_eq_ok {ε α β : Type} {x : Except ε α} {f : α → Except ε β} {b : β}
    (h : x >>= f = .ok b) : ∃ a, x = .ok a ∧ f a = .ok b := by
  cases x with
  | error e => cases h
  | ok a => exact ⟨a, rfl, h⟩

/-- Why a file cannot be read as text. -/
inductive ReadFault
  | missing
  | notDirectory
  | isDirectory
  | nameTooLong
  | notUtf8
  | other (reason : String)
  deriving DecidableEq, Repr

def ReadFault.message : ReadFault → String
  | .missing => "No such file or directory (os error 2)"
  | .notDirectory => "Not a directory (os error 20)"
  | .isDirectory => "Is a directory (os error 21)"
  | .nameTooLong => "File name too long (os error 36)"
  | .notUtf8 => "stream did not contain valid UTF-8"
  | .other reason => reason

/-- The bytes of a file, if they are a text. -/
def readText (contents : Except ReadFault (List UInt8)) : Except ReadFault String := do
  match Text.ofUtf8? (← contents) with
  | some text => .ok text
  | none => .error .notUtf8

/-- What is wrong with a configuration or a credential. -/
inductive ConfigurationFault
  | unreadable (path : String) (fault : ReadFault)
  | invalidText
  | noToken
  | variableUnset (name : String)
  | variableBlank (name : String)
  | other (reason : String)
  deriving DecidableEq, Repr

def ConfigurationFault.message : ConfigurationFault → String
  | .unreadable path fault => "cannot read " ++ path ++ ": " ++ fault.message
  | .invalidText => "invalid config"
  | .noToken => "no API token configured"
  | .variableUnset name =>
    "API token variable " ++ name ++ " unavailable: environment variable not found"
  | .variableBlank name => "API token variable " ++ name ++ " is empty"
  | .other reason => reason

/-- What is wrong with a record or a response. -/
inductive PayloadFault
  | malformed
  | missingIdentifier
  | notSynchronized
  | other (reason : String)
  deriving DecidableEq, Repr

/-- The fault in words, where it has any. -/
def PayloadFault.message? : PayloadFault → Option String
  | .malformed => none
  | .missingIdentifier => some "vulnerability without identifier"
  | .notSynchronized => some "vulnerability has not been synchronized"
  | .other reason => some reason

def reasonPhrase? : Nat → Option String
  | 100 => some "Continue"
  | 101 => some "Switching Protocols"
  | 102 => some "Processing"
  | 103 => some "Early Hints"
  | 200 => some "OK"
  | 201 => some "Created"
  | 202 => some "Accepted"
  | 203 => some "Non Authoritative Information"
  | 204 => some "No Content"
  | 205 => some "Reset Content"
  | 206 => some "Partial Content"
  | 207 => some "Multi-Status"
  | 208 => some "Already Reported"
  | 226 => some "IM Used"
  | 300 => some "Multiple Choices"
  | 301 => some "Moved Permanently"
  | 302 => some "Found"
  | 303 => some "See Other"
  | 304 => some "Not Modified"
  | 305 => some "Use Proxy"
  | 307 => some "Temporary Redirect"
  | 308 => some "Permanent Redirect"
  | 400 => some "Bad Request"
  | 401 => some "Unauthorized"
  | 402 => some "Payment Required"
  | 403 => some "Forbidden"
  | 404 => some "Not Found"
  | 405 => some "Method Not Allowed"
  | 406 => some "Not Acceptable"
  | 407 => some "Proxy Authentication Required"
  | 408 => some "Request Timeout"
  | 409 => some "Conflict"
  | 410 => some "Gone"
  | 411 => some "Length Required"
  | 412 => some "Precondition Failed"
  | 413 => some "Payload Too Large"
  | 414 => some "URI Too Long"
  | 415 => some "Unsupported Media Type"
  | 416 => some "Range Not Satisfiable"
  | 417 => some "Expectation Failed"
  | 418 => some "I\x27m a teapot"
  | 421 => some "Misdirected Request"
  | 422 => some "Unprocessable Entity"
  | 423 => some "Locked"
  | 424 => some "Failed Dependency"
  | 425 => some "Too Early"
  | 426 => some "Upgrade Required"
  | 428 => some "Precondition Required"
  | 429 => some "Too Many Requests"
  | 431 => some "Request Header Fields Too Large"
  | 451 => some "Unavailable For Legal Reasons"
  | 500 => some "Internal Server Error"
  | 501 => some "Not Implemented"
  | 502 => some "Bad Gateway"
  | 503 => some "Service Unavailable"
  | 504 => some "Gateway Timeout"
  | 505 => some "HTTP Version Not Supported"
  | 506 => some "Variant Also Negotiates"
  | 507 => some "Insufficient Storage"
  | 508 => some "Loop Detected"
  | 510 => some "Not Extended"
  | 511 => some "Network Authentication Required"
  | _ => none

def statusText (status : Nat) : String :=
  Text.ofNat status ++ " " ++ (reasonPhrase? status).getD "<unknown status code>"

inductive Failure
  | configuration (fault : ConfigurationFault)
  | transport
  | httpStatus (status : Nat) (url : String)
  | payload (fault : PayloadFault)
  | invalidUrl (url : String) (fault : UrlFault)
  | unusableUrl (url : String)
  | store
  | pool
  | join
  deriving DecidableEq, Repr

/-- The failure in words, where it has any of its own. -/
def Failure.message? : Failure → Option String
  | .configuration fault => some ("configuration error: " ++ fault.message)
  | .httpStatus status url =>
    some ("unexpected HTTP status " ++ statusText status ++ " from " ++ url)
  | .payload fault => fault.message?.map ("malformed payload: " ++ ·)
  | .invalidUrl url fault => some ("invalid package URL " ++ url ++ ": " ++ fault.message)
  | .unusableUrl url => some ("invalid package URL " ++ url ++ ": not a usable package URL")
  | .transport | .store | .pool | .join => none

/-- The coordinate of a package URL, or a failure that quotes the text as it was given. -/
def Coordinate.ofUrl (text : String) : Except Failure Coordinate :=
  match PackageUrl.read text with
  | .ok c => .ok c
  | .error fault => .error (.invalidUrl text fault)

end AdvisoryLedger
