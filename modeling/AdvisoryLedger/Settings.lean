import AdvisoryLedger.Failure
import AdvisoryLedger.Number.Word
import AdvisoryLedger.Toml.Document

/-!
# Settings

The settings of the analyzer and of the store, with a default for each. They are read from
two sections of a TOML document. A key that no setting has is ignored, a setting that is
missing has its default, and a setting of the wrong type makes the whole text invalid. So
does a number that cannot be read, also one under a key that is ignored.

A section is normally a table. It may also be an array, which gives the settings in their
order and may stop early or go on, and nobody looks at what goes on; and a date in its place
has no settings in it.
-/

namespace AdvisoryLedger

structure AnalyzerSettings where
  enabled : Bool
  apiBaseUrl : String
  orgId : String
  apiVersion : String
  concurrency : Nat
  pageSize : Nat
  requestTimeoutSecs : Nat
  tokenEnv : String
  authScheme : String
  deriving DecidableEq, Repr

namespace AnalyzerSettings

/-- The settings where nothing is said. -/
def default : AnalyzerSettings :=
  { enabled := true
    apiBaseUrl := "https://api.snyk.io/rest"
    orgId := ""
    apiVersion := "2022-04-06~experimental"
    concurrency := 10
    pageSize := 100
    requestTimeoutSecs := 30
    tokenEnv := "VULNSYNC_API_TOKEN"
    authScheme := "token" }

/-- The number of workers, at least one. -/
def workers (s : AnalyzerSettings) : Nat := max s.concurrency 1

/-- The number of components of a page, at least one. -/
def pageLength (s : AnalyzerSettings) : Nat := max s.pageSize 1

/-- The address at which a package is looked up. -/
def packageUrl (s : AnalyzerSettings) (c : Coordinate) : String :=
  let base := (s.apiBaseUrl.toList.reverse.dropWhile (· == '/')).reverse
  String.ofList base ++ "/orgs/" ++ s.orgId ++ "/packages/" ++ c.urlParam ++ "/issues?version="
    ++ s.apiVersion

end AnalyzerSettings

structure StoreSettings where
  path : Option String
  maxPoolSize : Nat
  minIdleConnections : Nat
  connectionTimeoutSecs : Nat
  busyTimeoutMs : Nat
  cacheSizeKb : Int
  deriving DecidableEq, Repr

namespace StoreSettings

/-- The settings where nothing is said. -/
def default : StoreSettings :=
  { path := none
    maxPoolSize := 16
    minIdleConnections := 2
    connectionTimeoutSecs := 30
    busyTimeoutMs := 5000
    cacheSizeKb := 64000 }

/-- How many seconds a connection may take to open. The moment at which it is given up has to
be one that a clock with 63 bits of seconds can show, some days after its start. -/
def longestTimeoutSecs : Nat := Word.size64 / 2 - 1000000

/-- A pool of connections can have these settings: it keeps no more connections idle than it
may open, and a connection has time to open, but not without end. -/
def isPossible (s : StoreSettings) : Bool :=
  decide (s.minIdleConnections ≤ max s.maxPoolSize 1) && decide (0 < s.connectionTimeoutSecs)
    && decide (s.connectionTimeoutSecs ≤ longestTimeoutSecs)

/-- Set up a connection. The size of its cache is written behind a minus sign, so a size that
is negative itself leaves the statement unfinished, and no connection is ever ready. -/
def connect (s : StoreSettings) : Except Failure Unit :=
  if 0 ≤ s.cacheSizeKb then .ok () else .error .pool

end StoreSettings

structure Settings where
  analyzer : AnalyzerSettings
  store : StoreSettings
  deriving DecidableEq, Repr

namespace Settings

/-- The settings where nothing is said. -/
def default : Settings := ⟨.default, .default⟩

/-! ### Reading -/

open Toml (Value)

/-- The settings of a section by name, in the order of the names. -/
def section? (names : List String) : Value → Option (List (Option Value))
  | .table _ members =>
    if members.all fun (name, v) => name ∈ names || v.isReadable then
      some (names.map fun name => Toml.lookup? name members)
    else none
  | .array items => some (names.zipIdx.map fun (_, i) => items[i]?)
  | .tables items => some (names.zipIdx.map fun (_, i) => items[i]?)
  | .datetime _ => some (names.map fun _ => none)
  | _ => none

/-- A setting that may be missing. -/
def setting? {α : Type} (read : Value → Option α) (standard : α) : Option Value → Option α
  | none => some standard
  | some v => read v

def text? : Value → Option String
  | .string s => some s
  | _ => none

def truth? : Value → Option Bool
  | .boolean b => some b
  | _ => none

/-- An integer that is at least zero and below a limit. -/
def naturalBelow? (limit : Nat) : Value → Option Nat
  | .integer (some n) => if 0 ≤ n ∧ n < limit then some n.toNat else none
  | _ => none

/-- An integer of 64 bits with a sign. -/
def signed64? : Value → Option Int
  | .integer (some n) => if Word.fitsSigned Word.size64 n then some n else none
  | _ => none

/-- The section of the analyzer. -/
def analyzer? (v : Value) : Option AnalyzerSettings := do
  let d := AnalyzerSettings.default
  match ← section? ["enabled", "api_base_url", "org_id", "api_version", "concurrency", "page_size",
      "request_timeout_secs", "token_env", "auth_scheme"] v with
  | [enabled, apiBaseUrl, orgId, apiVersion, concurrency, pageSize, requestTimeoutSecs, tokenEnv,
      authScheme] =>
    some {
      enabled := ← setting? truth? d.enabled enabled
      apiBaseUrl := ← setting? text? d.apiBaseUrl apiBaseUrl
      orgId := ← setting? text? d.orgId orgId
      apiVersion := ← setting? text? d.apiVersion apiVersion
      concurrency := ← setting? (naturalBelow? Word.size64) d.concurrency concurrency
      pageSize := ← setting? (naturalBelow? Word.size64) d.pageSize pageSize
      requestTimeoutSecs :=
        ← setting? (naturalBelow? Word.size64) d.requestTimeoutSecs requestTimeoutSecs
      tokenEnv := ← setting? text? d.tokenEnv tokenEnv
      authScheme := ← setting? text? d.authScheme authScheme }
  | _ => none

/-- The section of the store. -/
def store? (v : Value) : Option StoreSettings := do
  let d := StoreSettings.default
  match ← section? ["path", "max_pool_size", "min_idle_connections", "connection_timeout_secs",
      "busy_timeout_ms", "cache_size_kb"] v with
  | [path, maxPoolSize, minIdleConnections, connectionTimeoutSecs, busyTimeoutMs, cacheSizeKb] =>
    some {
      path := ← setting? (fun v => (text? v).map some) d.path path
      maxPoolSize := ← setting? (naturalBelow? Word.size32) d.maxPoolSize maxPoolSize
      minIdleConnections :=
        ← setting? (naturalBelow? Word.size32) d.minIdleConnections minIdleConnections
      connectionTimeoutSecs :=
        ← setting? (naturalBelow? Word.size64) d.connectionTimeoutSecs connectionTimeoutSecs
      busyTimeoutMs := ← setting? (naturalBelow? Word.size32) d.busyTimeoutMs busyTimeoutMs
      cacheSizeKb := ← setting? signed64? d.cacheSizeKb cacheSizeKb }
  | _ => none

/-- The settings of a document. -/
def ofValue? (v : Value) : Option Settings := do
  match ← section? ["analyzer", "store"] v with
  | [analyzer, store] =>
    some {
      analyzer := ← setting? analyzer? .default analyzer
      store := ← setting? store? .default store }
  | _ => none

/-- The settings that a text gives. -/
def parse (text : String) : Except Failure Settings :=
  match (Toml.parse? text).bind ofValue? with
  | some s => .ok s
  | none => .error (.configuration .invalidText)

/-- The settings in a file with the given contents. -/
def ofFile (path : String) (contents : Except ReadFault (List UInt8)) : Except Failure Settings :=
  match readText contents with
  | .ok text => parse text
  | .error fault => .error (.configuration (.unreadable path fault))

end Settings
end AdvisoryLedger
