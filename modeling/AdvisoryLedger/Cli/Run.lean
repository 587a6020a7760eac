import AdvisoryLedger.Cli.Help
import AdvisoryLedger.Dispatch.Run
import AdvisoryLedger.Report.Json
import AdvisoryLedger.Report.Markdown
import AdvisoryLedger.Store.Address

/-!
# Running a command

A command sees its surroundings as data: the files it may read, the variables of the
environment, the stores by path, the peer and a clock. Its outcome is an exit code, what it
prints, and the store and the peer as it leaves them. Where nothing else is said, the store
is a file in the user's data directory.

`analyze` registers the components before anything can go wrong with the token or the
requests, so a run that fails leaves them registered.
-/

namespace AdvisoryLedger
namespace Cli

/-- Why there is no store in a file. -/
inductive StoreFault
  | cannotOpen
  | notStore
  deriving DecidableEq, Repr

/-- What a command can see. -/
structure Surroundings (π : Type) where
  file : String → Except ReadFault (List UInt8)
  environment : String → Option String
  /-- The store in a file, which is empty where there is no file yet. -/
  ledger : String → Except StoreFault Ledger
  today : String
  clock : Nat → Instant
  peer : Peer π
  peerState : π

/-- What a command leaves. -/
structure Outcome (π : Type) where
  code : Nat
  out : String
  err : String
  /-- The store to be kept under its path, as it is now. -/
  stored : Option (String × Ledger)
  peerState : π

/-- A reason to stop before anything was done, in words. -/
inductive Trouble
  | failure (f : Failure)
  | reading (path : String) (fault : ReadFault)
  | parsing (what : String)
  | connecting (reason : String)
  deriving Repr

/-- The words of a failure, also of those that have none of their own. -/
def failureText (f : Failure) : String :=
  match f.message?, f with
  | some s, _ => s
  | none, .transport => "request failed"
  | none, .payload _ => "malformed payload"
  | none, .pool => "store connection pool error"
  | none, .join => "background task failed"
  | none, _ => "store error"

def Trouble.message : Trouble → String
  | .failure f => failureText f
  | .reading path fault => "reading " ++ path ++ ": " ++ fault.message
  | .parsing what => "parsing " ++ what
  | .connecting reason =>
    let words := "timed out waiting for connection: " ++ reason
    "store connection pool error: " ++ words ++ ": " ++ words

/-- The trouble with a store that is to be in a file. -/
def StoreFault.trouble (name : String) : StoreFault → Trouble
  | .cannotOpen => .connecting ("unable to open database file: " ++ name)
  | .notStore => .connecting "file is not a database"

/-- The directory for data, by the environment: the one that is named, if its path starts at
the root, or else the usual one in the home directory. -/
def dataDirectory (environment : String → Option String) : String :=
  let usual := (environment "HOME").getD "." ++ "/.local/share"
  match environment "XDG_DATA_HOME" with
  | some named => if named.toList.head? = some '/' then named else usual
  | none => usual

/-- The directory of the store that is used where nothing else is said. -/
def storeDirectory (environment : String → Option String) : String :=
  dataDirectory environment ++ "/vulnsync"

/-- The store that is used where nothing else is said. -/
def standardStore (environment : String → Option String) : String :=
  storeDirectory environment ++ "/store.db"

namespace Surroundings

variable {π : Type}

/-- The settings that an invocation uses. -/
def settings (w : Surroundings π) (i : Invocation) : Except Trouble Settings := do
  let s ← match i.settingsFile with
    | none => .ok Settings.default
    | some path => (Settings.ofFile path (w.file path)).mapError .failure
  match i.storeFile with
  | none => .ok s
  | some path => .ok { s with store := { s.store with path := some path } }

/-- The contents of a file that is to be text. -/
def contents (w : Surroundings π) (path : String) : Except Trouble (List UInt8) :=
  match w.file path with
  | .error fault => .error (.reading path fault)
  | .ok bytes =>
    if (Text.ofUtf8? bytes).isSome then .ok bytes else .error (.reading path .notUtf8)

/-- The store, and the path under which it is to be kept, if it is kept. -/
def openStore (w : Surroundings π) (s : StoreSettings) :
    Except Trouble (Option String × Ledger) := do
  if !s.isPossible then .error (.failure .pool)
  else
    let name := s.path.getD (standardStore w.environment)
    let found ← match StoreAddress.ofText name with
      | .transient => .ok (none, .empty)
      | .elsewhere machine => .error (.connecting ("invalid uri authority: " ++ machine))
      | .file path =>
        match w.ledger path with
        | .ok ledger => .ok (some path, ledger)
        | .error fault => .error (fault.trouble name)
    match s.connect with
    | .ok () => .ok found
    | .error _ => .error (.connecting "incomplete input")

/-- The line that a run prints about itself. -/
def summaryLine (s : Summary) : String :=
  "Processed " ++ Text.ofNat s.processed ++ " components (" ++ Text.ofNat s.failed
    ++ " failed), synchronized " ++ Text.ofNat s.synchronized ++ " vulnerabilities\n"

def troubled (stored : Option (String × Ledger)) (peerState : π)
    (t : Trouble) : Outcome π :=
  { code := 1, out := "", err := "Error: " ++ t.message ++ "\n", stored := stored,
    peerState := peerState }

/-- Register the components of a file and look them up. -/
def analyze (w : Surroundings π) (s : Settings) (file : String) : Outcome π :=
  let opened : Except Trouble (List Component × Option String × Ledger) := do
    let some components := Component.listOfBytes? (← w.contents file)
      | .error (.parsing "component list")
    .ok (components, ← w.openStore s.store)
  match opened with
  | .error t => troubled none w.peerState t
  | .ok (components, path, ledger) =>
    let registered : Ledger :=
      { ledger with store := components.foldl Store.upsertComponent ledger.store }
    let d : Dispatcher Ledger π :=
      ⟨s.analyzer, .snyk, Ledger.session w.clock, w.peer⟩
    let credentials : CredentialSource :=
      .environment s.analyzer.tokenEnv (w.environment s.analyzer.tokenEnv)
    match d.inform credentials components (.start registered w.peerState) with
    | (.error e, f) => troubled (path.map (·, f.ledger)) f.peer (.failure e)
    | (.ok summary, f) =>
      { code := 0, out := summaryLine summary, err := "", stored := path.map (·, f.ledger),
        peerState := f.peer }

/-- Print the report on a component. -/
def report (w : Surroundings π) (s : Settings) (component : String) (format : Format) :
    Outcome π :=
  match w.openStore s.store with
  | .error t => troubled none w.peerState t
  | .ok (path, ledger) =>
    match ledger.store.component? component with
    | none =>
      { code := 1, out := "", err := "Unknown component: " ++ component ++ "\n",
        stored := path.map (·, ledger), peerState := w.peerState }
    | some c =>
      let r := ComponentReport.of c (ledger.store.vulnerabilitiesOf component)
      let text := match format with
        | .json => r.json
        | .markdown => r.markdown w.today
      { code := 0, out := text ++ "\n", err := "", stored := path.map (·, ledger),
        peerState := w.peerState }

/-- Enter the weaknesses of a file. -/
def importWeaknesses (w : Surroundings π) (s : Settings) (file : String) : Outcome π :=
  let opened : Except Trouble (List Weakness × Option String × Ledger) := do
    let some entries := Weakness.listOfBytes? (← w.contents file)
      | .error (.parsing "CWE list")
    .ok (entries, ← w.openStore s.store)
  match opened with
  | .error t => troubled none w.peerState t
  | .ok (entries, path, ledger) =>
    { code := 0
      out := "Imported " ++ Text.ofNat entries.length ++ " CWE entries\n"
      err := ""
      stored :=
        path.map (·, { ledger with store := entries.foldl Store.insertWeakness ledger.store })
      peerState := w.peerState }

/-- Do what the arguments ask for. -/
def run (w : Surroundings π) (arguments : List String) : Outcome π :=
  let said (code : Nat) (out err : String) : Outcome π :=
    { code := code, out := out, err := err, stored := none, peerState := w.peerState }
  match Request.ofArguments arguments with
  | .version => said 0 "vulnsync 0.1.0\n" ""
  | .help topic => said 0 topic.text ""
  | .usageError => said 2 "" "Usage: vulnsync [OPTIONS] <COMMAND>\n"
  | .run i =>
    match w.settings i with
    | .error t => troubled none w.peerState t
    | .ok s =>
      match i.command with
      | .analyze file => w.analyze s file
      | .report component format => w.report s component format
      | .importWeaknesses file => w.importWeaknesses s file

end Surroundings
end Cli
end AdvisoryLedger
