import AdvisoryLedger.Cli.Run
import AdvisoryLedger.Store.File
import Std.Time.Zoned

/-!
# The command line

The outer layer: it fetches what a command may look at, runs the command, prints what the
command says, and keeps the store that the command leaves. A store is a text file. This
program has no transport of its own, so the peer cannot be reached.
-/

namespace AdvisoryLedger
namespace Cli

/-- Why a file could not be read. -/
def faultOf : IO.Error → ReadFault
  | .noFileOrDirectory .. => .missing
  | .inappropriateType _ code details =>
    if code = 20 then .notDirectory else if code = 21 then .isDirectory else .other details
  | .invalidArgument _ code details => if code = 36 then .nameTooLong else .other details
  | e => .other (toString e)

def readFile (path : String) : IO (Except ReadFault (List UInt8)) := do
  try
    return .ok (← IO.FS.readBinFile path).data.toList
  catch e => return .error (faultOf e)

/-- The store in a file, which is empty where there is no file yet. -/
def readStore (path : String) : IO (Except StoreFault Store) := do
  match ← readFile path with
  | .error .missing | .ok [] => return .ok .empty
  | .error _ => return .error .cannotOpen
  | .ok bytes =>
    match Store.ofBytes? bytes with
    | some store => return .ok store
    | none => return .error .notStore

def currentInstant : IO Instant := do
  let t ← Std.Time.Timestamp.now
  let nanos := t.toNanosecondsSinceUnixEpoch.val.toNat
  match Instant.ofEpoch? (nanos / nanosPerSecond) (nanos % nanosPerSecond) with
  | some now => return now
  | none => throw (IO.userError "the clock shows no instant")

def filesOf (i : Invocation) : List String :=
  i.settingsFile.toList ++ match i.command with
    | .analyze file => [file]
    | .importWeaknesses file => [file]
    | .report _ _ => []

def currentDay : IO String := do
  let d ← Std.Time.PlainDate.now
  return Instant.yearText d.year ++ "-" ++ Text.padded 2 d.month.val.toNat ++ "-"
    ++ Text.padded 2 d.day.val.toNat

/-- Surroundings with the given files, named variables and store. -/
def surroundingsWith (files : List (String × Except ReadFault (List UInt8)))
    (named : List (String × String)) (store : Except StoreFault Store) :
    IO (Surroundings Unit) := do
  let now ← currentInstant
  let today ← currentDay
  return {
    file := fun path => (files.lookup path).getD (.error .missing)
    environment := fun name => named.lookup name
    ledger := fun _ => store.map (⟨·, 0⟩)
    today := today
    clock := fun _ => now
    peer := .unreachable
    peerState := () }

/-- The variables of the given names that have values. -/
def variablesOf (names : List String) : IO (List (String × String)) :=
  names.filterMapM fun name => do
    return (← IO.getEnv name).map (name, ·)

/-- What an invocation can see. -/
def surroundingsOf (i : Invocation) : IO (Surroundings Unit) := do
  let files ← (filesOf i).mapM fun path => do return (path, ← readFile path)
  let directories ← variablesOf ["HOME", "XDG_DATA_HOME"]
  let w ← surroundingsWith files directories (.ok .empty)
  match w.settings i with
  | .error _ => return w
  | .ok s =>
    if s.store.path.isNone then IO.FS.createDirAll (storeDirectory w.environment)
    let token ← variablesOf [s.analyzer.tokenEnv]
    let store ← match StoreAddress.ofText (s.store.path.getD (standardStore w.environment)) with
      | .file path => readStore path
      | _ => pure (.ok .empty)
    surroundingsWith files (token ++ directories) store

end Cli
end AdvisoryLedger

open AdvisoryLedger Cli in
/-- Run a command: print what it says, keep its store, and exit with its code. -/
def main (arguments : List String) : IO UInt32 := do
  let w ← match Request.ofArguments arguments with
    | .run i => surroundingsOf i
    | _ => surroundingsWith [] [] (.ok .empty)
  let outcome := w.run arguments
  match outcome.stored with
  | some (path, ledger) => IO.FS.writeFile path ledger.store.text
  | none => pure ()
  IO.print outcome.out
  IO.eprint outcome.err
  return UInt32.ofNat outcome.code
