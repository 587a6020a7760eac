import AdvisoryLedger.Cli.Run

/-!
# A folder of files and stores

Commands can run without a disk, in a folder that is data: the files and stores that there
are, and the place at which relative paths start. A place is the list of the names on the
way to it from the root, and a directory is a place on the way to something.

A path is followed in two ways. A file is looked up step by step, and every step has to
start from a directory that is there. The path of a store is first put into its plain form,
in which a step up cancels the name before it, and then only the directory that holds the
store has to be there.
-/

namespace AdvisoryLedger
namespace Cli

/-- A place, by the names on the way to it from the root. -/
abbrev Place := List String

/-- The steps of a path. -/
def stepsOf (path : String) : List String := (path.toList.splitOn '/').map String.ofList

/-- What there is on a disk that commands can see. -/
structure Folder where
  /-- Where relative paths start. -/
  location : Place
  files : List (Place × List UInt8)
  ledgers : List (Place × Ledger)

namespace Folder

def isAbsolute (path : String) : Bool := path.toList.head? = some '/'

def start (f : Folder) (path : String) : Place := if isAbsolute path then [] else f.location

def isFile (f : Folder) (p : Place) : Bool :=
  (f.files.lookup p).isSome || (f.ledgers.lookup p).isSome

/-- The place is on the way to something. -/
def isDirectory (f : Folder) (p : Place) : Bool :=
  p.isPrefixOf f.location
    || (f.files.map Prod.fst ++ f.ledgers.map Prod.fst).any fun q => p.isPrefixOf q && p ≠ q

/-! ### Files -/

def nameLimit : Nat := 255

def pathLimit : Nat := 4095

/-- The place to which steps lead from another one. -/
def follow (f : Folder) (here : Place) : List String → Except ReadFault Place
  | [] => .ok here
  | step :: steps =>
    if !f.isDirectory here then .error .notDirectory
    else if step = "" || step = "." then f.follow here steps
    else if step = ".." then f.follow here.dropLast steps
    else if nameLimit < step.utf8ByteSize then .error .nameTooLong
    else
      let next := here ++ [step]
      if f.isDirectory next || f.isFile next then f.follow next steps else .error .missing

/-- The contents of a file. The file of a store is no text. -/
def read (f : Folder) (path : String) : Except ReadFault (List UInt8) := do
  if path.isEmpty then .error .missing
  if pathLimit < path.utf8ByteSize then .error .nameTooLong
  let place ← f.follow (f.start path) (stepsOf path)
  if f.isDirectory place then .error .isDirectory
  match f.files.lookup place with
  | some bytes => .ok bytes
  | none => .error .notUtf8

/-! ### Stores -/

/-- The place that a path names in its plain form. -/
def place (f : Folder) (path : String) : Place :=
  (stepsOf path).foldl
    (fun here step =>
      if step = "" || step = "." then here
      else if step = ".." then here.dropLast
      else here ++ [step])
    (f.start path)

/-- The store at a path. Its directory has to be there, unless it is one that is made when it
is missing. An empty file is an empty store. -/
def ledger (f : Folder) (made : Place) (path : String) : Except StoreFault Ledger :=
  let p := f.place path
  if f.isDirectory p || !(f.isDirectory p.dropLast || p.dropLast = made) then .error .cannotOpen
  else match f.ledgers.lookup p, f.files.lookup p with
    | some l, _ => .ok l
    | none, some (_ :: _) => .error .notStore
    | none, _ => .ok .empty

/-! ### Commands -/

/-- The folder as the surroundings of a command. -/
def surroundings {π : Type} (f : Folder) (environment : String → Option String) (today : String)
    (clock : Nat → Instant) (peer : Peer π) (peerState : π) : Surroundings π :=
  { file := f.read
    environment := environment
    ledger := f.ledger (f.place (storeDirectory environment))
    today := today
    clock := clock
    peer := peer
    peerState := peerState }

def write (f : Folder) (path : String) (bytes : List UInt8) : Folder :=
  { f with files := (f.place path, bytes) :: f.files }

/-- The folder after a command: it keeps the store that the command left. -/
def after {π : Type} (f : Folder) (o : Outcome π) : Folder :=
  match o.stored with
  | some (path, l) => { f with ledgers := (f.place path, l) :: f.ledgers }
  | none => f

end Folder
end Cli
end AdvisoryLedger
