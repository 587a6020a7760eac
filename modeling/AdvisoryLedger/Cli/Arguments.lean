import AdvisoryLedger.Text.Basic

/-!
# The arguments of the command line

A command is `analyze`, `report` or `import-cwe`. Each has options of its own, and two
options, the settings and the store, may stand before the command as well as after it; after
it they count. An option has a long name and may have a letter, its value follows as the
next argument or, in the same argument, behind an equals sign or right behind the letter.

## When a value is looked at

A value in an argument of its own is kept back and looked at only when the next option comes
or everything is read: `Options.settle` does that. A bad value, a missing one and an option
that was given twice are therefore found late, and a command in between is read first. So
asking for help after a command is answered, whatever the option right before the command
may be worth, while asking for help behind a bad value is not.

Asking for the version or for help ends the reading where it stands. The word `help` in
place of a command explains the command that is named behind it. Everything that is not
understood is a usage error, whatever else it may be.
-/

namespace AdvisoryLedger
namespace Cli

inductive Format
  | json
  | markdown
  deriving DecidableEq, Repr

def Format.ofWord? (word : String) : Option Format :=
  if word = "json" then some .json
  else if word = "markdown" then some .markdown
  else none

inductive CommandName
  | analyze
  | report
  | importWeaknesses
  deriving DecidableEq, Repr

def CommandName.ofWord? (word : String) : Option CommandName :=
  if word = "analyze" then some .analyze
  else if word = "report" then some .report
  else if word = "import-cwe" then some .importWeaknesses
  else none

inductive Command
  | analyze (components : String)
  | report (component : String) (format : Format)
  | importWeaknesses (file : String)
  deriving DecidableEq, Repr

/-- A command with the settings file and the store it is to use. -/
structure Invocation where
  settingsFile : Option String
  storeFile : Option String
  command : Command
  deriving DecidableEq, Repr

/-- What can be explained: the whole, one command, or how to ask. -/
inductive Topic
  | overview
  | command (name : CommandName)
  | help
  deriving DecidableEq, Repr

/-- What the arguments ask for. -/
inductive Request
  | run (invocation : Invocation)
  | version
  | help (topic : Topic)
  | usageError
  deriving DecidableEq, Repr

/-! ### Options -/

inductive OptionName
  | settings
  | store
  | components
  | component
  | output
  | file
  deriving DecidableEq, Repr

def OptionName.long : OptionName → String
  | .settings => "config"
  | .store => "db"
  | .components => "components"
  | .component => "component"
  | .output => "output"
  | .file => "file"

def OptionName.letter? : OptionName → Option Char
  | .settings | .store => none
  | .components | .component => some 'c'
  | .output => some 'o'
  | .file => some 'f'

/-- An option takes the value: a format has to be one, and a path may not be empty. -/
def OptionName.accepts (value : String) : OptionName → Bool
  | .component => true
  | .output => (Format.ofWord? value).isSome
  | _ => !value.isEmpty

/-- The options that a command has of its own. -/
def CommandName.options : CommandName → List OptionName
  | .analyze => [.components]
  | .report => [.component, .output]
  | .importWeaknesses => [.file]

/-- Options as far as they were read. -/
structure Options where
  /-- The options whose values are settled. -/
  given : List (OptionName × String)
  /-- The option that was read last, and its value if that has come. -/
  last : Option (OptionName × Option String)
  deriving DecidableEq, Repr

namespace Options

def empty : Options := ⟨[], none⟩

def value? (o : Options) (name : OptionName) : Option String :=
  (o.given.find? (·.1 = name)).map Prod.snd

/-- Settle an option that was not given yet. -/
def add (o : Options) (name : OptionName) (value : String) : Option Options :=
  if (o.value? name).isSome || !name.accepts value then none
  else some { o with given := o.given ++ [(name, value)] }

/-- Settle the option that was read last. -/
def settle (o : Options) : Option Options :=
  match o.last with
  | none => some o
  | some (_, none) => none
  | some (name, some value) => { o with last := none }.add name value

end Options

/-! ### Arguments -/

/-- Where an argument stands: before the command or after it. -/
inductive Side
  | before
  | after (command : CommandName)
  deriving DecidableEq, Repr

def Side.options : Side → List OptionName
  | .before => [.settings, .store]
  | .after command => command.options ++ [.settings, .store]

/-- One argument, taken apart. -/
inductive Argument
  /-- An option and the value in the same argument, if there is one. -/
  | option (name : OptionName) (value : Option String)
  | version
  | help
  /-- The mark after which there are no more options. -/
  | noMore
  /-- A word that is no option. -/
  | word
  | unknown
  deriving DecidableEq, Repr

/-- The option with a letter, and the value behind the letter. -/
def letterOption (known : List OptionName) (letter : Char) (rest : List Char) : Argument :=
  match known.find? (·.letter? = some letter) with
  | none => .unknown
  | some name =>
    match rest with
    | [] => .option name none
    | '=' :: value => .option name (some (String.ofList value))
    | value => .option name (some (String.ofList value))

/-- The option with a long name, and the value behind the equals sign. -/
def longOption (known : List OptionName) (cs : List Char) : Argument :=
  let (long, value) := match Text.cut? '=' cs with
    | some (long, value) => (long, some (String.ofList value))
    | none => (cs, none)
  match known.find? (·.long = String.ofList long) with
  | some name => .option name value
  | none => .unknown

/-- Take an argument apart. The version can be asked for only before the command. -/
def Argument.of (side : Side) (s : String) : Argument :=
  match s.toList with
  | ['-', '-'] => .noMore
  | '-' :: '-' :: cs =>
    if s = "--help" then .help
    else if s = "--version" && side = .before then .version
    else longOption side.options cs
  | '-' :: letter :: rest =>
    if letter = 'h' then .help
    else if letter = 'V' && side = .before then .version
    else letterOption side.options letter rest
  | _ => .word

/-- What the arguments of one side come to. -/
inductive Reading
  | ended (options : Options)
  | command (options : Options) (name : CommandName) (rest : List String)
  | helpOn (words : List String)
  | version
  | help
  | wrong
  deriving DecidableEq, Repr

/-- Read the arguments of one side. -/
def read (side : Side) (options : Options) : List String → Reading
  | [] => .ended options
  | s :: rest =>
    match Argument.of side s with
    | .unknown => .wrong
    | .noMore => if rest.isEmpty then .ended options else .wrong
    | .version => if options.settle.isSome then .version else .wrong
    | .help => if options.settle.isSome then .help else .wrong
    | .option name value =>
      let next := match value with
        | some value => options.settle.bind (·.add name value)
        | none => options.settle.map fun o => { o with last := some (name, none) }
      match next with
      | some options => read side options rest
      | none => .wrong
    | .word =>
      match options.last, side with
      | some (name, none), _ => read side { options with last := some (name, some s) } rest
      | _, .before =>
        if s = "help" then .helpOn rest
        else match CommandName.ofWord? s with
          | some name => .command options name rest
          | none => .wrong
      | _, .after _ => .wrong

/-! ### Requests -/

/-- The command of a name with its options. -/
def command? (options : Options) : CommandName → Option Command
  | .analyze => (options.value? .components).map .analyze
  | .report => do
    let component ← options.value? .component
    let format ← Format.ofWord? ((options.value? .output).getD "markdown")
    some (.report component format)
  | .importWeaknesses => (options.value? .file).map .importWeaknesses

/-- What words behind `help` name. -/
def Topic.ofWords? : List String → Option Topic
  | [] => some .overview
  | [word] => if word = "help" then some .help else (CommandName.ofWord? word).map .command
  | _ => none

/-- A command with the options that stand before it and after it. -/
def invocation? (before after : Options) (name : CommandName) : Option Invocation := do
  let after ← after.settle
  let command ← command? after name
  let before ← before.settle
  some {
    settingsFile := (after.value? .settings).or (before.value? .settings)
    storeFile := (after.value? .store).or (before.value? .store)
    command := command }

/-- What the arguments ask for. -/
def Request.ofArguments (arguments : List String) : Request :=
  match read .before .empty arguments with
  | .version => .version
  | .help => .help .overview
  | .helpOn words => ((Topic.ofWords? words).map Request.help).getD .usageError
  | .ended _ | .wrong => .usageError
  | .command before name rest =>
    match read (.after name) .empty rest with
    | .help => .help (.command name)
    | .ended after => ((invocation? before after name).map Request.run).getD .usageError
    | _ => .usageError

/-- An option that is given twice is found behind the command that it stands before, and
asking for help comes first. -/
example :
    Request.ofArguments ["--db", "a", "--db", "b", "report", "-h"] = .help (.command .report) ∧
      Request.ofArguments ["--db", "a", "--db", "b", "-h"] = .usageError := by
  decide +kernel

end Cli
end AdvisoryLedger
