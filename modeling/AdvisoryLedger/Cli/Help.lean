import AdvisoryLedger.Cli.Arguments

/-!
# Help

What the command line says about itself: one page for each topic. A page says what its
subject is for and how it is used, and then lists parts, each with a line on it; in a list
the lines stand in one column.
-/

namespace AdvisoryLedger
namespace Cli

/-- A list of parts under a title: each part and what it is for. -/
structure HelpList where
  title : String
  rows : List (String × String)

structure HelpPage where
  about : String
  usage : String
  lists : List HelpList

/-- The list with its lines in one column. -/
def HelpList.text (l : HelpList) : String :=
  let width := (l.rows.map fun row => row.1.length).foldl max 0
  let line : String × String → String := fun (part, use) =>
    "  " ++ part ++ String.ofList (List.replicate (width - part.length) ' ') ++ "  " ++ use ++ "\n"
  "\n" ++ l.title ++ ":\n" ++ String.join (l.rows.map line)

def HelpPage.text (p : HelpPage) : String :=
  p.about ++ "\n\nUsage: " ++ p.usage ++ "\n" ++ String.join (p.lists.map HelpList.text)

/-- How an option is written, with a word for its value. -/
def OptionName.usage (o : OptionName) : String :=
  (match o.letter? with
    | some letter => String.ofList ['-', letter, ',', ' ']
    | none => "    ")
    ++ "--" ++ o.long ++ " <" ++ String.ofList (o.long.toList.map Char.toUpper) ++ ">"

def OptionName.about : OptionName → String
  | .settings => "Path to a TOML configuration file"
  | .store => "Path to the SQLite store (overrides the configuration)"
  | .components => "JSON file holding an array of `\x7bid, name, purl\x7d` components"
  | .component => "Component identifier"
  | .output => "Output format [default: markdown] [possible values: json, markdown]"
  | .file => ""

def CommandName.word : CommandName → String
  | .analyze => "analyze"
  | .report => "report"
  | .importWeaknesses => "import-cwe"

def CommandName.about : CommandName → String
  | .analyze => "Register components and fetch their vulnerabilities"
  | .report => "Print the vulnerabilities stored for a component"
  | .importWeaknesses => "Load CWE entries from a JSON file of `\x7bid, name\x7d` objects"

/-- The one option without which a command cannot run. -/
def CommandName.required : CommandName → String
  | .analyze => "--components <COMPONENTS>"
  | .report => "--component <COMPONENT>"
  | .importWeaknesses => "--file <FILE>"

/-- The options after a command, in the order of a page. -/
def CommandName.listed : CommandName → List OptionName
  | .analyze => [.components, .settings, .store]
  | .report => [.component, .settings, .store, .output]
  | .importWeaknesses => [.settings, .file, .store]

/-- What asking for help is for. -/
def helpAbout : String := "Print this message or the help of the given subcommand(s)"

/-- Options with what they are for, and the option that asks for help. -/
def optionRows (options : List OptionName) : List (String × String) :=
  (options.map fun o => (o.usage, o.about)) ++ [("-h, --help", "Print help")]

def Topic.page : Topic → HelpPage
  | .overview =>
    { about := "Vulnerability intelligence ingestion for component catalogs"
      usage := "vulnsync [OPTIONS] <COMMAND>"
      lists := [
        ⟨"Commands", ([.analyze, .report, .importWeaknesses].map
          fun c : CommandName => (c.word, c.about)) ++ [("help", helpAbout)]⟩,
        ⟨"Options", optionRows [.settings, .store] ++ [("-V, --version", "Print version")]⟩] }
  | .command name =>
    { about := name.about
      usage := "vulnsync " ++ name.word ++ " [OPTIONS] " ++ name.required
      lists := [⟨"Options", optionRows name.listed⟩] }
  | .help =>
    { about := helpAbout
      usage := "vulnsync help [COMMAND]..."
      lists := [⟨"Arguments", [("[COMMAND]...", "Print help for the subcommand(s)")]⟩] }

def Topic.text (t : Topic) : String := t.page.text

end Cli
end AdvisoryLedger
