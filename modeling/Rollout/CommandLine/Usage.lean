import Rollout.CommandLine.Argument

/-!
# How the command line is used

The usage line of a level tells what may be given there. Help puts it between what the level is for
and tables of everything it takes.

* `Level.usage` is the line of a level, `Level.usageOf` the line after some arguments have been given.
* `Level.helpLines` is the help of a level.
-/

namespace Rollout.CommandLine

namespace Level

/-- The words that lead to a level. -/
def path : Level → String
  | .program => programName
  | .command c => programName ++ " " ++ c.name
  | .help => programName ++ " help"

/-- What a level is for. -/
def about : Level → String
  | .program => "Compile deployment descriptors and run them over SSH"
  | .command c => c.about
  | .help => "Print this message or the help of the given subcommand(s)"

/-- The usage line of a level. -/
def usage : Level → String
  | .program => "Usage: " ++ path .program ++ " [OPTIONS] <COMMAND>"
  | .command c => "Usage: " ++ path (.command c) ++ " [OPTIONS] " ++ Argument.descriptor.label
  | .help => "Usage: " ++ path .help ++ " [COMMAND]..."

/-- What comes at the end of a usage line that shows some arguments. -/
def usageEnd (given : List Argument) : Level → String
  | .program => " <COMMAND>"
  | .command _ => if given.contains .descriptor then " <DESCRIPTOR>" else " [DESCRIPTOR]"
  | .help => ""

/-- The usage line after some arguments have been given: the switches among them are shown. -/
def usageOf (l : Level) (given : List Argument) : String :=
  if given.isEmpty then l.usage
  else
    let switches := given.filterMap fun
      | .switch s => some (" " ++ s.label)
      | .descriptor => none
    "Usage: " ++ l.path ++ String.join switches ++ l.usageEnd given

/-- What a switch does at a level. -/
def aboutSwitch (l : Level) : Switch → String
  | .yes => "Skip the confirmation prompt"
  | .limit =>
    if l = .command .run then "Only run these hosts (comma-separated)"
    else "Only show these hosts (comma-separated)"
  | .timeout => "SSH connection timeout in seconds [default: " ++ toString defaultTimeout ++ "]"
  | .askPass => "Prompt for a password used by servers without one"
  | .verbose => "Enable verbose output"
  | .quiet => "Quiet mode - only show errors"
  | .help => "Print help"
  | .version => "Print version"

/-- A switch in a table: its letter, its name and its value. -/
def switchCell (s : Switch) : String :=
  match s.letter with
  | some c => "-" ++ c.toString ++ ", " ++ s.label
  | none => "    " ++ s.label

/-- What the descriptor of a level is. -/
def aboutDescriptor (l : Level) : String :=
  (if l = .command .run then "Path to the descriptor (JSON, or YAML by extension) " else "") ++
    "[default: " ++ defaultDescriptor ++ "]"

/-- The rows of a table; the second column begins two places after the longest first cell. -/
def table (rows : List (String × String)) : List String :=
  let width := (rows.map fun r => r.1.length).foldl max 0
  rows.map fun r =>
    "  " ++ r.1 ++ String.ofList (List.replicate (width - r.1.length + 2) ' ') ++ r.2

/-- A table under its title, if it has rows. -/
def titled (title : String) (rows : List (String × String)) : List String :=
  if rows.isEmpty then [] else "" :: title :: table rows

/-- The commands that can follow a level. -/
def commandRows : Level → List (String × String)
  | .program => (Command.all.map fun c => (c.name, c.about)) ++ [("help", about .help)]
  | _ => []

/-- The words that a level takes. -/
def wordRows : Level → List (String × String)
  | .program => []
  | .command c => [(Argument.descriptor.label, aboutDescriptor (.command c))]
  | .help => [("[COMMAND]...", "Print help for the subcommand(s)")]

/-- The help of a level. -/
def helpLines (l : Level) : List String :=
  [l.about, "", l.usage] ++ titled "Commands:" l.commandRows ++ titled "Arguments:" l.wordRows ++
    titled "Options:" (l.switches.map fun s => (switchCell s, l.aboutSwitch s))

end Level

/-- The names of everything that can follow the program's name as a command. -/
def commandNames : List String := Command.all.map (·.name) ++ ["help"]

end Rollout.CommandLine
