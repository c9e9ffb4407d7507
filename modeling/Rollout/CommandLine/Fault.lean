import Rollout.CommandLine.Usage

/-!
# What is wrong with a command line

A command line that asks for nothing the program can do is answered with what is wrong, a tip if the
right word can be guessed, and a usage line if there is something to choose from.

* `UsageFault.lines` is what is shown.
-/

namespace Rollout.CommandLine

/-- Why a text is no number of seconds. -/
inductive NumeralFault where
  | empty
  | badDigit
  | tooLarge
  deriving Repr, DecidableEq

def NumeralFault.message : NumeralFault → String
  | .empty => "cannot parse integer from empty string"
  | .badDigit => "invalid digit found in string"
  | .tooLarge => "number too large to fit in target type"

/-- What may have been meant. -/
inductive Tip where
  /-- Commands with similar names, the most similar last. -/
  | commands (names : List String)
  /-- A switch with a similar name. -/
  | switch (s : Switch)
  /-- A switch with a similar name that a command takes, and the command is there. -/
  | switchOf (c : Command) (s : Switch)
  /-- A value that looks like a switch. -/
  | value (text : String)
  /-- A command that comes after two dashes. -/
  | dashes (word : String)
  deriving Repr, DecidableEq

namespace Tip

def quoted (s : String) : String := "'" ++ s ++ "'"

def message : Tip → String
  | .commands [name] => "a similar subcommand exists: " ++ quoted name
  | .commands names =>
    "some similar subcommands exist: " ++ ", ".intercalate (names.map quoted)
  | .switch s => "a similar argument exists: " ++ quoted ("--" ++ s.name)
  | .switchOf c s => quoted (c.name ++ " --" ++ s.name) ++ " exists"
  | .value text => "to pass " ++ quoted text ++ " as a value, use " ++ quoted ("-- " ++ text)
  | .dashes word =>
    "subcommand " ++ quoted word ++ " exists; to use it, remove the '--' before it"

end Tip

inductive UsageFault where
  /-- Switches, but no command. -/
  | noCommand
  /-- A word where a command is needed. -/
  | unknownCommand (l : Level) (word : String) (tip : Option Tip)
  /-- A switch or a word that nothing takes, after some arguments that count for the usage line. -/
  | unknownArgument (l : Level) (text : String) (tip : Option Tip) (given : List Argument)
  | noValue (a : Argument)
  | badTimeout (text : String) (why : NumeralFault)
  /-- Something that can be given once. -/
  | repeated (l : Level) (a : Argument)
  /-- A value for a switch that takes none. -/
  | unneededValue (l : Level) (text : String) (s : Switch) (given : List Argument)
  deriving Repr, DecidableEq

namespace UsageFault

open Tip (quoted)

def message : UsageFault → String
  | .noCommand =>
    quoted programName ++ " requires a subcommand but one was not provided\n  [subcommands: " ++
      ", ".intercalate commandNames ++ "]"
  | .unknownCommand _ word _ => "unrecognized subcommand " ++ quoted word
  | .unknownArgument _ text _ _ => "unexpected argument " ++ quoted text ++ " found"
  | .noValue a => "a value is required for " ++ quoted a.label ++ " but none was supplied"
  | .badTimeout text why =>
    "invalid value " ++ quoted text ++ " for " ++ quoted Switch.timeout.label ++ ": " ++ why.message
  | .repeated _ a => "the argument " ++ quoted a.label ++ " cannot be used multiple times"
  | .unneededValue _ text s _ =>
    "unexpected value " ++ quoted text ++ " for " ++ quoted s.label ++
      " found; no more were expected"

def tip : UsageFault → Option Tip
  | .unknownCommand _ _ tip => tip
  | .unknownArgument _ _ tip _ => tip
  | _ => none

/-- The usage line, where there is something to choose from. -/
def usage : UsageFault → Option String
  | .noCommand => some Level.program.usage
  | .unknownCommand l _ _ => some l.usage
  | .unknownArgument l _ _ given => some (l.usageOf given)
  | .noValue _ => none
  | .badTimeout _ _ => none
  | .repeated l _ => some l.usage
  | .unneededValue l _ _ given => some (l.usageOf given)

/-- Whether the level at which the fault is has a switch that shows help. -/
def hasHelp : UsageFault → Bool
  | .unknownCommand .help _ _ => false
  | _ => true

/-- What is shown of a fault. -/
def lines (f : UsageFault) : List String :=
  ["error: " ++ f.message] ++ (f.tip.map fun t => ["", "  tip: " ++ t.message]).getD [] ++
    (f.usage.map fun u => ["", u]).getD [] ++
    (if f.hasHelp then ["", "For more information, try '--help'."] else [])

end UsageFault

end Rollout.CommandLine
