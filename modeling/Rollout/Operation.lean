import Rollout.Number.Word
import Rollout.Text.Blank
import Rollout.Text.Digit

/-!
# Operations

A command is a word with arguments, and some first words name an operation of this program: they are
matched without regard to ASCII case, and only with the right number of arguments. Every other command
is for the shell, and stays as it is.

* `Operation.ofCommand` classifies a command; `Operation.render` writes the canonical command of an
  operation.
-/

namespace Rollout

/-- One step of a server's run. -/
inductive Operation where
  /-- A shell command, run as written. -/
  | raw (command : String)
  /-- `upload`: one local file to a remote path. -/
  | upload (source destination : String)
  /-- `uploaddir`: the files of a local directory; a limit of 0 means all of them. -/
  | uploadDir (source destination : String) (limit : UInt64)
  /-- `bak`: a rename to a dated name. -/
  | backup (path : String)
  /-- `zipbak`: a dated archive of paths. -/
  | zipBackup (archive : String) (paths : List String)
  deriving Repr, DecidableEq

namespace Operation

def uploadWord : List Char := ['u', 'p', 'l', 'o', 'a', 'd']

def uploadDirWord : List Char := ['u', 'p', 'l', 'o', 'a', 'd', 'd', 'i', 'r']

def backupWord : List Char := ['b', 'a', 'k']

def zipBackupWord : List Char := ['z', 'i', 'p', 'b', 'a', 'k']

/-- The limit written after `uploaddir`: nothing for 0, or digits of a number of 64 bits. -/
def limit? (digits : List Char) : Option UInt64 :=
  if digits = [] then some 0
  else (Text.nat? digits).bind fun n => if n < Word.count64 then some (UInt64.ofNat n) else none

/-- The operation that a first word in lower case names for its arguments. -/
def ofWords (word : List Char) (args : List (List Char)) : Option Operation :=
  match args with
  | [a] => if word = backupWord then some (.backup (.ofList a)) else none
  | a :: b :: rest =>
    if word = zipBackupWord then
      some (.zipBackup (.ofList a) ((b :: rest).map String.ofList))
    else if rest ≠ [] then none
    else if word = uploadWord then some (.upload (.ofList a) (.ofList b))
    else if uploadDirWord.isPrefixOf word then
      (limit? (word.drop uploadDirWord.length)).map (.uploadDir (.ofList a) (.ofList b))
    else none
  | [] => none

/-- The operation of a command. -/
def ofCommand (command : String) : Operation :=
  match Text.words command.toList with
  | [] => .raw command
  | word :: args => (ofWords (word.map Char.toLower) args).getD (.raw command)

/-- The short name of an operation. -/
def kind : Operation → String
  | .raw _ => "command"
  | .upload .. => "upload"
  | .uploadDir .. => "uploaddir"
  | .backup _ => "bak"
  | .zipBackup .. => "zipbak"

/-- The command of an operation. -/
def render : Operation → String
  | .raw command => command
  | .upload source destination => "upload " ++ source ++ " " ++ destination
  | .uploadDir source destination limit =>
    "uploaddir" ++ (if limit = 0 then "" else toString limit.toNat) ++ " " ++ source ++ " " ++
      destination
  | .backup path => "bak " ++ path
  | .zipBackup archive paths => "zipbak " ++ archive ++ " " ++ " ".intercalate paths

end Operation

end Rollout
