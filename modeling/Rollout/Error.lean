import Rollout.Compile
import Rollout.Text.Style

/-!
# Why a deployment fails

Every failure is of one of seven kinds, each with what a person needs to find its cause. It is shown
as a title with the message, the place it concerns, and a hint where there is something to suggest.

* `DeployError.lines` is what is shown; a failed command shows the first lines of its error output.
-/

namespace Rollout

inductive DeployError where
  /-- A bad reference in the descriptor. -/
  | compile (cause : CompileError)
  /-- A text that is no descriptor. -/
  | descriptor (message : String) (suggestion : Option String)
  /-- A local file that cannot be read, other than one to upload. -/
  | io (message : String) (path : Option String)
  /-- A session that could not be opened. -/
  | connection (host message : String) (suggestion : Option String)
  /-- A step that failed on the server. -/
  | remote (host command message : String) (exitCode : Option Int) (stderr : Option String)
  /-- A file or directory to upload that cannot be read. -/
  | filesystem (message path : String)
  /-- A question to the person at the terminal that went unanswered. -/
  | runtime (message : String) (suggestion : Option String)
  deriving Repr, DecidableEq

namespace DeployError

/-- A step that failed on the server without an exit code. -/
def remoteFault (host command message : String) : DeployError :=
  .remote host command message none none

/-- A command that ended with another exit code than 0. -/
def remoteExit (host command : String) (exitCode : Int) (stderr : String) : DeployError :=
  .remote host command ("Command exited with code " ++ toString exitCode) (some exitCode)
    (some stderr)

def kind : DeployError → String
  | .compile .. => "compile"
  | .descriptor .. => "descriptor"
  | .io .. => "io"
  | .connection .. => "connection"
  | .remote .. => "remote"
  | .filesystem .. => "filesystem"
  | .runtime .. => "runtime"

/-- The failure behind this one. -/
def source : DeployError → Option String
  | .compile cause => some cause.message
  | _ => none

/-- The first line: what kind of failure it is, and the message. -/
def title (name message : String) : Line :=
  [{ text := name, style := { bold := true, color := some .red } }, .plain (": " ++ message)]

/-- A line that names something the failure concerns. -/
def detail (name value : String) : Line :=
  [.plain "  ", { text := name, style := { dimmed := true } }, .plain (" " ++ value)]

def hint (text : String) : Line :=
  [{ text := "Hint", style := { bold := true, color := some .yellow } }, .plain (": " ++ text)]

/-- A hint after a blank line, if there is one. -/
def suggested (suggestion : Option String) : List Line :=
  match suggestion with
  | some text => [[], hint text]
  | none => []

/-- How many lines of a command's error output are shown. -/
def shownStderr : Nat := 10

/-- The error output of a command, if there is any. -/
def stderrLines (stderr : Option String) : List Line :=
  match stderr with
  | none => []
  | some text =>
    if text = "" then []
    else [] :: [.plain "  ", { text := "stderr", style := { dimmed := true } }, .plain ":"] ::
      ((Text.lines text.toList).take shownStderr).map fun l => [.plain ("    " ++ String.ofList l)]

/-- What is shown of a failure. -/
def lines : DeployError → List Line
  | .compile cause =>
    [title "COMPILE ERROR" cause.message, detail "Host:" cause.host,
      detail "Package:" ("#" ++ toString cause.package), [],
      hint "Fix the descriptor; no server has been contacted"]
  | .descriptor message suggestion =>
    title "DESCRIPTOR ERROR" message :: suggested suggestion
  | .io message path =>
    title "I/O ERROR" message :: (path.map (detail "Path:")).toList
  | .connection host message suggestion =>
    title "CONNECTION ERROR" message :: detail "Host:" host :: suggested suggestion
  | .remote host command message _ stderr =>
    title "REMOTE ERROR" message :: detail "Host:" host :: detail "Command:" command ::
      stderrLines stderr
  | .filesystem message path => [title "FILESYSTEM ERROR" message, detail "Path:" path]
  | .runtime message suggestion => title "RUNTIME ERROR" message :: suggested suggestion

/-- A failure as it is shown, every line with its end. -/
def display (colored : Bool) (e : DeployError) : String := Line.renderAll colored e.lines

end DeployError

end Rollout
