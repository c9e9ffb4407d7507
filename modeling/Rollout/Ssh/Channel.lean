import Rollout.Number.Word
import Rollout.Terminal
import Rollout.Text.Utf8

/-!
# What a command on a channel leaves behind

A server answers a command by messages: output in pieces, an exit status or the signal that ended the
command, and at last it closes the channel. A channel on which no exit status came is read as status
0. Output must be UTF-8; error output that is not is read as empty.
-/

namespace Rollout.Ssh

inductive Message where
  | output (bytes : List UInt8)
  | errors (bytes : List UInt8)
  | exitStatus (code : UInt32)
  | exitSignal (name : String)
  deriving Repr, DecidableEq

namespace Channel

/-- All output, in order. -/
def output : List Message → List UInt8
  | [] => []
  | .output bytes :: ms => bytes ++ output ms
  | _ :: ms => output ms

/-- All error output, in order. -/
def errors : List Message → List UInt8
  | [] => []
  | .errors bytes :: ms => bytes ++ errors ms
  | _ :: ms => errors ms

/-- The exit status that was reported last. -/
def exitStatus? : List Message → Option UInt32
  | [] => none
  | .exitStatus code :: ms => some ((exitStatus? ms).getD code)
  | _ :: ms => exitStatus? ms

/-- An exit status as a number of 32 bits with a sign. -/
def signed (code : UInt32) : Int := Int.bmod code.toNat Word.count32

/-- The exit code of a channel. -/
def exitCode (ms : List Message) : Int := ((exitStatus? ms).map signed).getD 0

/-- The result of a command by the messages of its channel; `none` if its output is not text. -/
def result? (ms : List Message) : Option CommandResult := do
  let stdout ← String.ofUtf8? (output ms)
  return { stdout, stderr := (String.ofUtf8? (errors ms)).getD "", exitCode := exitCode ms }

end Channel

end Rollout.Ssh
