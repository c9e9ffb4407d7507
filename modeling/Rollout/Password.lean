import Rollout.Error
import Rollout.Text.Blank

/-!
# A typed password

A password is read key by key and not shown. Some keys change what was typed before: they delete the
last character, the last word or everything. Escape sequences of other keys and all remaining control
characters are dropped.

* `Password.typed` is what a sequence of keys types.
* `Password.ask` is what an answer at the terminal means: a password that is not blank, a failure or
  an interruption.
-/

namespace Rollout.Password

/-- What became of typing. -/
inductive Typed where
  | line (s : List Char)
  | endOfInput
  | interrupted
  deriving Repr, DecidableEq

def isControl (c : Char) : Bool := c.toNat < 0x20 || (0x7f ≤ c.toNat && c.toNat < 0xa0)

/-- The last character of an escape sequence. -/
def isFinal (c : Char) : Bool := 0x40 ≤ c.toNat && c.toNat ≤ 0x7e

/-- Without the last word and the blanks after it; the last character comes first. -/
def dropWord (s : List Char) : List Char := (s.dropWhile Text.isBlank).dropWhile (! Text.isBlank ·)

/-- What keys type after some characters, the last of them first. -/
def typedAfter : List Char → List Char → Typed
  | _, [] => .endOfInput
  | s, c :: keys =>
    if c = '\n' ∨ c = '\r' then .line s.reverse
    else if c = '\x03' then .interrupted
    else if c = '\x04' ∧ s = [] then .endOfInput
    else if c = '\x7f' ∨ c = '\x08' then typedAfter (s.drop 1) keys
    else if c = '\x15' then typedAfter [] keys
    else if c = '\x17' then typedAfter (dropWord s) keys
    else if c = '\x1b' then afterEscape s keys
    else if isControl c then typedAfter s keys
    else typedAfter (c :: s) keys
where
  /-- Keys after an escape character. -/
  afterEscape : List Char → List Char → Typed
    | s, '[' :: keys => inSequence s keys
    | s, keys => typedAfter s keys
  /-- Keys inside an escape sequence. -/
  inSequence : List Char → List Char → Typed
    | _, [] => .endOfInput
    | s, c :: keys => if isFinal c then typedAfter s keys else inSequence s keys

/-- What a sequence of keys types. -/
def typed (keys : List Char) : Typed := typedAfter [] keys

/-- The prompt; the password goes on the same line. -/
def prompt : Line := [{ text := "SSH Password: ", style := { color := some .cyan } }]

/-- The failure to read a password. -/
def unread (reason : String) : DeployError :=
  .runtime ("Failed to read password: " ++ reason) (some "Put the password in the descriptor instead")

/-- What an answer means; there may be no terminal to give one. `none` is an interruption. -/
def ask (keys : Option (List Char)) : Option (Except DeployError String) :=
  match keys.map typed with
  | none => some (.error (unread "No such device or address (os error 6)"))
  | some .endOfInput => some (.error (unread "unexpected end of file"))
  | some .interrupted => none
  | some (.line s) =>
    let s := Text.trim s
    if s = [] then
      some (.error (.runtime "Password cannot be empty" (some "Enter a password when prompted")))
    else some (.ok (String.ofList s))

end Rollout.Password
