import Rollout.Ssh.Network

/-!
# Logging in

With a password, it is offered once, and if that is refused once more as the answer to every question
of the server. Without one, the keys of the agent are offered in its order until one is accepted.
-/

namespace Rollout.Ssh

/-- What became of a login: whether it was accepted, the attempts with their verdicts, and the state
after them. -/
structure LoginOutcome (σ : Type) where
  accepted : Bool
  attempts : List (Attempt × Bool)
  state : σ

namespace Login

variable {σ : Type}

/-- Offers one thing after another until one is accepted. -/
def offer (n : Network σ) (session : Nat) : List Attempt → σ → LoginOutcome σ
  | [], s => ⟨false, [], s⟩
  | a :: as, s =>
    match n.judge session a s with
    | (true, s) => ⟨true, [(a, true)], s⟩
    | (false, s) =>
      let o := offer n session as s
      { o with attempts := (a, false) :: o.attempts }

/-- A user that a key cannot be offered for. -/
def isUnsendable (user : String) : Bool := user.toList.contains '\x00'

/-- The keys that are offered for a user. -/
def keyOffers (n : Network σ) (user : String) (s : σ) : List Attempt :=
  if isUnsendable user then [] else (n.agentKeys s).map (.key user)

/-- The answers to all questions of a server. -/
def answersOf (n : Network σ) (session : Nat) (t : Target) (s : σ) : Attempt :=
  .interactive t.username ((n.prompts session s).map fun _ => t.password)

/-- Logs in for a target. -/
def run (n : Network σ) (session : Nat) (t : Target) (s : σ) : LoginOutcome σ :=
  if t.password = "" then offer n session (keyOffers n t.username s) s
  else
    let first := offer n session [.password t.username t.password] s
    if first.accepted then first
    else
      let second := offer n session [answersOf n session t first.state] first.state
      { second with attempts := first.attempts ++ second.attempts }

end Login

end Rollout.Ssh
