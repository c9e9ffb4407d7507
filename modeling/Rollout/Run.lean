import Rollout.Engine

/-!
# A run over all tasks

The tasks run one after another. The first failure ends the run, and the servers after it are never
contacted.

* `Run.tasks` is the run itself; `Run.report` shows the recap after it.
-/

namespace Rollout.Run

/-- The part of the program that notes how a run goes. -/
def origin : String := "shipwright::executor::runner"

variable {σ : Type}

/-- One task of a run, the one at place `index` of `total`. -/
def task (c : Connector σ) (g : Settings) (total index : Nat) (t : Task) : Step σ ServerReport := do
  Step.print (g.terminal.header (Engine.targetOf g t) index total)
  noting (Engine.execute c g t)
where
  /-- Notes how a task ended. -/
  noting (x : Step σ ServerReport) : Step σ ServerReport := fun s =>
    let o := x s
    let record : LogRecord := match o.result with
      | .ok r =>
        ⟨.info, origin, "server done", [("host", r.host), ("executed", toString r.executed)]⟩
      | .error e =>
        ⟨.error, origin, "run halted",
          [("host", t.host), ("kind", e.kind.quoted), ("remaining", toString (total - index))]⟩
    { o with trace := o.trace ++ [.log record] }

/-- Tasks from the one at place `index` on. -/
def tasksFrom (c : Connector σ) (g : Settings) (total : Nat) :
    Nat → List Task → Step σ (List ServerReport)
  | _, [] => return []
  | index, t :: ts => do
    let r ← task c g total index t
    let rs ← tasksFrom c g total (index + 1) ts
    return r :: rs

/-- All tasks; the recap tells what was done. -/
def tasks (c : Connector σ) (g : Settings) (ts : List Task) : Step σ RunRecap := do
  return { servers := ← tasksFrom c g ts.length 1 ts }

/-- All tasks, and the recap shown with the time it took. -/
def report (c : Connector σ) (g : Settings) (nanoseconds : Nat) (ts : List Task) :
    Step σ RunRecap := do
  let r := { (← tasks c g ts) with nanoseconds }
  Step.print (g.terminal.recap r)
  return r

end Rollout.Run
