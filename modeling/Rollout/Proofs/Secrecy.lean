import Rollout.Outside
import Rollout.Program
import Rollout.Proofs.Alike
import Rollout.Script

/-!
# Passwords are shown to no one

Two lists of tasks that differ in passwords cannot be told apart by what the program writes about them:
in the plan, in what is shown and noted while they run, and in the error if one of them fails.

* `perform_alike`: a run as the program makes it, with its settings and its date.
* `passwords_concealed`: everything that is written is the same.
-/

namespace Rollout

variable {σ τ : Type}

namespace Program

open CommandLine (Request RunRequest)

/-- Two worlds that differ at most in what their outsides make of passwords. -/
structure World.Alike (R : σ → τ → Prop) (w : World σ) (w' : World τ) : Prop where
  connector : w.connector.Alike R w'.connector
  prepare {s s'} (timeout input) : R s s' → R (w.prepare timeout input s) (w'.prepare timeout input s')
  input : w'.input = w.input
  date : w'.date = w.date
  nanoseconds : w'.nanoseconds = w.nanoseconds

variable {R : σ → τ → Prop} {w : World σ} {w' : World τ} {ts ts' : List Task}

theorem perform_alike (hw : w.Alike R w') (h : ts'.map Task.concealed = ts.map Task.concealed)
    (q : Request) (r : RunRequest) (fallback fallback' : Option String) :
    Step.Alike R (perform w q r fallback ts) (perform w' q r fallback' ts') := by
  have hlength : ts'.length = ts.length := by simpa using congrArg List.length h
  have htotal : Task.totalCommands ts' = Task.totalCommands ts := by
    simpa [Task.totalCommands, Function.comp_def, Task.concealed] using
      congrArg Task.totalCommands h
  have hconnector : ({ w.connector with today := fun _ => w.date } : Connector σ).Alike R
      { w'.connector with today := fun _ => w'.date } :=
    { hw.connector with today := fun _ => hw.date }
  unfold perform
  rw [hw.input, hw.nanoseconds, hlength, htotal]
  refine .bind (fun s s' hs => ⟨rfl, hw.prepare _ _ hs, rfl⟩) fun _ => .bind (.log _) fun _ =>
    .bind (Run.report_alike hconnector ?_ _ h) fun _ => .pure _
  rfl

/-- What became of the program if this is what its action did. -/
def Outcome.ofAction (level : LogLevel) (o : Rollout.Outcome σ Finish) : Outcome σ :=
  ⟨endingOf o.result, o.state, o.trace, level⟩

theorem Screen.outputOf_concealed (screen : Screen) (e : Event) :
    screen.outputOf e.concealed = screen.outputOf e := by
  cases e <;> rfl

theorem Screen.errorsOf_concealed (screen : Screen) (level : LogLevel) (e : Event) :
    screen.errorsOf level e.concealed = screen.errorsOf level e := by
  cases e <;> rfl

end Program

/-! ### Events -/

theorem Event.isCall_concealed (e : Event) : e.concealed.isCall = e.isCall := by cases e <;> rfl

theorem Event.concealed_of_not_isCall {e : Event} (h : e.isCall = false) : e.concealed = e := by
  cases e <;> first | rfl | cases h

theorem calls_concealed (l : List Event) :
    (calls l).map Event.concealed = calls (l.map Event.concealed) := by
  rw [calls, calls, List.filter_map]
  simp only [Function.comp_def, Event.isCall_concealed]

/-- What is not a call is the same, password or not. -/
theorem notCalls_concealed (l : List Event) :
    l.filter (!·.isCall) = (l.map Event.concealed).filter (!·.isCall) := by
  rw [List.filter_map]
  simp only [Function.comp_def, Event.isCall_concealed]
  have hid : ∀ e ∈ l.filter (!·.isCall), e.concealed = id e := fun e he =>
    Event.concealed_of_not_isCall (by simpa using (List.mem_filter.1 he).2)
  rw [List.map_congr_left hid, List.map_id]

/-- What is made of tasks, but not of their passwords, is the same for tasks that differ in them. -/
theorem map_of_concealed {γ : Type} {ts ts' : List Task} {f f' : Task → γ}
    (h : ts'.map Task.concealed = ts.map Task.concealed) (k : Task → γ)
    (hf : ∀ t, f t = k t.concealed) (hf' : ∀ t, f' t = k t.concealed) :
    ts'.map f' = ts.map f := by
  simpa [funext hf, funext hf', Function.comp_def] using congrArg (List.map k) h

/-- What is made of events, but not of their passwords, is the same for traces that differ in them. -/
theorem flatMap_of_concealed {γ : Type} {l l' : List Event} {f : Event → List γ}
    (hf : ∀ e, f e.concealed = f e) (h : l'.map Event.concealed = l.map Event.concealed) :
    l'.flatMap f = l.flatMap f := by
  simpa [List.flatMap_map, hf] using congrArg (List.flatMap f) h

/-- The connector of the program notes no password. -/
theorem Outside.notes_concealed {t t' : Target} (h : t'.concealed = t.concealed) :
    connector.notes t' = connector.notes t := by
  simp only [connector, Connector.route, Ssh.connector, Target.host_of_concealed h,
    Target.label_of_concealed h]
  rfl

/-- **Passwords are shown to no one.** Take two lists of tasks that differ at most in passwords, any two
passwords for servers without one, and outsides that reply alike. Then the plan is the same, and so are
the descriptions of tasks and targets; the tasks end in the same way, with the same error if one fails;
the calls differ at most in a password, and nothing else that happens differs at all. So what is written
to the output and beside it is the same text, whatever is shown. The connector of the program, too, notes
the same for targets that differ in a password. -/
theorem passwords_concealed {R : σ → τ → Prop} {w : Program.World σ} {w' : Program.World τ}
    (hw : w.Alike R w') {s : σ} {s' : τ} (hs : R s s') {ts ts' : List Task}
    (hts : ts'.map Task.concealed = ts.map Task.concealed) (q : CommandLine.Request)
    (r : CommandLine.RunRequest) (fallback fallback' : Option String) :
    Plan.lines ts' = Plan.lines ts ∧
    ts'.map Task.describe = ts.map Task.describe ∧
    ts'.map (fun t => (t.target.withFallback fallback').label) =
      ts.map (fun t => (t.target.withFallback fallback).label) ∧
    let o := Program.perform w q r fallback ts s
    let o' := Program.perform w' q r fallback' ts' s'
    o'.result = o.result ∧
    (calls o'.trace).map Event.concealed = (calls o.trace).map Event.concealed ∧
    o'.trace.filter (!·.isCall) = o.trace.filter (!·.isCall) ∧
    (∀ (screen : Program.Screen) (level : LogLevel),
      (Program.Outcome.ofAction level o').output screen =
        (Program.Outcome.ofAction level o).output screen ∧
      (Program.Outcome.ofAction level o').errors screen =
        (Program.Outcome.ofAction level o).errors screen) ∧
    ∀ t t' : Target, t'.concealed = t.concealed →
      Outside.connector.notes t' = Outside.connector.notes t := by
  have hlabel (fallback : Option String) (t : Task) :
      (t.target.withFallback fallback).label = t.concealed.label := by
    unfold Target.withFallback
    split <;> rfl
  obtain ⟨hresult, -, htrace⟩ := Program.perform_alike hw hts q r fallback fallback' hs
  refine ⟨?_, ?_, ?_, hresult, ?_, ?_, fun screen level => ⟨?_, ?_⟩,
    fun _ _ => Outside.notes_concealed⟩
  · have hlines : ts'.map Plan.taskLines = ts.map Plan.taskLines :=
      map_of_concealed hts Plan.taskLines (fun _ => rfl) fun _ => rfl
    have hlengths : ts'.map (·.commands.length) = ts.map (·.commands.length) :=
      map_of_concealed hts (·.commands.length) (fun _ => rfl) fun _ => rfl
    have hlength : ts'.length = ts.length := by simpa using congrArg List.length hts
    simp only [Plan.lines, Task.totalCommands, hlengths, hlength, List.flatMap_def, hlines]
  · exact map_of_concealed hts Task.describe (fun _ => rfl) fun _ => rfl
  · exact map_of_concealed hts Task.label (hlabel fallback) (hlabel fallback')
  · rw [calls_concealed, calls_concealed, htrace]
  · rw [notCalls_concealed (Program.perform w q r fallback ts s).trace, ← htrace,
      ← notCalls_concealed]
  · simp only [Program.Outcome.output, Program.Outcome.ofAction, hresult,
      flatMap_of_concealed (Program.Screen.outputOf_concealed screen) htrace]
  · simp only [Program.Outcome.errors, Program.Outcome.ofAction, hresult,
      flatMap_of_concealed (Program.Screen.errorsOf_concealed screen level) htrace]

/-- A script does not look at passwords. -/
theorem Script.connector_alike (script : Script) : script.connector.Alike Eq script.connector where
  files h := by rw [h]
  connect hs h := by
    obtain rfl := hs
    simp only [connector, refusal, Target.host_of_concealed h, Target.username_of_concealed h]
    exact ⟨rfl, rfl⟩
  exec x command h := by rw [h]; exact ⟨rfl, rfl⟩
  close x h := h
  openTransfer hs h := by
    obtain rfl := hs
    simp only [connector, refusal, Target.host_of_concealed h, Target.username_of_concealed h]
    exact ⟨rfl, rfl⟩
  upload y source destination h := by rw [h]; exact ⟨rfl, rfl⟩
  closeTransfer y h := h
  notes _ := rfl
  today _ := rfl

theorem passwords_concealed_script :
    let script : Script := { replies := [⟨"false", none, [.result { exitCode := 1, stderr := "no" }]⟩] }
    let w : Program.World Script.State :=
      { connector := script.connector, prepare := fun _ _ s => s, input := [], keys := none,
        date := .newYear2024, nanoseconds := 0 }
    let s : Script.State := { files := {}, used := [0] }
    let q : CommandLine.Request := ⟨true, false, .validate ""⟩
    let r : CommandLine.RunRequest := ⟨"", true, none, 30, false⟩
    let task (host password : String) : Task := ⟨host, 22, "root", password, ["bak a", "false"]⟩
    let o := Program.perform w q r (some "typed") [task "10.0.0.1" "", task "10.0.0.2" "pw"] s
    let o' := Program.perform w q r none [task "10.0.0.1" "secret", task "10.0.0.2" ""] s
    o.result = .error (.remoteExit "10.0.0.1" "false" 1 "no") ∧ o'.result = o.result ∧
      (∃ l, calls o.trace = .connect ⟨"10.0.0.1", 22, "root", "typed"⟩ (.ok ⟨0, "10.0.0.1"⟩) :: l) ∧
      (∃ l, calls o'.trace = .connect ⟨"10.0.0.1", 22, "root", "secret"⟩ (.ok ⟨0, "10.0.0.1"⟩) :: l) ∧
      (Program.Outcome.ofAction .debug o').errors { logs := true } =
        (Program.Outcome.ofAction .debug o).errors { logs := true } := by
  intro script w s q r task o o'
  have hw : w.Alike Eq w :=
    { connector := script.connector_alike, prepare := fun _ _ h => h, input := rfl, date := rfl,
      nanoseconds := rfl }
  have hts : [task "10.0.0.1" "secret", task "10.0.0.2" ""].map Task.concealed =
      [task "10.0.0.1" "", task "10.0.0.2" "pw"].map Task.concealed := rfl
  obtain ⟨-, -, -, hresult, -, -, hwritten, -⟩ :=
    passwords_concealed hw (rfl : s = s) hts q r (some "typed") none
  exact ⟨rfl, hresult, ⟨_, rfl⟩, ⟨_, rfl⟩, (hwritten { logs := true } .debug).2⟩

end Rollout
