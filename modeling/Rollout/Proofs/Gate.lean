import Rollout.Program
import Rollout.Proofs.Answers
import Rollout.Proofs.Places
import Rollout.Proofs.Sessions
import Rollout.Script

/-!
# What a run needs before it contacts a server

Only `run` contacts servers, and only when all of this has gone well: the descriptor was loaded and
compiled, a task is left, its plan was shown, the run was confirmed, and a password was supplied if one
was to be asked for.

* `Cleared` holds all of that, and `Unprepared`, `Unanswered`, `Declined`, `Unsupplied` and
  `Interrupted` are what can go otherwise.
* `Quiet` outcomes contact nobody: `quiet_unprepared` and so on for each of these.
* `run_cleared`: the plan stands before the first call, and the calls are visits to the tasks shown.
* `start_gated`: the same for the whole program, and its exit status.
-/

namespace Rollout

/-- The descriptor that an action is for. -/
def CommandLine.Action.descriptor : CommandLine.Action → String
  | .run r => r.descriptor
  | .plan path _ => path
  | .validate path => path

theorem Visit.ne_nil {target : Target} {l : List Event} (h : Visit target l) : l ≠ [] := by
  cases h <;> simp

/-- The first server is contacted in any case. -/
theorem Run.calls_tasks_ne_nil {σ : Type} (c : Connector σ) (g : Settings) {ts : List Task}
    (hts : ts ≠ []) (s : σ) : calls (Run.tasks c g ts s).trace ≠ [] := by
  obtain ⟨t, ts, rfl⟩ := List.exists_cons_of_ne_nil hts
  rw [Run.tasks_eq]
  have hvisit := execute_visit (c := c) (g := g) t s
  rcases hexecute : Engine.execute c g t s with ⟨e | report, s₁, l⟩
  · obtain ⟨record, htask⟩ := Run.task_eq (t :: ts).length 1 hexecute
    rw [Run.tasksFrom_error htask]
    rw [hexecute] at hvisit
    simpa [Event.isCall] using hvisit.ne_nil
  · obtain ⟨record, htask⟩ := Run.task_eq (t :: ts).length 1 hexecute
    rw [Run.tasksFrom_ok htask]
    rw [hexecute] at hvisit
    simp [Event.isCall, hvisit.ne_nil]

end Rollout

namespace Rollout.Program

open CommandLine (Request RunRequest)

variable {σ : Type} {w : World σ} {s : σ} {q : Request} {r : RunRequest} {path : String}
  {limit : Option String} {ts : List Task} {fallback : Option String}

/-! ## What can be at hand -/

/-- The tasks that are left: the whole descriptor is loaded and compiled, and then limited. -/
def Prepared (w : World σ) (s : σ) (path : String) (limit : Option String) (ts : List Task) : Prop :=
  ∃ d all, Descriptor.load (w.connector.files s) path w.report = .ok d ∧ d.compile = .ok all ∧
    ts = Task.limit limit all

/-- The descriptor cannot be loaded, or it does not compile. -/
inductive Unprepared (w : World σ) (s : σ) (path : String) : Prop
  | unloaded {e} : Descriptor.load (w.connector.files s) path w.report = .error e → Unprepared w s path
  | uncompiled {d e} : Descriptor.load (w.connector.files s) path w.report = .ok d → d.compile = .error e →
      Unprepared w s path

/-- The run was confirmed, beforehand or by the first line of the input. -/
def Confirmed (w : World σ) (r : RunRequest) : Prop :=
  r.yes = true ∨
    ∃ line text, Plan.FirstLine w.input line ∧ line = Utf8.encode text ∧ Plan.SaysYes text

/-- The answer was something else than yes. -/
def Declined (w : World σ) (r : RunRequest) : Prop :=
  r.yes = false ∧
    ∃ line text, Plan.FirstLine w.input line ∧ line = Utf8.encode text ∧ ¬Plan.SaysYes text

/-- The answer cannot be read. -/
def Unanswered (w : World σ) (r : RunRequest) : Prop :=
  r.yes = false ∧ ∃ line, Plan.FirstLine w.input line ∧ ∀ text, line ≠ Utf8.encode text

/-- The password for servers without one: none, or a typed line that is not blank if one is asked
for. -/
inductive Supplied (w : World σ) (r : RunRequest) : Option String → Prop
  | unasked : r.askPass = false → Supplied w r none
  | typed {keys line} : r.askPass = true → w.keys = some keys →
      Password.typed keys = .line line → ¬(∀ c ∈ line, Text.isBlank c = true) →
      Supplied w r (some (String.ofList (Text.trim line)))

/-- No password can be read: there is no terminal, the keys end too soon, or the line is blank. -/
def Unsupplied (w : World σ) (r : RunRequest) : Prop :=
  r.askPass = true ∧ (w.keys = none ∨ ∃ keys, w.keys = some keys ∧
    (Password.typed keys = .endOfInput ∨
      ∃ line, Password.typed keys = .line line ∧ ∀ c ∈ line, Text.isBlank c = true))

/-- The program was interrupted at the password. -/
def Interrupted (w : World σ) (r : RunRequest) : Prop :=
  r.askPass = true ∧ ∃ keys, w.keys = some keys ∧ Password.typed keys = .interrupted

/-- All that must hold before a server is contacted. -/
structure Cleared (w : World σ) (s : σ) (r : RunRequest) (ts : List Task)
    (fallback : Option String) : Prop where
  prepared : Prepared w s r.descriptor r.limit ts
  nonempty : ts ≠ []
  confirmed : Confirmed w r
  supplied : Supplied w r fallback

/-! ## The steps before a run -/

theorem load_error {e : DeployError} (h : Descriptor.load (w.connector.files s) path w.report = .error e) :
    load w path s = ⟨.error e, s, []⟩ := by
  unfold load
  rw [Step.bind_ok Step.get_eq, Step.bind_error (Step.ofExcept_eq _ |>.trans (by rw [h]))]
  rfl

theorem load_ok {d : Descriptor} (h : Descriptor.load (w.connector.files s) path w.report = .ok d) :
    ∃ record, load w path s = ⟨.ok d, s, [.log record]⟩ := by
  unfold load
  rw [Step.bind_ok Step.get_eq, Step.bind_ok (Step.ofExcept_eq _ |>.trans (by rw [h])),
    Step.bind_ok (Step.log_eq _), Step.pure_eq]
  exact ⟨_, rfl⟩

theorem tasks_prepared (h : Prepared w s path limit ts) :
    ∃ l, calls l = [] ∧ tasks w path limit s = ⟨.ok ts, s, l⟩ := by
  obtain ⟨d, all, hd, hall, rfl⟩ := h
  obtain ⟨record, hload⟩ := load_ok hd
  refine ⟨[.log record], rfl, ?_⟩
  unfold tasks
  rw [Step.bind_ok hload, hall]
  rfl

theorem tasks_unprepared (h : Unprepared w s path) :
    ∃ e l, calls l = [] ∧ tasks w path limit s = ⟨.error e, s, l⟩ := by
  cases h with
  | @unloaded e hd =>
    refine ⟨e, [], rfl, ?_⟩
    unfold tasks
    rw [Step.bind_error (load_error hd)]
  | @uncompiled d e hd hall =>
    obtain ⟨record, hload⟩ := load_ok hd
    refine ⟨.compile e, [.log record], rfl, ?_⟩
    unfold tasks
    rw [Step.bind_ok hload, hall]
    rfl

theorem unprepared_or_prepared (w : World σ) (s : σ) (path : String) (limit : Option String) :
    Unprepared w s path ∨ ∃ ts, Prepared w s path limit ts := by
  rcases hd : Descriptor.load (w.connector.files s) path w.report with e | d
  · exact .inl (.unloaded hd)
  rcases hall : d.compile with e | all
  · exact .inl (.uncompiled hd hall)
  · exact .inr ⟨_, d, all, hd, hall, rfl⟩

/-- Without a word beforehand, the question is asked and the answer decides. -/
theorem approve_asked (s : σ) (hyes : r.yes = false) :
    approve w r.yes s =
      ⟨((Plan.answer w.input).1.map .ok).getD (.error unreadAnswer), s, [.ask Plan.question]⟩ := by
  unfold approve
  rw [if_neg (by simp [hyes]), Step.bind_ok (Step.emit_eq _), Step.ofExcept_eq]
  rfl

theorem approve_confirmed (s : σ) (h : Confirmed w r) :
    ∃ l, calls l = [] ∧ approve w r.yes s = ⟨.ok true, s, l⟩ := by
  by_cases hyes : r.yes = true
  · exact ⟨[], rfl, by rw [approve, if_pos hyes]; rfl⟩
  · obtain ⟨line, text, hfirst, hline, hsays⟩ := h.resolve_left hyes
    have ha := Plan.answer_eq_some_iff.mpr ⟨line, text, hfirst, hline, iff_of_true rfl hsays⟩
    exact ⟨[.ask Plan.question], rfl, by rw [approve_asked s (by simpa using hyes), ha]; rfl⟩

theorem approve_declined (s : σ) (h : Declined w r) :
    ∃ l, calls l = [] ∧ approve w r.yes s = ⟨.ok false, s, l⟩ := by
  obtain ⟨hyes, line, text, hfirst, hline, hsays⟩ := h
  have ha : (Plan.answer w.input).1 = some false :=
    Plan.answer_eq_some_iff.mpr ⟨line, text, hfirst, hline, iff_of_false (by simp) hsays⟩
  exact ⟨[.ask Plan.question], rfl, by rw [approve_asked s hyes, ha]; rfl⟩

theorem approve_unanswered (s : σ) (h : Unanswered w r) :
    ∃ l, calls l = [] ∧ approve w r.yes s = ⟨.error unreadAnswer, s, l⟩ := by
  obtain ⟨hyes, hline⟩ := h
  have ha := Plan.answer_eq_none_iff.mpr hline
  exact ⟨[.ask Plan.question], rfl, by rw [approve_asked s hyes, ha]; rfl⟩

theorem confirmed_cases (w : World σ) (r : RunRequest) :
    Unanswered w r ∨ Declined w r ∨ Confirmed w r := by
  cases hyes : r.yes with
  | true => exact .inr (.inr (.inl hyes))
  | false =>
    rcases ha : (Plan.answer w.input).1 with _ | b
    · exact .inl ⟨hyes, Plan.answer_eq_none_iff.mp ha⟩
    · obtain ⟨line, text, hfirst, hline, hb⟩ := Plan.answer_eq_some_iff.mp ha
      by_cases hsays : Plan.SaysYes text
      · exact .inr (.inr (.inr ⟨line, text, hfirst, hline, hsays⟩))
      · exact .inr (.inl ⟨hyes, line, text, hfirst, hline, hsays⟩)

/-- If a password is to be asked for, what is typed decides. -/
theorem withPassword_asked (q : Request) (ts : List Task) (s : σ) (hask : r.askPass = true) :
    withPassword w q r ts s = Rollout.Outcome.after [.askHidden Password.prompt]
      (match Password.ask w.keys with
      | none => ⟨.ok .interrupted, s, []⟩
      | some (.error e) => ⟨.error e, s, []⟩
      | some (.ok password) => perform w q r (some password) ts s) := by
  unfold withPassword
  rw [if_pos hask, Step.bind_ok (Step.emit_eq _)]
  rcases Password.ask w.keys with _ | e | password <;> rfl

theorem withPassword_supplied (q : Request) (ts : List Task) (s : σ) (h : Supplied w r fallback) :
    ∃ l, calls l = [] ∧ withPassword w q r ts s = (perform w q r fallback ts s).after l := by
  cases h with
  | unasked hask => exact ⟨[], rfl, by rw [withPassword, if_neg (by simp [hask])]; rfl⟩
  | typed hask hkeys htyped hline =>
    have hp := Password.ask_eq_ok_iff.mpr ⟨_, _, hkeys, htyped, hline, rfl⟩
    exact ⟨[.askHidden Password.prompt], rfl, by rw [withPassword_asked q ts s hask, hp]⟩

theorem withPassword_unsupplied (q : Request) (ts : List Task) (s : σ) (h : Unsupplied w r) :
    ∃ e l, calls l = [] ∧ withPassword w q r ts s = ⟨.error e, s, l⟩ := by
  obtain ⟨hask, h⟩ := h
  obtain ⟨e, hp⟩ := Password.ask_eq_error_iff.mpr h
  exact ⟨e, [.askHidden Password.prompt], rfl, by rw [withPassword_asked q ts s hask, hp]; rfl⟩

theorem withPassword_interrupted (q : Request) (ts : List Task) (s : σ) (h : Interrupted w r) :
    ∃ l, calls l = [] ∧ withPassword w q r ts s = ⟨.ok .interrupted, s, l⟩ := by
  obtain ⟨hask, keys, hkeys, htyped⟩ := h
  have hp : Password.ask w.keys = none := by simp [Password.ask, hkeys, htyped]
  exact ⟨[.askHidden Password.prompt], rfl, by rw [withPassword_asked q ts s hask, hp]; rfl⟩

theorem supplied_cases (w : World σ) (r : RunRequest) :
    Unsupplied w r ∨ Interrupted w r ∨ ∃ fallback, Supplied w r fallback := by
  cases hask : r.askPass with
  | false => exact .inr (.inr ⟨none, .unasked hask⟩)
  | true =>
    rcases hkeys : w.keys with _ | keys
    · exact .inl ⟨hask, .inl hkeys⟩
    rcases htyped : Password.typed keys with line | _ | _
    · by_cases hline : ∀ c ∈ line, Text.isBlank c = true
      · exact .inl ⟨hask, .inr ⟨keys, hkeys, .inr ⟨line, htyped, hline⟩⟩⟩
      · exact .inr (.inr ⟨_, .typed hask hkeys htyped hline⟩)
    · exact .inl ⟨hask, .inr ⟨keys, hkeys, .inl htyped⟩⟩
    · exact .inr (.inl ⟨hask, keys, hkeys, htyped⟩)

/-! ## The run -/

/-- The tasks of a run, from the state in which it begins. -/
def performed (w : World σ) (q : Request) (r : RunRequest) (fallback : Option String)
    (ts : List Task) (s : σ) : Rollout.Outcome σ RunRecap :=
  Run.tasks { w.connector with today := fun _ => w.date }
    { terminal := { verbose := q.verbose, quiet := q.quiet }, fallback } ts
    (w.prepare r.timeout (if r.yes then w.input else afterQuestion w.input) s)

/-- What is shown of a run makes no calls of its own. -/
theorem perform_eq (w : World σ) (q : Request) (r : RunRequest) (fallback : Option String)
    (ts : List Task) (s : σ) :
    (perform w q r fallback ts s).result =
        (performed w q r fallback ts s).result.map (fun _ => .complete) ∧
      calls (perform w q r fallback ts s).trace = calls (performed w q r fallback ts s).trace := by
  unfold perform
  rw [Step.bind_ok (Step.modify_eq _), Step.bind_ok (Step.log_eq _)]
  rcases h : performed w q r fallback ts s with ⟨e | recap, s', l⟩
  · rw [Step.bind_error (Run.report_error h)]
    simp [Rollout.Outcome.after, Except.map, Event.isCall]
  · rw [Step.bind_ok (Run.report_ok h), Step.pure_eq]
    simp [Rollout.Outcome.after, Except.map, Event.isCall]

/-- The calls of a run are visits to its tasks, in their order. -/
theorem performed_visits (w : World σ) (q : Request) (r : RunRequest) (fallback : Option String)
    (ts : List Task) (s : σ) :
    ∃ visits : List (List Event), calls (performed w q r fallback ts s).trace = visits.flatten ∧
      List.Forall₂ (fun t l => Visit ⟨t.host, t.port, t.username,
        if t.password = "" then fallback.getD "" else t.password⟩ l) (ts.take visits.length)
        visits := by
  unfold performed
  rw [Run.tasks_eq]
  obtain ⟨visits, hl, hvisits, -⟩ := tasksFrom_visits
    (c := { w.connector with today := fun _ => w.date })
    (g := { terminal := { verbose := q.verbose, quiet := q.quiet }, fallback }) ts.length ts 1
    (w.prepare r.timeout (if r.yes then w.input else afterQuestion w.input) s)
  exact ⟨visits, hl, by simpa only [targetOf_eq] using hvisits⟩

/-- A run with tasks shows them, and asks. -/
theorem run_shown (q : Request) (h : Prepared w s r.descriptor r.limit ts) (hts : ts ≠ [])
    {l : List Event} {answer : Except DeployError Bool}
    (ha : approve w r.yes s = ⟨answer, s, l⟩) :
    ∃ before, calls before = [] ∧ run w q r s =
      Rollout.Outcome.after (before ++ (Plan.lines ts).map .print ++ l)
        (match answer with
        | .error e => ⟨.error e, s, []⟩
        | .ok true => withPassword w q r ts s
        | .ok false => ⟨.ok .complete, s, cancelledLines.map .print⟩) := by
  obtain ⟨before, hbefore, htasks⟩ := tasks_prepared h
  refine ⟨before, hbefore, ?_⟩
  unfold run
  rw [Step.bind_ok htasks, if_neg (by simpa using hts), Step.bind_ok (Step.print_eq _)]
  rcases answer with e | _ | _
  · rw [Step.bind_error ha]
    simp [Rollout.Outcome.after]
  · rw [Step.bind_ok ha, if_neg (by simp), Step.bind_ok (Step.print_eq _), Step.pure_eq]
    simp [Rollout.Outcome.after]
  · rw [Step.bind_ok ha]
    simp [Rollout.Outcome.after]

/-! ## What becomes of an action -/

/-- An outcome in which no server was contacted. -/
structure Quiet (o : Rollout.Outcome σ Finish) (result : Except DeployError Finish) : Prop where
  result : o.result = result
  calls : calls o.trace = []

/-- Every action begins with the tasks. -/
theorem quiet_unprepared {k : List Task → Step σ Finish} (h : Unprepared w s path) :
    ∃ e, Quiet ((tasks w path limit >>= k) s) (.error e) := by
  obtain ⟨e, l, hl, htasks⟩ := tasks_unprepared h
  rw [Step.bind_error htasks]
  exact ⟨e, rfl, hl⟩

theorem run_nothing (q : Request) (h : Prepared w s r.descriptor r.limit []) :
    Quiet (run w q r s) (.ok .complete) := by
  obtain ⟨l, hl, htasks⟩ := tasks_prepared h
  unfold run
  rw [Step.bind_ok htasks, if_pos List.isEmpty_nil, Step.bind_ok (Step.print_eq _), Step.pure_eq]
  exact ⟨rfl, by simp [Rollout.Outcome.after, hl]⟩

theorem run_unanswered (q : Request) (h : Prepared w s r.descriptor r.limit ts) (hts : ts ≠ [])
    (ha : Unanswered w r) : Quiet (run w q r s) (.error unreadAnswer) := by
  obtain ⟨l, hl, happrove⟩ := approve_unanswered s ha
  obtain ⟨before, hbefore, hrun⟩ := run_shown q h hts happrove
  rw [hrun]
  exact ⟨rfl, by simp [Rollout.Outcome.after, hbefore, hl]⟩

theorem run_declined (q : Request) (h : Prepared w s r.descriptor r.limit ts) (hts : ts ≠ [])
    (ha : Declined w r) : Quiet (run w q r s) (.ok .complete) := by
  obtain ⟨l, hl, happrove⟩ := approve_declined s ha
  obtain ⟨before, hbefore, hrun⟩ := run_shown q h hts happrove
  rw [hrun]
  exact ⟨rfl, by simp [Rollout.Outcome.after, hbefore, hl]⟩

theorem run_confirmed (q : Request) (h : Prepared w s r.descriptor r.limit ts) (hts : ts ≠ [])
    (ha : Confirmed w r) :
    ∃ before l, calls before = [] ∧ calls l = [] ∧ run w q r s =
      (withPassword w q r ts s).after (before ++ (Plan.lines ts).map .print ++ l) := by
  obtain ⟨l, hl, happrove⟩ := approve_confirmed s ha
  obtain ⟨before, hbefore, hrun⟩ := run_shown q h hts happrove
  exact ⟨before, l, hbefore, hl, hrun⟩

theorem run_unsupplied (q : Request) (h : Prepared w s r.descriptor r.limit ts) (hts : ts ≠ [])
    (ha : Confirmed w r) (hp : Unsupplied w r) : ∃ e, Quiet (run w q r s) (.error e) := by
  obtain ⟨before, l, hbefore, hl, hrun⟩ := run_confirmed q h hts ha
  obtain ⟨e, l', hl', hpassword⟩ := withPassword_unsupplied q ts s hp
  rw [hrun, hpassword]
  exact ⟨e, rfl, by simp [Rollout.Outcome.after, hbefore, hl, hl']⟩

theorem run_interrupted (q : Request) (h : Prepared w s r.descriptor r.limit ts) (hts : ts ≠ [])
    (ha : Confirmed w r) (hp : Interrupted w r) : Quiet (run w q r s) (.ok .interrupted) := by
  obtain ⟨before, l, hbefore, hl, hrun⟩ := run_confirmed q h hts ha
  obtain ⟨l', hl', hpassword⟩ := withPassword_interrupted q ts s hp
  rw [hrun, hpassword]
  exact ⟨rfl, by simp [Rollout.Outcome.after, hbefore, hl, hl']⟩

/-- **A run that is cleared** has shown its tasks before the first call, and then makes the calls of the
tasks. -/
theorem run_cleared (q : Request) (h : Cleared w s r ts fallback) :
    (run w q r s).result = (performed w q r fallback ts s).result.map (fun _ => .complete) ∧
      ∃ before after, (run w q r s).trace = before ++ (Plan.lines ts).map .print ++ after ∧
        calls before = [] ∧ calls after = calls (performed w q r fallback ts s).trace := by
  obtain ⟨before, l, hbefore, hl, hrun⟩ := run_confirmed q h.prepared h.nonempty h.confirmed
  obtain ⟨l', hl', hpassword⟩ := withPassword_supplied q ts s h.supplied
  obtain ⟨hresult, hcalls⟩ := perform_eq w q r fallback ts s
  rw [hrun, hpassword]
  refine ⟨hresult, before, l ++ (l' ++ (perform w q r fallback ts s).trace), ?_, hbefore, ?_⟩
  · simp [Rollout.Outcome.after]
  · simp [hl, hl', hcalls]

theorem plan_prepared (h : Prepared w s path limit ts) :
    Quiet (plan w path limit s) (.ok .complete) := by
  obtain ⟨l, hl, htasks⟩ := tasks_prepared h
  unfold plan
  rw [Step.bind_ok htasks, Step.bind_ok (Step.print_eq _), Step.pure_eq]
  exact ⟨rfl, by simp [Rollout.Outcome.after, hl]⟩

theorem validate_prepared (h : Prepared w s path none ts) :
    Quiet (validate w path s) (.ok .complete) := by
  obtain ⟨l, hl, htasks⟩ := tasks_prepared h
  unfold validate
  rw [Step.bind_ok htasks, Step.bind_ok (Step.print_eq _), Step.pure_eq]
  exact ⟨rfl, by simp [Rollout.Outcome.after, hl, Event.isCall]⟩

/-- The ways in which an action fails. -/
inductive Fails (w : World σ) (s : σ) (q : Request) : Prop
  | preparing : Unprepared w s q.action.descriptor → Fails w s q
  | answering {r : RunRequest} {ts : List Task} : q.action = .run r →
      Prepared w s r.descriptor r.limit ts → ts ≠ [] → Unanswered w r → Fails w s q
  | supplying {r : RunRequest} {ts : List Task} : q.action = .run r →
      Prepared w s r.descriptor r.limit ts → ts ≠ [] → Confirmed w r → Unsupplied w r →
      Fails w s q
  | running {r : RunRequest} {ts : List Task} {fallback : Option String} {e : DeployError} :
      q.action = .run r → Cleared w s r ts fallback →
      (performed w q r fallback ts s).result = .error e → Fails w s q

theorem act_unprepared (h : Unprepared w s q.action.descriptor) :
    ∃ e, Quiet (act w q s) (.error e) := by
  unfold act
  rcases hq : q.action with r | ⟨path, limit⟩ | path <;> rw [hq] at h
  · exact quiet_unprepared h
  · exact quiet_unprepared h
  · exact quiet_unprepared h

theorem act_run (hq : q.action = .run r) : act w q s = run w q r s := by
  unfold act
  rw [hq]

/-- An action fails or ends before a server is contacted, or it is a run that is cleared. -/
theorem act_course (w : World σ) (q : Request) (s : σ) :
    (Fails w s q ∧ ∃ e, Quiet (act w q s) (.error e)) ∨ (∃ f, Quiet (act w q s) (.ok f)) ∨
      ∃ r ts fallback, q.action = .run r ∧ Cleared w s r ts fallback := by
  -- Without a descriptor all actions end alike; with one, only `run` goes beyond showing the tasks.
  by_cases hd : Unprepared w s q.action.descriptor
  · exact .inl ⟨.preparing hd, act_unprepared hd⟩
  have hprepared (limit : Option String) : ∃ ts, Prepared w s q.action.descriptor limit ts :=
    (unprepared_or_prepared w s _ limit).resolve_left hd
  rcases hq : q.action with r | ⟨path, limit⟩ | path <;> rw [hq] at hprepared
  · obtain ⟨ts, h⟩ := hprepared r.limit
    rw [act_run hq]
    by_cases hts : ts = []
    · subst hts
      exact .inr (.inl ⟨_, run_nothing q h⟩)
    rcases confirmed_cases w r with ha | ha | ha
    · exact .inl ⟨.answering hq h hts ha, _, run_unanswered q h hts ha⟩
    · exact .inr (.inl ⟨_, run_declined q h hts ha⟩)
    rcases supplied_cases w r with hp | hp | ⟨fallback, hp⟩
    · exact .inl ⟨.supplying hq h hts ha hp, run_unsupplied q h hts ha hp⟩
    · exact .inr (.inl ⟨_, run_interrupted q h hts ha hp⟩)
    · exact .inr (.inr ⟨r, ts, fallback, rfl, h, hts, ha, hp⟩)
  · obtain ⟨ts, h⟩ := hprepared limit
    refine .inr (.inl ⟨.complete, ?_⟩)
    unfold act
    rw [hq]
    exact plan_prepared h
  · obtain ⟨ts, h⟩ := hprepared none
    refine .inr (.inl ⟨.complete, ?_⟩)
    unfold act
    rw [hq]
    exact validate_prepared h

/-- **Servers are contacted by runs that are cleared**, and by nothing else. -/
theorem act_contacts_iff : calls (act w q s).trace ≠ [] ↔
    ∃ r ts fallback, q.action = .run r ∧ Cleared w s r ts fallback := by
  constructor
  · intro h
    -- The other courses are quiet, so the calls tell which one was taken.
    rcases act_course w q s with ⟨-, e, hquiet⟩ | ⟨f, hquiet⟩ | hcleared
    · exact absurd hquiet.calls h
    · exact absurd hquiet.calls h
    · exact hcleared
  · rintro ⟨r, ts, fallback, hq, h⟩
    obtain ⟨-, before, after, htrace, hbefore, hafter⟩ := run_cleared q h
    rw [act_run hq, htrace, calls_append, hafter]
    exact List.append_ne_nil_of_right_ne_nil _ (Run.calls_tasks_ne_nil _ _ h.nonempty _)

theorem act_error_iff : (∃ e, (act w q s).result = .error e) ↔ Fails w s q := by
  constructor
  · rintro ⟨e, he⟩
    rcases act_course w q s with ⟨h, -⟩ | ⟨f, hquiet⟩ | ⟨r, ts, fallback, hq, h⟩
    · exact h
    · rw [hquiet.result] at he
      cases he
    · rw [act_run hq, (run_cleared q h).1] at he
      rcases hr : (performed w q r fallback ts s).result with e' | recap
      · exact .running hq h hr
      · rw [hr] at he
        cases he
  · intro h
    cases h with
    | preparing hd =>
      obtain ⟨e, hquiet⟩ := act_unprepared hd
      exact ⟨e, hquiet.result⟩
    | answering hq h hts ha => exact ⟨_, by rw [act_run hq, (run_unanswered q h hts ha).result]⟩
    | supplying hq h hts ha hp =>
      obtain ⟨e, hquiet⟩ := run_unsupplied q h hts ha hp
      exact ⟨e, by rw [act_run hq, hquiet.result]⟩
    | running hq h hr => exact ⟨_, by rw [act_run hq, (run_cleared q h).1, hr]; rfl⟩

/-! ## The program -/

theorem start_error {arguments : List String} {reply : CommandLine.Reply}
    (h : CommandLine.request arguments = .error reply) :
    start w arguments s = ⟨.replied reply, s, [], .warn⟩ := by
  unfold start
  rw [h]

theorem start_trace {arguments : List String} (h : CommandLine.request arguments = .ok q) :
    (start w arguments s).trace = (act w q s).trace := by
  unfold start
  rw [h]

theorem start_ending {arguments : List String} (h : CommandLine.request arguments = .ok q) :
    (start w arguments s).ending = endingOf (act w q s).result := by
  unfold start
  rw [h]

theorem endingOf_status_eq_one {result : Except DeployError Finish} :
    (endingOf result).status = some 1 ↔ ∃ e, result = .error e := by
  rcases result with e | _ | _ <;> simp [endingOf, Ending.status]

theorem replied_status_ne_one (reply : CommandLine.Reply) :
    (Ending.replied reply).status ≠ some 1 := by
  rcases h : reply.isWanted <;> simp [Ending.status, h]

/-- The end of the input says no. -/
theorem declined_of_endOfInput (hyes : r.yes = false) (hinput : w.input = []) : Declined w r := by
  refine ⟨hyes, [], [], by rw [hinput]; exact .last (by simp), rfl, ?_⟩
  rw [← Plan.isYes_iff]
  decide

/-- **The program contacts servers only for a run that is cleared**: loaded and compiled as a whole,
with a task left, confirmed, and with a password that is not blank if one is to be asked for. It has
then shown the tasks that are left before it contacts the first server, and it contacts no others. To
plan and to validate contacts nobody. The exit status is 1 if and only if loading, compiling, reading
an answer, reading a password or running failed, and it is 0 if nothing was left to run or the answer
was no. -/
theorem start_gated (w : World σ) (arguments : List String) (s : σ) :
    let o := start w arguments s
    (calls o.trace ≠ [] ↔ ∃ q r ts fallback, CommandLine.request arguments = .ok q ∧
      q.action = .run r ∧ Cleared w s r ts fallback) ∧
    (∀ q r ts fallback, CommandLine.request arguments = .ok q → q.action = .run r →
      Cleared w s r ts fallback →
      ∃ before after, o.trace = before ++ (Plan.lines ts).map .print ++ after ∧ calls before = [] ∧
        ∃ visits : List (List Event), calls after = visits.flatten ∧
          List.Forall₂ (fun t l => Visit ⟨t.host, t.port, t.username,
            if t.password = "" then fallback.getD "" else t.password⟩ l)
            (ts.take visits.length) visits) ∧
    (∀ q, CommandLine.request arguments = .ok q → (∀ r, q.action ≠ .run r) → calls o.trace = []) ∧
    (o.ending.status = some 1 ↔ ∃ q, CommandLine.request arguments = .ok q ∧ Fails w s q) ∧
    ∀ q r ts, CommandLine.request arguments = .ok q → q.action = .run r →
      Prepared w s r.descriptor r.limit ts →
      ts = [] ∨ Declined w r ∨ r.yes = false ∧ w.input = [] →
      o.ending.status = some 0 ∧ calls o.trace = [] := by
  intro o
  have hcontacts : calls o.trace ≠ [] ↔ ∃ q r ts fallback, CommandLine.request arguments = .ok q ∧
      q.action = .run r ∧ Cleared w s r ts fallback := by
    rcases hq : CommandLine.request arguments with reply | q
    · simp [o, start_error hq]
    · simp [o, start_trace hq, act_contacts_iff]
  refine ⟨hcontacts, ?_, ?_, ?_, ?_⟩
  · intro q r ts fallback hrequest hq h
    obtain ⟨-, before, after, htrace, hbefore, hafter⟩ := run_cleared q h
    obtain ⟨visits, hvisits, htasks⟩ := performed_visits w q r fallback ts s
    refine ⟨before, after, ?_, hbefore, visits, hafter.trans hvisits, htasks⟩
    simp only [o, start_trace hrequest, act_run hq, htrace]
  · intro q hrequest hq
    by_contra h
    obtain ⟨q', r, ts, fallback, hrequest', hq', -⟩ := hcontacts.mp h
    cases hrequest.symm.trans hrequest'
    exact hq r hq'
  · rcases hq : CommandLine.request arguments with reply | q
    · simpa [o, start_error hq] using replied_status_ne_one reply
    · simp [o, start_ending hq, endingOf_status_eq_one, act_error_iff]
  · intro q r ts hrequest hq h hend
    have hquiet : Quiet (act w q s) (.ok .complete) := by
      rw [act_run hq]
      by_cases hts : ts = []
      · subst hts
        exact run_nothing q h
      rcases hend with rfl | hdeclined | ⟨hyes, hinput⟩
      · exact absurd rfl hts
      · exact run_declined q h hts hdeclined
      · exact run_declined q h hts (declined_of_endOfInput hyes hinput)
    simp only [o, start_trace hrequest, start_ending hrequest, hquiet.result]
    exact ⟨rfl, hquiet.calls⟩

/-- A descriptor of one server and one command. -/
def oneCommand : Descriptor := ⟨[], [⟨"h", 22, "u", "", [⟨true, 0, ["ls"], []⟩]⟩]⟩

/-- The same as a text. -/
def oneCommandText : String :=
  "\x7b\"servers\":[\x7b\"host\":\"h\",\"username\":\"u\",\"packages\":[" ++
    "\x7b\"enable\":true,\"commands\":[\"ls\"]\x7d]\x7d]\x7d"

/-- A tree with one file, `d`. -/
def oneFile (text : String) : Tree := { nodes := [([['d']], .file text.utf8 (.given 0))] }

theorem readText_oneFile (text : String) : (oneFile text).readText ['d'] = .ok text := by
  have hread : (oneFile text).load ['d'] = .ok text.utf8 := rfl
  unfold Tree.readText
  rw [hread]
  simp only [bind, Except.bind, String.ofUtf8?_utf8]
  rfl

set_option maxRecDepth 2000 in
theorem load_oneFile : Descriptor.load (oneFile oneCommandText) "d" = .ok oneCommand := by
  have hpath : "d".toList = ['d'] := rfl
  have hformat : Descriptor.formatOf "d" = .json := rfl
  have hparse : Descriptor.parse oneCommandText .json = .ok oneCommand := rfl
  unfold Descriptor.load
  rw [hpath, readText_oneFile, hformat]
  exact hparse

theorem start_gated_script :
    let w : World Script.State :=
      { connector := Script.connector {}, prepare := fun _ _ s => s, input := "Yes\n".utf8,
        keys := none, date := .newYear2024, nanoseconds := 0 }
    let s : Script.State := { files := oneFile oneCommandText, used := [] }
    calls (start w ["run", "d"] s).trace ≠ [] ∧
      calls (start { w with input := [] } ["run", "d"] s).trace = [] := by
  intro w s
  have hcompile : oneCommand.compile = .ok [⟨"h", 22, "u", "", ["ls"]⟩] := by
    simp [oneCommand, Descriptor.compile, Server.compile, Server.schedule, Server.commands,
      Package.compile, Package.resolve, bind, Except.bind, pure, Except.pure]
    rfl
  have hrequest : CommandLine.request ["run", "d"] =
      .ok ⟨false, false, .run ⟨"d", false, none, 30, false⟩⟩ := rfl
  have hprepared : Prepared w s "d" none [⟨"h", 22, "u", "", ["ls"]⟩] :=
    ⟨_, _, load_oneFile, hcompile, rfl⟩
  have hfirst : Plan.FirstLine w.input w.input := @Plan.FirstLine.ended "Yes".utf8 [] (by decide)
  have hblank : ∀ c ∈ ['\n'], Text.isBlank c = true := by
    intro c hc
    rw [List.mem_singleton.mp hc]
    rfl
  have hsays : Plan.SaysYes "Yes\n".toList :=
    @Plan.SaysYes.intro [] "Yes".toList ['\n'] (by simp) hblank (.inr rfl)
  constructor
  · exact (start_gated w ["run", "d"] s).1.mpr ⟨_, _, _, none, hrequest, rfl, hprepared, by simp,
      .inr ⟨_, _, hfirst, rfl, hsays⟩, .unasked rfl⟩
  · exact ((start_gated { w with input := [] } ["run", "d"] s).2.2.2.2 _ _ _ hrequest rfl hprepared
      (.inr (.inr ⟨rfl, rfl⟩))).2

end Rollout.Program
