import Rollout.Proofs.Pairs
import Rollout.Script

/-!
# What is shown has no say in what is done

Two runs that differ in their terminals make the same calls, and end alike. A quiet one shows nothing.
Of two that are not quiet, a verbose one shows everything the other one shows, and besides it what
commands that ended well wrote as errors.

* `shown` and `unshown` are what is looked at in a trace: what a person sees, or all the rest.
* `Told T t t'`: what is asked of a relation between traces, so that it holds of runs on the terminals
  `t` and `t'`. `Told.atCalls`, `Run.report_told`: from that to single steps, and to all tasks.
* `Longer` is the relation between a trace and the one with those errors; `Longer.sublist`,
  `Longer.perm`: what they show.
* `terminals_only_show`: all of this for whole runs.
-/

namespace Rollout

/-! ## What is shown -/

/-- What a person sees of an event: a line, or a question. -/
def Event.line? : Event → Option Line
  | .print l => some l
  | .ask question => some question
  | .askHidden question => some question
  | _ => none

/-- What a person sees. -/
def shown (l : List Event) : List Line := l.filterMap Event.line?

/-- All events that a person does not see. -/
def unshown (l : List Event) : List Event := l.filter fun e => e.line?.isNone

theorem shown_append (l l' : List Event) : shown (l ++ l') = shown l ++ shown l' := List.filterMap_append

theorem shown_prints (ls : List Line) : shown (ls.map .print) = ls := by
  induction ls with
  | nil => rfl
  | cons l ls ih => exact congrArg (l :: ·) ih

theorem shown_of_line? {e : Event} (h : e.line? = none) (l : List Event) : shown (e :: l) = shown l :=
  List.filterMap_cons_none h

theorem unshown_append (l l' : List Event) : unshown (l ++ l') = unshown l ++ unshown l' :=
  List.filter_append _ _

theorem calls_unshown (l : List Event) : calls (unshown l) = calls l := by
  unfold calls unshown
  rw [List.filter_filter]
  congr 1
  funext e
  cases e <;> rfl

theorem unshown_prints (ls : List Line) : unshown (ls.map .print) = [] := by
  induction ls with
  | nil => rfl
  | cons l ls ih => exact ih

theorem unshown_of_line? {e : Event} (h : e.line? = none) (l : List Event) :
    unshown (e :: l) = e :: unshown l := by
  unfold unshown
  rw [List.filter_cons_of_pos]
  rw [h]
  rfl

/-! ## Runs on two terminals -/

/-- The same settings for another terminal. -/
def Settings.on (g : Settings) (t : Terminal) : Settings := { g with terminal := t }

/-- What a command of a task left behind, if it ended well. -/
def Event.passed? : Event → Option CommandResult
  | .exec _ .command _ (.ok r) => if r.success then some r else none
  | _ => none

theorem Event.line?_of_passed? {e : Event} {r : CommandResult} (h : e.passed? = some r) : e.line? = none := by
  cases e <;> first | rfl | cases h

theorem Event.passed?_of_success {x : Session} {command : String} {r : CommandResult}
    (h : r.success = true) : (Event.exec x .command command (.ok r)).passed? = some r :=
  if_pos h

theorem Event.passed?_of_failure {x : Session} {command : String} {r : CommandResult}
    (h : r.success = false) : (Event.exec x .command command (.ok r)).passed? = none := by
  show (if r.success = true then some r else none) = none
  rw [h]
  rfl

/-- What is asked of a relation between traces, so that it carries over from steps to runs: that it
holds of what is shown on two terminals, and of what both do without showing it. -/
structure Told (T : List Event → List Event → Prop) (t t' : Terminal) : Prop where
  nil : T [] []
  append {l l' k k'} : T l l' → T k k' → T (l ++ k) (l' ++ k')
  unseen {e} : e.line? = none → e.passed? = none → T [e] [e]
  lines (ls : List Line) : T ((t.unlessQuiet ls).map .print) ((t'.unlessQuiet ls).map .print)
  passed {e r} : e.passed? = some r →
    T (e :: (t.output r).map .print) (e :: (t'.output r).map .print)

variable {σ τ α β : Type} {T : List Event → List Event → Prop} {t t' : Terminal}

/-- Two outcomes that are the same but for their traces, which are related. -/
structure Outcome.SameBut (T : List Event → List Event → Prop) (o o' : Outcome τ α) : Prop where
  result : o'.result = o.result
  state : o'.state = o.state
  trace : T o.trace o'.trace

namespace Told

theorem logs (h : Told T t t') {l : List Event} (hl : unlogged l = []) : T l l := by
  induction l with
  | nil => exact h.nil
  | cons e l ih =>
    rw [unlogged_cons] at hl
    cases e with
    | log r => exact h.append (h.unseen (e := .log r) rfl rfl) (ih hl)
    | _ => cases hl

theorem bind (h : Told T t t') {x x' : Step τ α} {f f' : α → Step τ β} {v : τ}
    (hx : (x v).SameBut T (x' v)) (hf : ∀ a v, (f a v).SameBut T (f' a v)) :
    ((x >>= f) v).SameBut T ((x' >>= f') v) := by
  obtain ⟨hresult, hstate, htrace⟩ := hx
  rcases ho : x v with ⟨e | a, w, l⟩
  all_goals
    rcases ho' : x' v with ⟨r', w', l'⟩
    rw [ho, ho'] at hresult hstate htrace
    obtain rfl := hresult
    obtain rfl : w' = w := hstate
  · rw [Step.bind_error ho, Step.bind_error ho']
    exact ⟨rfl, rfl, htrace⟩
  · obtain ⟨hresult, hstate, hrest⟩ := hf a w'
    rw [Step.bind_ok ho, Step.bind_ok ho']
    exact ⟨hresult, hstate, h.append htrace hrest⟩

/-- What is said of outcomes that are the same but for their traces. -/
def pairing (h : Told T t t') : Pairing σ where
  Holds _ _ o o' := o.SameBut T o'
  Both _ _ o := T o.trace o.trace
  still hlogs _ := h.logs hlogs
  same hboth := ⟨rfl, rfl, hboth⟩
  bind := h.bind
  ensuring := by
    rintro τ α out v x x' last ⟨hresult, hstate, htrace⟩ hlast
    refine ⟨hresult, congrArg (fun w => (last w).state) hstate, ?_⟩
    simp only [Step.ensuring, hstate]
    exact h.append htrace (hlast _)
  outside := by
    rintro α a a' v ⟨hresult, hstate, htrace⟩
    exact ⟨hresult, congrArg (fun s => { v with outside := s }) hstate, htrace⟩
  reporting := by
    rintro x x' host s ⟨hresult, hstate, htrace⟩
    exact ⟨by simp only [Engine.reporting, hresult, hstate], congrArg Serving.outside hstate, htrace⟩

/-! ## The steps of a run -/

variable {out : τ → σ} {c : Connector σ} {g : Settings} {x : Session} {target : Target}

theorem call (h : Told T t t') {reply : τ → Except DeployError α × τ}
    {event : Except DeployError α → Event}
    (hevent : ∀ r, (event r).line? = none ∧ (event r).passed? = none) :
    h.pairing.Steps out (Step.call reply event) (Step.call reply event) :=
  .both fun v => h.unseen (hevent (reply v).1).1 (hevent (reply v).1).2

theorem shows (h : Told T t t') (ls : List Line) :
    h.pairing.Steps out (Step.print (t.unlessQuiet ls)) (Step.print (t'.unlessQuiet ls)) :=
  fun _ => ⟨rfl, rfl, h.lines ls⟩

theorem run (h : Told T t t') {purpose : Purpose} (hp : purpose ≠ .command) (command : String) :
    h.pairing.Steps id (c.run x purpose command) (c.run x purpose command) := by
  refine h.call fun r => ⟨rfl, ?_⟩
  cases purpose with
  | command => exact absurd rfl hp
  | presence => rfl
  | archiver => rfl
  | backup => rfl

theorem checked (h : Told T t t') (command : String) :
    h.pairing.Steps id (Backup.checked c x .backup command) (Backup.checked c x .backup command) := by
  refine (h.run (by decide) command).bind fun r => ?_
  split
  · exact .pure ()
  · exact .still (fun _ => rfl) fun _ => rfl

theorem isPresent (h : Told T t t') (path : String) :
    h.pairing.Steps id (Backup.isPresent c x path) (Backup.isPresent c x path) :=
  (h.run (by decide) _).bind fun _ => (Pairing.Steps.log _).bind fun _ => .pure _

theorem archiver (h : Told T t t') :
    h.pairing.Steps id (Backup.archiver c x) (Backup.archiver c x) := by
  refine (h.run (by decide) _).bind fun r => ?_
  by_cases hz : Backup.firstLine r.stdout = ""
  · simp only [hz, if_true]
    exact .still (fun _ => rfl) fun _ => rfl
  · simp only [hz, if_false]
    exact (Pairing.Steps.log _).bind fun _ => .pure _

theorem opening (h : Told T t t') {reply : σ → Except DeployError α × σ}
    {event : Except DeployError α → Event} (rs : List LogRecord)
    (hevent : ∀ r, (event r).line? = none ∧ (event r).passed? = none) :
    h.pairing.Steps id (do let a ← Step.call reply event; Step.logAll rs; return a)
      (do let a ← Step.call reply event; Step.logAll rs; return a) :=
  (h.call hevent).bind fun a =>
    (Pairing.Steps.still (fun _ => unlogged_logs rs) fun _ => rfl).bind fun _ => .pure a

theorem uploadFile (h : Told T t t') (source destination : String) :
    h.pairing.Steps id (Engine.uploadFile c (g.on t) target source destination)
      (Engine.uploadFile c (g.on t') target source destination) := by
  refine (h.call fun _ => ⟨rfl, rfl⟩).bind fun size =>
    (h.opening _ fun _ => ⟨rfl, rfl⟩).bind fun y => Pairing.Steps.bind ?_ fun _ =>
    (Pairing.Steps.log _).bind fun _ => h.shows _
  have hsending : h.pairing.Steps id (c.uploading y source destination size)
      (c.uploading y source destination size) := h.call fun _ => ⟨rfl, rfl⟩
  exact fun s => h.pairing.ensuring (hsending s) fun _ => h.unseen rfl rfl

/-- A command of a task, and what it wrote. -/
theorem raw (h : Told T t t') (command : String) :
    h.pairing.Steps Serving.outside (Engine.dispatch c (g.on t) x target (.raw command))
      (Engine.dispatch c (g.on t') x target (.raw command)) := by
  intro v
  rcases hexec : c.exec x command v.outside with ⟨e | r, s₁⟩
  · rw [Engine.dispatch_raw_error hexec, Engine.dispatch_raw_error hexec]
    exact ⟨rfl, rfl, h.unseen rfl rfl⟩
  · rw [Engine.dispatch_raw_ok hexec, Engine.dispatch_raw_ok hexec]
    refine ⟨rfl, rfl, ?_⟩
    cases hr : r.success with
    | true => exact h.passed (Event.passed?_of_success hr)
    | false =>
      -- Errors of a command that failed are shown on any terminal.
      have houtput : ∀ t : Terminal, t.output r = t.unlessQuiet
          (Terminal.outputLines { dimmed := true } r.stdout ++
            Terminal.outputLines { color := some .red } r.stderr) := by
        intro t
        simp [Terminal.output, hr]
      rw [show (g.on t).terminal.output r = _ from houtput t,
        show (g.on t').terminal.output r = _ from houtput t']
      exact h.append (h.unseen rfl (Event.passed?_of_failure hr)) (h.lines _)

/-- Steps that ask something of the outside, or show something, do the same on both terminals. -/
theorem atCalls (h : Told T t t') (c : Connector σ) (g : Settings) :
    h.pairing.AtCalls c c (g.on t) (g.on t') where
  fallback := rfl
  day _ := rfl
  closing _ := rfl
  close _ _ _ := h.append (h.unseen rfl rfl) (h.unseen rfl rfl)
  connect _ := h.opening _ fun _ => ⟨rfl, rfl⟩
  raw _ _ command := h.raw command
  upload _ source destination := h.uploadFile source destination
  choose _ _ := h.call fun _ => ⟨rfl, rfl⟩
  presence _ path := h.isPresent path
  archiver _ := h.archiver
  backup _ command := h.checked command
  showConnected _ := h.shows _
  showCommand _ _ := h.shows _
  showBackup _ := h.shows _

end Told

namespace Run

variable {c : Connector σ} {g : Settings}

theorem task_told (h : Told T t t') (total index : Nat) (task : Task) :
    h.pairing.Steps id (Run.task c (g.on t) total index task)
      (Run.task c (g.on t') total index task) := by
  refine (h.shows _).bind fun _ s => ?_
  obtain ⟨hresult, hstate, htrace⟩ := Engine.execute_paired (h.atCalls c g) task s
  refine ⟨hresult, hstate, h.append htrace ?_⟩
  rw [hresult]
  exact h.unseen rfl rfl

theorem tasksFrom_told (h : Told T t t') (total : Nat) (ts : List Task) : ∀ index : Nat,
    h.pairing.Steps id (tasksFrom c (g.on t) total index ts)
      (tasksFrom c (g.on t') total index ts) := by
  induction ts with
  | nil => exact fun _ => .pure []
  | cons task ts ih =>
    intro index
    exact (task_told h total index task).bind fun _ => (ih (index + 1)).bind fun _ => .pure _

/-- **A run does the same on both terminals**, and the relation holds of its traces. -/
theorem report_told (h : Told T t t') (nanoseconds : Nat) (ts : List Task) :
    h.pairing.Steps id (report c (g.on t) nanoseconds ts) (report c (g.on t') nanoseconds ts) := by
  have htasks : h.pairing.Steps id (tasks c (g.on t) ts) (tasks c (g.on t') ts) :=
    (tasksFrom_told h _ ts 1).bind fun _ => .pure _
  exact htasks.bind fun _ => (h.shows _).bind fun _ => .pure _

end Run

variable {c : Connector σ} {g : Settings}

/-! ## Errors of commands that ended well -/

/-- What a command wrote as errors, as lines. -/
def errorLines (r : CommandResult) : List Line :=
  Terminal.outputLines { color := some .red } r.stderr

/-- What commands of tasks wrote as errors, as lines, if they ended well. -/
def passedErrors (l : List Event) : List Line :=
  (l.filterMap Event.passed?).flatMap errorLines

theorem passedErrors_append (l l' : List Event) :
    passedErrors (l ++ l') = passedErrors l ++ passedErrors l' := by
  unfold passedErrors
  rw [List.filterMap_append, List.flatMap_append]

theorem passedErrors_prints (ls : List Line) : passedErrors (ls.map .print) = [] := by
  induction ls with
  | nil => rfl
  | cons l ls ih => exact ih

/-- The same trace with the errors of every command that ended well, each time after what it wrote
besides. -/
inductive Longer : List Event → List Event → Prop
  | nil : Longer [] []
  | same {e l l'} : e.passed? = none → Longer l l' → Longer (e :: l) (e :: l')
  | passed {e l l'} {r : CommandResult} : e.passed? = some r → Longer l l' →
      Longer (e :: ((Terminal.outputLines { dimmed := true } r.stdout).map .print ++ l))
        (e :: ((Terminal.outputLines { dimmed := true } r.stdout ++ errorLines r).map .print ++ l'))

namespace Longer

variable {l l' k k' : List Event}

theorem append (h : Longer l l') (hk : Longer k k') : Longer (l ++ k) (l' ++ k') := by
  induction h with
  | nil => exact hk
  | same he _ ih => exact .same he ih
  | passed he _ ih =>
    rw [List.cons_append, List.cons_append, List.append_assoc, List.append_assoc]
    exact .passed he ih

theorem prints (ls : List Line) : Longer (ls.map .print) (ls.map .print) := by
  induction ls with
  | nil => exact .nil
  | cons l ls ih => exact .same rfl ih

/-- What is shown without the errors is shown with them, in the same order. -/
theorem sublist (h : Longer l l') : (shown l).Sublist (shown l') := by
  induction h with
  | nil => exact .slnil
  | @same e l l' he _ ih =>
    have happ : ∀ l, shown (e :: l) = shown [e] ++ shown l := fun l => shown_append [e] l
    rw [happ l, happ l']
    exact ih.append_left _
  | passed he _ ih =>
    rw [shown_of_line? (Event.line?_of_passed? he), shown_of_line? (Event.line?_of_passed? he), shown_append, shown_append,
      shown_prints, shown_prints]
    exact (List.sublist_append_left _ _).append ih

/-- Nothing else is shown with the errors. -/
theorem perm (h : Longer l l') : (shown l').Perm (shown l ++ passedErrors l) := by
  induction h with
  | nil => exact .nil
  | @same e l l' he _ ih =>
    have happ : ∀ l, shown (e :: l) = shown [e] ++ shown l := fun l => shown_append [e] l
    have herrors : passedErrors (e :: l) = passedErrors l := by
      unfold passedErrors
      rw [List.filterMap_cons_none he]
    rw [happ l, happ l', herrors, List.append_assoc]
    exact ih.append_left _
  | @passed e l l' r he _ ih =>
    have herrors : ∀ ls : List Line,
        passedErrors (e :: (ls.map .print ++ l)) = errorLines r ++ passedErrors l := by
      intro ls
      unfold passedErrors
      rw [List.filterMap_cons_some he, List.flatMap_cons]
      exact congrArg (errorLines r ++ ·) (passedErrors_append (ls.map .print) l |>.trans (by
        rw [passedErrors_prints]; rfl))
    rw [shown_of_line? (Event.line?_of_passed? he), shown_of_line? (Event.line?_of_passed? he), shown_append, shown_append,
      shown_prints, shown_prints, herrors, List.append_assoc, List.append_assoc]
    -- The errors of this command change places with what is shown later.
    refine List.Perm.append_left _ ((ih.append_left _).trans ?_)
    rw [← List.append_assoc, ← List.append_assoc]
    exact List.perm_append_comm.append_right _

end Longer

/-! ## Terminals -/

/-- On any two terminals the same is done. -/
theorem told_unshown (t t' : Terminal) : Told (fun l l' => unshown l' = unshown l) t t' where
  nil := rfl
  append hl hk := by rw [unshown_append, unshown_append, hl, hk]
  unseen _ _ := rfl
  lines ls := by rw [unshown_prints, unshown_prints]
  passed he := by
    rw [unshown_of_line? (Event.line?_of_passed? he), unshown_of_line? (Event.line?_of_passed? he), unshown_prints,
      unshown_prints]

/-- On a quiet terminal nothing is shown. -/
theorem told_quiet (h : t.quiet = true) : Told (fun l _ => shown l = []) t t where
  nil := rfl
  append hl hk := by rw [shown_append, hl, hk]; rfl
  unseen he _ := shown_of_line? he []
  lines ls := by
    rw [shown_prints]
    exact if_pos h
  passed he := by
    rw [shown_of_line? (Event.line?_of_passed? he), shown_prints]
    exact if_pos h

/-- On a verbose terminal there are errors besides. -/
theorem told_longer (h : t.quiet = false) (h' : t'.quiet = false) (hv : t.verbose = false)
    (hv' : t'.verbose = true) : Told Longer t t' where
  nil := .nil
  append := .append
  unseen _ he := .same he .nil
  lines ls := by
    have hall : ∀ {t : Terminal}, t.quiet = false → t.unlessQuiet ls = ls := by
      intro t ht
      unfold Terminal.unlessQuiet
      rw [ht]
      rfl
    rw [hall h, hall h']
    exact .prints ls
  passed {e r} he := by
    have hr : r.success = true := by
      unfold Event.passed? at he
      split at he
      · split at he
        · cases he
          assumption
        · cases he
      · cases he
    have hplain : t.output r = Terminal.outputLines { dimmed := true } r.stdout := by
      simp [Terminal.output, Terminal.unlessQuiet, h, hv, hr]
    have hverbose : t'.output r =
        Terminal.outputLines { dimmed := true } r.stdout ++ errorLines r := by
      simp [Terminal.output, Terminal.unlessQuiet, h', hv', errorLines]
    have hlonger := Longer.passed he .nil
    rw [List.append_nil, List.append_nil] at hlonger
    rwa [hplain, hverbose]

/-- **Terminals have no say in what is done.** On any two of them a run makes the same calls, gets the
same replies, and ends alike. A quiet one shows nothing; of two that are not, a verbose one shows in
addition what commands that ended well wrote as errors, and nothing else, in whatever colors. -/
theorem terminals_only_show (c : Connector σ) (g : Settings) (nanoseconds : Nat) (ts : List Task)
    (s : σ) (t t' : Terminal) :
    let o := Run.report c (g.on t) nanoseconds ts s
    let o' := Run.report c (g.on t') nanoseconds ts s
    (o'.result = o.result ∧ o'.state = o.state ∧ unshown o'.trace = unshown o.trace ∧
      calls o'.trace = calls o.trace) ∧
    (t.quiet = true → shown o.trace = [] ∧ ∀ label total, (t.progress label total).length = none) ∧
    (t.quiet = false → t'.quiet = false → t.verbose = false → t'.verbose = true →
      Longer o.trace o'.trace ∧
      (∀ colored, ((shown o.trace).map (Line.render colored)).Sublist
        ((shown o'.trace).map (Line.render colored))) ∧
      (shown o'.trace).Perm (shown o.trace ++ passedErrors o.trace)) := by
  intro o o'
  obtain ⟨hresult, hstate, hunshown⟩ := Run.report_told (told_unshown t t') nanoseconds ts s
  refine ⟨⟨hresult, hstate, hunshown, ?_⟩, ?_, ?_⟩
  · rw [← calls_unshown o'.trace, ← calls_unshown o.trace]
    exact congrArg calls hunshown
  · intro hquiet
    refine ⟨(Run.report_told (told_quiet hquiet) nanoseconds ts s).trace, fun label total => ?_⟩
    unfold Terminal.progress
    rw [if_pos hquiet]
  · intro h h' hv hv'
    have hlonger : Longer o.trace o'.trace :=
      (Run.report_told (told_longer h h' hv hv') nanoseconds ts s).trace
    exact ⟨hlonger, fun _ => hlonger.sublist.map _, hlonger.perm⟩

/-- A command that warns and goes on. -/
theorem terminals_only_show_warning :
    let c := ({ replies := [⟨"make", none, [.result { stderr := "old" }]⟩] } : Script).connector
    let run (t : Terminal) := Run.report c (({} : Settings).on t) 0
      [⟨"10.0.0.1", 22, "root", "", ["make"]⟩] { files := {}, used := [0] }
    let warning : Line := [.plain "      ", { text := "old", style := { color := some .red } }]
    shown (run .silent).trace = [] ∧ passedErrors (run {}).trace = [warning] ∧
      (shown (run { verbose := true }).trace).Perm (shown (run {}).trace ++ [warning]) := by
  intro c run warning
  have herrors : passedErrors (run {}).trace = [warning] := by
    rfl
  have hquiet := (terminals_only_show c {} 0 [⟨"10.0.0.1", 22, "root", "", ["make"]⟩]
    { files := {}, used := [0] } .silent {}).2.1 rfl
  have hverbose := (terminals_only_show c {} 0 [⟨"10.0.0.1", 22, "root", "", ["make"]⟩]
    { files := {}, used := [0] } {} { verbose := true }).2.2 rfl rfl rfl rfl
  refine ⟨hquiet.1, herrors, ?_⟩
  rw [← herrors]
  exact hverbose.2.2

end Rollout
