import Rollout.Proofs.Step
import Rollout.Run

/-!
# Runs that differ in a password

A password goes into the calls that open a session, and nowhere else. So runs over the same tasks with
other passwords go the same way, as long as the outside replies alike.

* `Connector.Alike`: outsides that reply alike to calls that differ at most in a password.
* `Step.Alike`: steps that do the same on them. It is kept by sequences, so that it needs a proof only
  for single steps.
* `Engine.execute_alike`, `Run.report_alike`: a task and a run, along the structure of the program.
-/

namespace Rollout

/-! ## What is left without passwords -/

/-- A target with its password taken away. -/
def Target.concealed (t : Target) : Target := { t with password := "" }

/-- A task with its password taken away. -/
def Task.concealed (t : Task) : Task := { t with password := "" }

/-- Settings with the password for servers without one taken away. -/
def Settings.concealed (g : Settings) : Settings := { g with fallback := none }

/-- An event with the password of its target taken away. -/
def Event.concealed : Event → Event
  | .connect target reply => .connect target.concealed reply
  | .openTransfer target reply => .openTransfer target.concealed reply
  | e => e

variable {σ τ α β : Type}

/-! ## Outsides that reply alike -/

/-- The same reply, from and to states that correspond. -/
def SameReply (R : σ → τ → Prop) (p : α × σ) (p' : α × τ) : Prop := p'.1 = p.1 ∧ R p.2 p'.2

/-- Two outsides that reply alike, in states that correspond, to calls that differ at most in a
password. -/
structure Connector.Alike (R : σ → τ → Prop) (c : Connector σ) (c' : Connector τ) : Prop where
  files {s s'} : R s s' → c'.files s' = c.files s
  connect {s s'} {t t' : Target} : R s s' → t'.concealed = t.concealed →
    SameReply R (c.connect t s) (c'.connect t' s')
  exec {s s'} (x command) : R s s' → SameReply R (c.exec x command s) (c'.exec x command s')
  close {s s'} (x) : R s s' → R (c.close x s) (c'.close x s')
  openTransfer {s s'} {t t' : Target} : R s s' → t'.concealed = t.concealed →
    SameReply R (c.openTransfer t s) (c'.openTransfer t' s')
  upload {s s'} (y source destination) : R s s' →
    SameReply R (c.upload y source destination s) (c'.upload y source destination s')
  closeTransfer {s s'} (y) : R s s' → R (c.closeTransfer y s) (c'.closeTransfer y s')
  notes {t t' : Target} : t'.concealed = t.concealed → c'.notes t' = c.notes t
  today {s s'} : R s s' → c'.today s' = c.today s

/-! ## Steps that do the same -/

/-- Two outcomes that differ at most in passwords. -/
structure Outcome.Alike (R : σ → τ → Prop) (o : Outcome σ α) (o' : Outcome τ α) : Prop where
  result : o'.result = o.result
  state : R o.state o'.state
  trace : o'.trace.map Event.concealed = o.trace.map Event.concealed

/-- Two steps that do the same, in states that correspond. -/
def Step.Alike (R : σ → τ → Prop) (x : Step σ α) (x' : Step τ α) : Prop :=
  ∀ ⦃s s'⦄, R s s' → Outcome.Alike R (x s) (x' s')

namespace Step.Alike

variable {R : σ → τ → Prop}

theorem pure (a : α) : Step.Alike R (Pure.pure a) (Pure.pure a) := fun _ _ h => ⟨rfl, h, rfl⟩

theorem fail (e : DeployError) : Step.Alike R (Step.fail e : Step σ α) (Step.fail e) :=
  fun _ _ h => ⟨rfl, h, rfl⟩

theorem logAll (rs : List LogRecord) : Step.Alike R (Step.logAll rs) (Step.logAll rs) :=
  fun _ _ h => ⟨rfl, h, rfl⟩

theorem log (r : LogRecord) : Step.Alike R (Step.log r) (Step.log r) := logAll [r]

theorem print (ls : List Line) : Step.Alike R (Step.print ls) (Step.print ls) :=
  fun _ _ h => ⟨rfl, h, rfl⟩

theorem bind {x : Step σ α} {x' : Step τ α} {f : α → Step σ β} {f' : α → Step τ β}
    (hx : Step.Alike R x x') (hf : ∀ a, Step.Alike R (f a) (f' a)) :
    Step.Alike R (x >>= f) (x' >>= f') := by
  intro s s' h
  obtain ⟨hr, hs, ht⟩ := hx h
  rcases ho : x s with ⟨e | a, s₁, l⟩
  all_goals
    rcases ho' : x' s' with ⟨r', s₁', l'⟩
    rw [ho, ho'] at hr hs ht
    obtain rfl := hr
  · rw [bind_error ho, bind_error ho']
    exact ⟨rfl, hs, ht⟩
  · obtain ⟨hr₁, hs₁, ht₁⟩ := hf a hs
    rw [bind_ok ho, bind_ok ho']
    exact ⟨hr₁, hs₁, by simp only [Outcome.after, List.map_append, ht, ht₁]⟩

theorem call {reply : σ → Except DeployError α × σ} {reply' : τ → Except DeployError α × τ}
    {event event' : Except DeployError α → Event}
    (h : ∀ {s s'}, R s s' → SameReply R (reply s) (reply' s'))
    (he : ∀ r, (event' r).concealed = (event r).concealed) :
    Step.Alike R (Step.call reply event) (Step.call reply' event') := by
  intro s s' hs
  obtain ⟨hr, hs₁⟩ := h hs
  refine ⟨hr, hs₁, ?_⟩
  simp only [Step.call, hr, List.map_cons, he, List.map_nil]

theorem tell {change : σ → σ} {change' : τ → τ} (h : ∀ {s s'}, R s s' → R (change s) (change' s'))
    (e : Event) : Step.Alike R (Step.tell change e) (Step.tell change' e) :=
  fun _ _ hs => ⟨rfl, h hs, rfl⟩

theorem ensuring {x : Step σ α} {x' : Step τ α} {last : Step σ Unit} {last' : Step τ Unit}
    (hx : Step.Alike R x x') (hl : Step.Alike R last last') :
    Step.Alike R (x.ensuring last) (x'.ensuring last') := by
  intro s s' h
  obtain ⟨hr, hs, ht⟩ := hx h
  obtain ⟨-, hs₁, ht₁⟩ := hl hs
  exact ⟨hr, hs₁, by simp only [Step.ensuring, List.map_append, ht, ht₁]⟩

end Step.Alike

/-! ## The steps of a run -/

variable {R : σ → τ → Prop} {c : Connector σ} {c' : Connector τ} {g g' : Settings}
  {target target' : Target} {x : Session}

theorem Target.label_of_concealed (h : target'.concealed = target.concealed) :
    target'.label = target.label := by
  have hlabel : target'.concealed.label = target.concealed.label := congrArg Target.label h
  exact hlabel

theorem Target.host_of_concealed (h : target'.concealed = target.concealed) :
    target'.host = target.host := by
  have hhost : target'.concealed.host = target.concealed.host := congrArg Target.host h
  exact hhost

theorem Target.username_of_concealed (h : target'.concealed = target.concealed) :
    target'.username = target.username := by
  have husername : target'.concealed.username = target.concealed.username :=
    congrArg Target.username h
  exact husername

theorem Task.eq_of_concealed {t t' : Task} (h : t'.concealed = t.concealed) :
    t' = { t with password := t'.password } := by
  cases t
  cases t'
  simpa [Task.concealed] using h

theorem Settings.terminal_of_concealed (h : g'.concealed = g.concealed) :
    g'.terminal = g.terminal := by
  have hterminal : g'.concealed.terminal = g.concealed.terminal := congrArg Settings.terminal h
  exact hterminal

theorem Settings.date_of_concealed (h : g'.concealed = g.concealed) : g'.date = g.date := by
  have hdate : g'.concealed.date = g.concealed.date := congrArg Settings.date h
  exact hdate

namespace Connector.Alike

theorem connecting (hc : c.Alike R c') (h : target'.concealed = target.concealed) :
    Step.Alike R (c.connecting target) (c'.connecting target') := by
  unfold Connector.connecting
  rw [hc.notes h]
  refine .bind (.call (fun hs => hc.connect hs h) fun r => ?_) fun s => .bind (.logAll _) fun _ =>
    .pure s
  simp only [Event.concealed, h]

theorem openingTransfer (hc : c.Alike R c') (h : target'.concealed = target.concealed) :
    Step.Alike R (c.openingTransfer target) (c'.openingTransfer target') := by
  unfold Connector.openingTransfer
  rw [hc.notes h]
  refine .bind (.call (fun hs => hc.openTransfer hs h) fun r => ?_) fun y => .bind (.logAll _)
    fun _ => .pure y
  simp only [Event.concealed, h]

theorem run (hc : c.Alike R c') (x : Session) (purpose : Purpose) (command : String) :
    Step.Alike R (c.run x purpose command) (c'.run x purpose command) :=
  .call (hc.exec x command) fun _ => rfl

end Connector.Alike

namespace Backup

theorem checked_alike (hc : c.Alike R c') (purpose : Purpose) (command : String) :
    Step.Alike R (checked c x purpose command) (checked c' x purpose command) := by
  refine .bind (hc.run x purpose command) fun r => ?_
  split
  · exact .pure ()
  · exact .fail _

theorem isPresent_alike (hc : c.Alike R c') (path : String) :
    Step.Alike R (isPresent c x path) (isPresent c' x path) :=
  .bind (hc.run x .presence _) fun _ => .bind (.log _) fun _ => .pure _

theorem archiver_alike (hc : c.Alike R c') : Step.Alike R (archiver c x) (archiver c' x) := by
  refine .bind (hc.run x .archiver _) fun r => ?_
  by_cases hz : firstLine r.stdout = ""
  · simp only [hz, if_true]
    exact .fail _
  · simp only [hz, if_false]
    exact .bind (.log _) fun _ => .pure _

theorem rename_alike (hc : c.Alike R c') (path : String) (d : Date) :
    Step.Alike R (rename c x path d) (rename c' x path d) := by
  refine .bind (isPresent_alike hc _) fun found => ?_
  split
  · exact .pure _
  · exact .bind (checked_alike hc _ _) fun _ => .pure _

theorem archive_alike (hc : c.Alike R c') (name : String) (paths : List String) (d : Date) :
    Step.Alike R (archive c x name paths d) (archive c' x name paths d) := by
  refine .bind (isPresent_alike hc _) fun found => ?_
  split
  · exact .pure _
  · exact .bind (archiver_alike hc) fun _ => .bind (checked_alike hc _ _) fun _ => .pure _

end Backup

namespace Engine

/-- States that correspond while a task runs: the reports are the same. -/
def Corresponding (R : σ → τ → Prop) (v : Serving σ) (v' : Serving τ) : Prop :=
  R v.outside v'.outside ∧ v'.report = v.report

theorem outside_alike {a : Step σ α} {a' : Step τ α} (h : Step.Alike R a a') :
    Step.Alike (Corresponding R) (outside a) (outside a') := by
  intro v v' hv
  obtain ⟨hr, hs, ht⟩ := h hv.1
  exact ⟨hr, ⟨hs, hv.2⟩, ht⟩

theorem count_alike (f : ServerReport → ServerReport) :
    Step.Alike (Corresponding R) (count f) (count f) :=
  fun _ _ hv => ⟨rfl, ⟨hv.1, congrArg f hv.2⟩, rfl⟩

/-- What calls, notes and shows the same, does the same for targets that differ in a password. -/
theorem uploadFile_alike (hc : c.Alike R c') (hg : g'.concealed = g.concealed)
    (h : target'.concealed = target.concealed) (source destination : String) :
    Step.Alike R (uploadFile c g target source destination)
      (uploadFile c' g' target' source destination) := by
  have hsize {s s'} (hs : R s s') : SameReply R (sourceSize (c.files s) source, s)
      (sourceSize (c'.files s') source, s') := ⟨by rw [hc.files hs], hs⟩
  unfold uploadFile
  rw [Settings.terminal_of_concealed hg, Target.host_of_concealed h]
  exact .bind (.call hsize fun _ => rfl) fun size => .bind (hc.openingTransfer h) fun y =>
    .bind (.ensuring (.call (hc.upload y _ _) fun _ => rfl) (.tell (hc.closeTransfer y) _)) fun _ =>
      .bind (.log _) fun _ => .print _

theorem uploadCounted_alike (hc : c.Alike R c') (hg : g'.concealed = g.concealed)
    (h : target'.concealed = target.concealed) (source destination : String) :
    Step.Alike (Corresponding R) (uploadCounted c g target source destination)
      (uploadCounted c' g' target' source destination) :=
  .bind (outside_alike (uploadFile_alike hc hg h source destination)) fun _ => count_alike _

theorem uploadAll_alike (hc : c.Alike R c') (hg : g'.concealed = g.concealed)
    (h : target'.concealed = target.concealed) (directory : String) (files : List String) :
    Step.Alike (Corresponding R) (uploadAll c g target directory files)
      (uploadAll c' g' target' directory files) := by
  induction files with
  | nil => exact .pure ()
  | cons file files ih => exact .bind (uploadCounted_alike hc hg h _ _) fun _ => ih

theorem chooseFiles_alike (hc : c.Alike R c') (directory : String) (limit : Nat) :
    Step.Alike R (chooseFiles c directory limit) (chooseFiles c' directory limit) :=
  .call (fun hs => ⟨by rw [hc.files hs], hs⟩) fun _ => rfl

theorem backupDate_alike (hc : c.Alike R c') (hg : g'.concealed = g.concealed) :
    Step.Alike R (backupDate c g) (backupDate c' g') := by
  intro s s' hs
  refine ⟨?_, hs, rfl⟩
  simp only [backupDate, Settings.date_of_concealed hg, hc.today hs]

theorem recordBackup_alike (hg : g'.concealed = g.concealed)
    (h : target'.concealed = target.concealed) (o : BackupOutcome) :
    Step.Alike (Corresponding R) (recordBackup g target o) (recordBackup g' target' o) := by
  unfold recordBackup
  rw [Settings.terminal_of_concealed hg]
  refine .bind ?_ fun _ => .bind (.print _) fun _ => count_alike _
  cases o with
  | created path => exact .pure ()
  | alreadyExists path =>
    simp only [warnOfBackup, Target.host_of_concealed h]
    exact .log _

theorem dispatch_alike (hc : c.Alike R c') (hg : g'.concealed = g.concealed)
    (h : target'.concealed = target.concealed) (o : Operation) :
    Step.Alike (Corresponding R) (dispatch c g x target o) (dispatch c' g' x target' o) := by
  cases o with
  | raw command =>
    simp only [dispatch, Settings.terminal_of_concealed hg]
    refine .bind (outside_alike (hc.run x _ _)) fun r => .bind (.print _) fun _ => ?_
    split
    · exact .pure ()
    · exact .fail _
  | upload source destination => exact uploadCounted_alike hc hg h source destination
  | uploadDir source destination limit =>
    exact .bind (outside_alike (chooseFiles_alike hc source limit.toNat)) fun files =>
      .bind (.log _) fun _ => uploadAll_alike hc hg h destination files
  | backup path =>
    exact .bind (outside_alike (backupDate_alike hc hg)) fun d =>
      .bind (outside_alike (Backup.rename_alike hc path d)) fun o => recordBackup_alike hg h o
  | zipBackup archive paths =>
    exact .bind (outside_alike (backupDate_alike hc hg)) fun d =>
      .bind (outside_alike (Backup.archive_alike hc archive paths d)) fun o =>
        recordBackup_alike hg h o

theorem runCommand_alike (hc : c.Alike R c') (hg : g'.concealed = g.concealed)
    (h : target'.concealed = target.concealed) (command : String) :
    Step.Alike (Corresponding R) (runCommand c g x target command)
      (runCommand c' g' x target' command) := by
  unfold runCommand
  rw [Settings.terminal_of_concealed hg, Target.host_of_concealed h]
  exact .bind (.log _) fun _ => .bind (.print _) fun _ => .bind (dispatch_alike hc hg h _) fun _ =>
    count_alike _

theorem runCommands_alike (hc : c.Alike R c') (hg : g'.concealed = g.concealed)
    (h : target'.concealed = target.concealed) (commands : List String) :
    Step.Alike (Corresponding R) (runCommands c g x target commands)
      (runCommands c' g' x target' commands) := by
  induction commands with
  | nil => exact .pure ()
  | cons command commands ih => exact .bind (runCommand_alike hc hg h command) fun _ => ih

variable {t t' : Task}

/-- Whichever password a target gets, nothing else of it depends on passwords. -/
theorem targetOf_concealed (ht : t'.concealed = t.concealed) :
    (targetOf g' t').concealed = (targetOf g t).concealed := by
  have htarget (g : Settings) (t : Task) :
      (targetOf g t).concealed = t.concealed.target.concealed := by
    unfold targetOf Target.withFallback
    split <;> rfl
  rw [htarget, htarget, ht]

/-- **A task does the same whatever its password is.** -/
theorem execute_alike (hc : c.Alike R c') (hg : g'.concealed = g.concealed)
    (ht : t'.concealed = t.concealed) : Step.Alike R (execute c g t) (execute c' g' t') := by
  have h : (targetOf g' t').concealed = (targetOf g t).concealed := targetOf_concealed ht
  have hhost : t'.host = t.host := by rw [Task.eq_of_concealed ht]
  have hcommands : t'.commands = t.commands := by rw [Task.eq_of_concealed ht]
  have hreporting (x : Session) : Step.Alike R
      (reporting t.host (runCommands c g x (targetOf g t) t.commands))
      (reporting t.host (runCommands c' g' x (targetOf g' t') t.commands)) := by
    intro s s' hs
    have hv : Corresponding R ⟨s, { host := t.host }⟩ ⟨s', { host := t.host }⟩ := ⟨hs, rfl⟩
    obtain ⟨hr, hv₁, htrace⟩ := runCommands_alike (x := x) hc hg h t.commands hv
    exact ⟨by simp only [reporting, hr, hv₁.2], hv₁.1, htrace⟩
  simp only [execute, hhost, hcommands, Target.label_of_concealed h, Target.host_of_concealed h,
    Settings.terminal_of_concealed hg]
  exact .bind (.log _) fun _ => .bind (hc.connecting h) fun x => .bind (.print _) fun _ =>
    .ensuring (hreporting x) (.bind (.tell (hc.close x) _) fun _ => .log _)

end Engine

namespace Run

variable {t t' : Task}

theorem task_alike (hc : c.Alike R c') (hg : g'.concealed = g.concealed)
    (ht : t'.concealed = t.concealed) (total index : Nat) :
    Step.Alike R (task c g total index t) (task c' g' total index t') := by
  have h : (Engine.targetOf g' t').concealed = (Engine.targetOf g t).concealed :=
    Engine.targetOf_concealed ht
  have hhost : t'.host = t.host := by rw [Task.eq_of_concealed ht]
  have hheader : g'.terminal.header (Engine.targetOf g' t') index total =
      g.terminal.header (Engine.targetOf g t) index total := by
    rw [Terminal.header, Terminal.header, Settings.terminal_of_concealed hg,
      Target.label_of_concealed h]
  unfold task
  rw [hheader]
  refine .bind (.print _) fun _ => fun s s' hs => ?_
  obtain ⟨hr, hs₁, htrace⟩ := Engine.execute_alike hc hg ht hs
  exact ⟨hr, hs₁, by simp only [task.noting, List.map_append, htrace, hr, hhost]⟩

theorem tasksFrom_alike (hc : c.Alike R c') (hg : g'.concealed = g.concealed) (total : Nat)
    (ts : List Task) : ∀ {ts' : List Task} (index : Nat),
      ts'.map Task.concealed = ts.map Task.concealed →
      Step.Alike R (tasksFrom c g total index ts) (tasksFrom c' g' total index ts') := by
  induction ts with
  | nil =>
    intro ts' index h
    obtain rfl : ts' = [] := by simpa using h
    exact .pure []
  | cons t ts ih =>
    intro ts' index h
    obtain ⟨t', ts', rfl, ht, hts⟩ := List.map_eq_cons_iff.1 h
    exact .bind (task_alike hc hg ht total index) fun _ => .bind (ih (index + 1) hts) fun _ => .pure _

theorem tasks_alike (hc : c.Alike R c') (hg : g'.concealed = g.concealed) {ts ts' : List Task}
    (h : ts'.map Task.concealed = ts.map Task.concealed) :
    Step.Alike R (tasks c g ts) (tasks c' g' ts') := by
  have hlength : ts'.length = ts.length := by simpa using congrArg List.length h
  unfold tasks
  rw [hlength]
  exact .bind (tasksFrom_alike hc hg _ ts 1 h) fun _ => .pure _

theorem report_alike (hc : c.Alike R c') (hg : g'.concealed = g.concealed) (nanoseconds : Nat)
    {ts ts' : List Task} (h : ts'.map Task.concealed = ts.map Task.concealed) :
    Step.Alike R (report c g nanoseconds ts) (report c' g' nanoseconds ts') := by
  unfold report
  rw [Settings.terminal_of_concealed hg]
  exact .bind (tasks_alike hc hg h) fun _ => .bind (.print _) fun _ => .pure _

end Run

end Rollout
