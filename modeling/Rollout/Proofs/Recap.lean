import Mathlib.Data.List.Forall2
import Rollout.Proofs.Failure
import Rollout.Script

/-!
# The recap accounts for what was done

The counts of a report go up one by one while a task runs, each in another branch of the program.
They are compared here with what can be counted from outside: the commands of the task, and the
calls that each of them made.

* `Done`: the calls of an operation that went well. `Served`: those of a task, with its report.
* `dispatch_done`: an operation that goes well adds to the report what its calls add up to.
* `tasks_recap`: the recap of a run, and its totals.
-/

namespace Rollout

/-! ## What can be counted in calls -/

/-- Whether a call sends a file. -/
def Event.isUpload : Event → Bool
  | .upload .. => true
  | _ => false

/-- Whether a call is the one by which a backup is made. -/
def Event.isBackup : Event → Bool
  | .exec _ .backup _ _ => true
  | _ => false

/-- Whether a call is a listing of a dated path that finds something there. -/
def Event.isFinding : Event → Bool
  | .exec _ .presence _ (.ok r) => !r.stdout.isAllBlank
  | _ => false

/-- Whether an operation makes a backup, of either kind. -/
def Operation.isBackup : Operation → Bool
  | .backup _ | .zipBackup .. => true
  | _ => false

/-- Whether an operation is a backup that found its dated path taken, by the calls it made. -/
def Operation.isSkipped (o : Operation) (l : List Event) : Bool := o.isBackup && l.any Event.isFinding

/-- Whether an operation is a backup that found its dated path free, by the calls it made. -/
def Operation.isCreated (o : Operation) (l : List Event) : Bool := o.isBackup && !l.any Event.isFinding

/-- A report with what commands add to it, by the calls that each of them made. -/
def ServerReport.after (r : ServerReport) (work : List (String × List Event)) : ServerReport where
  host := r.host
  executed := r.executed + work.length
  uploaded := r.uploaded + (work.flatMap (·.2)).countP Event.isUpload
  backupsCreated :=
    r.backupsCreated + work.countP fun w => (Operation.ofCommand w.1).isCreated w.2
  backupsSkipped :=
    r.backupsSkipped + work.countP fun w => (Operation.ofCommand w.1).isSkipped w.2

/-- The calls by which a file is sent. -/
def sendCalls (target : Target) (y : Transfer) (source destination : String) (size : Nat) :
    List Event :=
  [.openTransfer target (.ok y), .upload y source destination size (.ok ()), .closeTransfer y]

/-- The calls of an operation that went well. -/
inductive Done (target : Target) (x : Session) : Operation → List Event → Prop
  | raw {command r} : r.exitCode = 0 → Done target x (.raw command) [.exec x .command command (.ok r)]
  | upload (y : Transfer) (source destination : String) (size : Nat) :
      Done target x (.upload source destination) (sendCalls target y source destination size)
  | uploadDir {source destination limit} (files : List (String × Transfer × Nat)) :
      Done target x (.uploadDir source destination limit) (files.flatMap fun f =>
        sendCalls target f.2.1 f.1 (Engine.destinationOf destination f.1) f.2.2)
  | present {path r} (d : Date) : r.stdout.isAllBlank = false →
      Done target x (.backup path)
        [.exec x .presence (Backup.listCommand (Backup.renamePath path d)) (.ok r)]
  | moved {path r m} (d : Date) : r.stdout.isAllBlank = true → m.exitCode = 0 →
      Done target x (.backup path)
        [.exec x .presence (Backup.listCommand (Backup.renamePath path d)) (.ok r),
          .exec x .backup (Backup.moveCommand path (Backup.renamePath path d)) (.ok m)]
  | archived {name paths r} (d : Date) : r.stdout.isAllBlank = false →
      Done target x (.zipBackup name paths)
        [.exec x .presence (Backup.listCommand (Backup.archivePath name d)) (.ok r)]
  | packed {name paths r z m} (d : Date) : r.stdout.isAllBlank = true →
      Conduct.startsBlank z.stdout = false → m.exitCode = 0 →
      Done target x (.zipBackup name paths)
        [.exec x .presence (Backup.listCommand (Backup.archivePath name d)) (.ok r),
          .exec x .archiver Backup.archiverCommand (.ok z),
          .exec x .backup
            (Backup.packCommand (Backup.firstLine z.stdout) (Backup.archivePath name d) paths)
            (.ok m)]

/-- A task that went well: its report, and all calls that were made for it. `work` has each command
with its own calls. -/
inductive Served (target : Target) (t : Task) (r : ServerReport) : List Event → Prop
  | mk (x : Session) (work : List (String × List Event)) (commands : work.map (·.1) = t.commands)
      (done : ∀ w ∈ work, Done target x (.ofCommand w.1) w.2) (host : r.host = t.host)
      (executed : r.executed = t.commands.length)
      (uploaded : r.uploaded = (work.flatMap (·.2)).countP Event.isUpload)
      (created : r.backupsCreated = work.countP fun w => (Operation.ofCommand w.1).isCreated w.2)
      (skipped : r.backupsSkipped = work.countP fun w => (Operation.ofCommand w.1).isSkipped w.2) :
      Served target t r (.connect target (.ok x) :: (work.flatMap (·.2) ++ [.close x]))

/-! ## Laws of counting -/

namespace ServerReport

theorem after_cons (r : ServerReport) (w : String × List Event) (work : List (String × List Event)) :
    r.after (w :: work) = (r.after [w]).after work := by
  simp only [after, List.length_cons, List.length_nil, List.flatMap_cons, List.flatMap_nil,
    List.append_nil, List.countP_append, List.countP_cons, List.countP_nil, mk.injEq, true_and]
  omega

end ServerReport

namespace Done

variable {target : Target} {x : Session} {o : Operation} {l : List Event}

/-- **A backup that is not skipped makes one call of its own**, and that ends with exit code 0. -/
theorem backup_once (h : Done target x o l) :
    l.countP Event.isBackup = if o.isCreated l then 1 else 0 := by
  cases h with
  | raw hr => rfl
  | upload y source destination size => rfl
  | uploadDir files =>
    have hzero (f : String × Transfer × Nat) (destination : String) :
        (sendCalls target f.2.1 f.1 destination f.2.2).countP Event.isBackup = 0 := rfl
    simp [List.countP_flatMap, Function.comp_def, hzero, Operation.isCreated, Operation.isBackup]
  | present d hr => simp [Operation.isCreated, Operation.isBackup, Event.isBackup, Event.isFinding, hr]
  | moved d hr hm => simp [Operation.isCreated, Operation.isBackup, Event.isBackup, Event.isFinding, hr]
  | archived d hr => simp [Operation.isCreated, Operation.isBackup, Event.isBackup, Event.isFinding, hr]
  | packed d hr hz hm =>
    simp [Operation.isCreated, Operation.isBackup, Event.isBackup, Event.isFinding, hr]

end Done

/-! ## Operations that go well -/

variable {σ : Type} {c : Connector σ} {g : Settings} {x : Session} {target : Target} {s s₁ : σ}
  {l : List Event}

/-- A report with what one operation adds to it, by the calls it made. -/
def ServerReport.credit (r : ServerReport) (o : Operation) (l : List Event) : ServerReport :=
  { r with
    uploaded := r.uploaded + l.countP Event.isUpload
    backupsCreated := r.backupsCreated + if o.isCreated l then 1 else 0
    backupsSkipped := r.backupsSkipped + if o.isSkipped l then 1 else 0 }

theorem ServerReport.after_one (r : ServerReport) (command : String) (l : List Event) :
    r.after [(command, l)] =
      { r.credit (.ofCommand command) l with executed := r.executed + 1 } := by
  simp [after, credit, List.countP_cons]

/-- What is added for a backup that found its dated path taken. -/
theorem ServerReport.credit_skipped (r : ServerReport) {o : Operation} (ho : o.isBackup = true)
    (hu : l.countP Event.isUpload = 0) (hf : l.any Event.isFinding = true) (path : String) :
    r.recordBackup (.alreadyExists path) = r.credit o l := by
  simp [recordBackup, credit, Operation.isCreated, Operation.isSkipped, ho, hu, hf]

/-- What is added for a backup that found its dated path free. -/
theorem ServerReport.credit_created (r : ServerReport) {o : Operation} (ho : o.isBackup = true)
    (hu : l.countP Event.isUpload = 0) (hf : l.any Event.isFinding = false) (path : String) :
    r.recordBackup (.created path) = r.credit o l := by
  simp [recordBackup, credit, Operation.isCreated, Operation.isSkipped, ho, hu, hf]

/-- What is added for an operation that is no backup: its uploads. -/
theorem ServerReport.credit_other (r : ServerReport) {o : Operation} (ho : o.isBackup = false) :
    r.credit o l = { r with uploaded := r.uploaded + l.countP Event.isUpload } := by
  simp [credit, Operation.isCreated, Operation.isSkipped, ho]

namespace Backup

variable {path name : String} {paths : List String} {d : Date} {o : BackupOutcome}

/-- A rename that goes well has found something, or has moved the path. -/
theorem rename_done (target : Target) (h : rename c x path d s = ⟨.ok o, s₁, l⟩)
    (r : ServerReport) :
    Done target x (.backup path) (calls l) ∧
      r.recordBackup o = r.credit (.backup path) (calls l) := by
  rcases hl : c.exec x (listCommand (renamePath path d)) s with ⟨e | a, s₂⟩
  · rw [rename_error hl] at h
    cases h
  cases ha : a.stdout.isAllBlank with
  | false =>
    obtain ⟨record, ho⟩ := rename_present hl ha
    rw [ho] at h
    cases h
    exact ⟨.present d ha, r.credit_skipped rfl rfl (by simp [Event.isCall, Event.isFinding, ha]) _⟩
  | true =>
    rcases hm : c.exec x (moveCommand path (renamePath path d)) s₂ with ⟨e | m, s₃⟩
    · obtain ⟨record, ho⟩ := rename_absent hl ha (checked_error hm)
      rw [ho] at h
      cases h
    by_cases hz : m.exitCode = 0
    · obtain ⟨record, ho⟩ := rename_absent hl ha (checked_zero hm hz)
      rw [ho] at h
      cases h
      exact ⟨.moved d ha hz,
        r.credit_created rfl rfl (by simp [Event.isCall, Event.isFinding, ha]) _⟩
    · obtain ⟨record, ho⟩ := rename_absent hl ha (checked_nonzero hm hz)
      rw [ho] at h
      cases h

/-- An archive that goes well has found something, or has been packed. -/
theorem archive_done (target : Target) (h : archive c x name paths d s = ⟨.ok o, s₁, l⟩)
    (r : ServerReport) :
    Done target x (.zipBackup name paths) (calls l) ∧
      r.recordBackup o = r.credit (.zipBackup name paths) (calls l) := by
  rcases hl : c.exec x (listCommand (archivePath name d)) s with ⟨e | a, s₂⟩
  · rw [archive_error hl] at h
    cases h
  cases ha : a.stdout.isAllBlank with
  | false =>
    obtain ⟨record, ho⟩ := archive_present hl ha
    rw [ho] at h
    cases h
    exact ⟨.archived d ha, r.credit_skipped rfl rfl (by simp [Event.isCall, Event.isFinding, ha]) _⟩
  | true =>
    rcases hz : c.exec x archiverCommand s₂ with ⟨e | z, s₃⟩
    · obtain ⟨record, ho⟩ := archive_unlocated hl ha (archiver_error hz)
      rw [ho] at h
      cases h
    by_cases hb : firstLine z.stdout = ""
    · obtain ⟨record, ho⟩ := archive_unlocated hl ha (archiver_missing hz hb)
      rw [ho] at h
      cases h
    obtain ⟨record, hf⟩ := archiver_found hz hb
    rcases hm : c.exec x (packCommand (firstLine z.stdout) (archivePath name d) paths) s₃ with
      ⟨e | m, s₄⟩
    · obtain ⟨record', ho⟩ := archive_located hl ha hf (checked_error hm)
      rw [ho] at h
      cases h
    by_cases hzero : m.exitCode = 0
    · obtain ⟨record', ho⟩ := archive_located hl ha hf (checked_zero hm hzero)
      rw [ho] at h
      cases h
      have hb' : Conduct.startsBlank z.stdout = false := by
        rw [← Bool.not_eq_true, ← firstLine_eq_empty]
        exact hb
      exact ⟨.packed d ha hb' hzero,
        r.credit_created rfl rfl (by simp [Event.isCall, Event.isFinding, ha]) _⟩
    · obtain ⟨record', ho⟩ := archive_located hl ha hf (checked_nonzero hm hzero)
      rw [ho] at h
      cases h

end Backup

namespace Engine

variable {v v' : Serving σ}

theorem uploadFile_done {source destination : String}
    (h : uploadFile c g target source destination s = ⟨.ok (), s₁, l⟩) :
    ∃ y size, calls l = sendCalls target y source destination size := by
  rcases hn : sourceSize (c.files s) source with e | n
  · rw [uploadFile_unreadable hn] at h
    cases h
  rcases hy : c.openTransfer target s with ⟨e | y, s₂⟩
  · rw [uploadFile_refused hn hy] at h
    cases h
  rcases hu : c.upload y source destination s₂ with ⟨e | _, s₃⟩
  · rw [uploadFile_broken hn hy hu] at h
    cases h
  · obtain ⟨record, ho⟩ := uploadFile_sent (g := g) hn hy hu
    rw [ho] at h
    cases h
    exact ⟨y, n, by simp [Event.isCall, sendCalls]⟩

theorem uploadCounted_done {source destination : String}
    (h : uploadCounted c g target source destination v = ⟨.ok (), v', l⟩) :
    (∃ y size, calls l = sendCalls target y source destination size) ∧
      v'.report = { v.report with uploaded := v.report.uploaded + (calls l).countP Event.isUpload } := by
  rcases hf : uploadFile c g target source destination v.outside with ⟨e | _, s₁, l₁⟩
  · rw [uploadCounted_error hf] at h
    cases h
  · rw [uploadCounted_ok hf] at h
    cases h
    obtain ⟨y, size, hl⟩ := uploadFile_done hf
    exact ⟨⟨y, size, hl⟩, by rw [hl]; rfl⟩

theorem uploadAll_done {directory : String} (files : List String) :
    ∀ {v : Serving σ} {l : List Event},
      uploadAll c g target directory files v = ⟨.ok (), v', l⟩ →
      (∃ sent : List (String × Transfer × Nat), calls l = sent.flatMap fun f =>
          sendCalls target f.2.1 f.1 (destinationOf directory f.1) f.2.2) ∧
        v'.report =
          { v.report with uploaded := v.report.uploaded + (calls l).countP Event.isUpload } := by
  induction files with
  | nil =>
    intro v l h
    cases h
    exact ⟨⟨[], rfl⟩, rfl⟩
  | cons file files ih =>
    intro v l h
    rcases ho : uploadCounted c g target file (destinationOf directory file) v with ⟨e | _, v₁, l₁⟩
    · rw [uploadAll, Step.bind_error ho] at h
      cases h
    · rw [uploadAll, Step.bind_ok ho] at h
      rcases ho' : uploadAll c g target directory files v₁ with ⟨r, v₂, l₂⟩
      rw [ho'] at h
      cases h
      obtain ⟨⟨y, size, hfirst⟩, hreport⟩ := uploadCounted_done ho
      obtain ⟨⟨sent, hl⟩, hreport'⟩ := ih ho'
      refine ⟨⟨(file, y, size) :: sent, by simp [hfirst, hl]⟩, ?_⟩
      rw [hreport', hreport]
      simp [List.countP_append, Nat.add_assoc]

theorem recorded_done {b : Date → Step σ BackupOutcome} {o : Operation}
    (hb : ∀ d s₀ a s₁ k, b d s₀ = ⟨.ok a, s₁, k⟩ → ∀ r : ServerReport,
      Done target x o (calls k) ∧ r.recordBackup a = r.credit o (calls k))
    (h : recorded c g target b v = ⟨.ok (), v', l⟩) :
    Done target x o (calls l) ∧ v'.report = v.report.credit o (calls l) := by
  rcases hd : b (g.date.getD (c.today v.outside)) v.outside with ⟨e | a, s₁, k⟩
  · rw [recorded_error hd] at h
    cases h
  · obtain ⟨records, hr⟩ := recorded_ok (r := v.report) target hd
    rw [hr] at h
    cases h
    simpa using hb _ _ _ _ _ hd v.report

/-- **An operation that goes well** adds to the report what its calls add up to. -/
theorem dispatch_done {o : Operation} (h : dispatch c g x target o v = ⟨.ok (), v', l⟩) :
    Done target x o (calls l) ∧ v'.report = v.report.credit o (calls l) := by
  cases o with
  | raw command =>
    rcases ha : c.exec x command v.outside with ⟨e | a, s₁⟩
    · rw [dispatch_raw_error ha] at h
      cases h
    · rw [dispatch_raw_ok ha] at h
      by_cases hz : a.exitCode = 0
      · rw [if_pos hz] at h
        cases h
        have hl : calls (.exec x .command command (.ok a) :: (g.terminal.output a).map .print) =
            [.exec x .command command (.ok a)] := by simp [Event.isCall]
        rw [hl]
        exact ⟨.raw hz, by rw [ServerReport.credit_other _ rfl]; rfl⟩
      · rw [if_neg hz] at h
        cases h
  | upload source destination =>
    obtain ⟨⟨y, size, hl⟩, hr⟩ := uploadCounted_done h
    refine ⟨?_, by rw [hr, ServerReport.credit_other _ rfl]⟩
    rw [hl]
    exact .upload y source destination size
  | uploadDir source destination limit =>
    rcases hf : Selection.files (c.files v.outside) source limit.toNat with e | files
    · rw [dispatch_uploadDir_error hf] at h
      cases h
    · obtain ⟨record, ho⟩ :=
        dispatch_uploadDir_ok (g := g) (x := x) (r := v.report) target destination hf
      rcases hu : uploadAll c g target destination files v with ⟨r, v₁, l₁⟩
      rw [ho, hu] at h
      cases h
      obtain ⟨⟨sent, hl⟩, hr⟩ := uploadAll_done files hu
      refine ⟨?_, by rw [hr, ServerReport.credit_other _ rfl]; simp [Event.isCall]⟩
      simpa [Event.isCall, hl] using Done.uploadDir sent
  | backup path =>
    rw [dispatch_backup] at h
    exact recorded_done (fun d s₀ a s₁ k hk r => Backup.rename_done target hk r) h
  | zipBackup name paths =>
    rw [dispatch_zipBackup] at h
    exact recorded_done (fun d s₀ a s₁ k hk r => Backup.archive_done target hk r) h

theorem runCommand_done {command : String}
    (h : runCommand c g x target command v = ⟨.ok (), v', l⟩) :
    Done target x (.ofCommand command) (calls l) ∧
      v'.report = v.report.after [(command, calls l)] := by
  rcases hd : dispatch c g x target (.ofCommand command) v with ⟨e | _, v₁, l₁⟩
  · obtain ⟨record, ho⟩ := runCommand_error hd
    rw [ho] at h
    cases h
  · obtain ⟨record, ho⟩ := runCommand_ok hd
    rw [ho] at h
    cases h
    obtain ⟨hdone, hreport⟩ := dispatch_done hd
    have hl : calls (.log record ::
        ((g.terminal.command command (.ofCommand command)).map .print ++ l₁)) = calls l₁ := by
      simp [Event.isCall]
    rw [hl, ServerReport.after_one, hreport]
    exact ⟨hdone, rfl⟩

/-- **Commands that go well**, each with its calls. -/
theorem runCommands_done (commands : List String) : ∀ {v : Serving σ} {l : List Event},
    runCommands c g x target commands v = ⟨.ok (), v', l⟩ →
    ∃ work : List (String × List Event), work.map (·.1) = commands ∧
      (∀ w ∈ work, Done target x (.ofCommand w.1) w.2) ∧ calls l = work.flatMap (·.2) ∧
      v'.report = v.report.after work := by
  induction commands with
  | nil =>
    intro v l h
    cases h
    exact ⟨[], rfl, by simp, rfl, rfl⟩
  | cons command commands ih =>
    intro v l h
    rcases ho : runCommand c g x target command v with ⟨e | _, v₁, l₁⟩
    · rw [runCommands_error ho] at h
      cases h
    · rw [runCommands_ok ho] at h
      rcases ho' : runCommands c g x target commands v₁ with ⟨r, v₂, l₂⟩
      rw [ho'] at h
      cases h
      obtain ⟨hdone, hreport⟩ := runCommand_done ho
      obtain ⟨work, hcommands, hwork, hl, hreport'⟩ := ih ho'
      refine ⟨(command, calls l₁) :: work, by simp [hcommands], ?_, by simp [hl], ?_⟩
      · intro w hw
        rcases List.mem_cons.1 hw with rfl | hw
        · exact hdone
        · exact hwork w hw
      · rw [ServerReport.after_cons, ← hreport, hreport']

/-- A task that goes well. -/
theorem execute_done {t : Task} {r : ServerReport} (h : execute c g t s = ⟨.ok r, s₁, l⟩) :
    Served (targetOf g t) t r (calls l) := by
  rcases hx : c.connect (targetOf g t) s with ⟨e | x, s₂⟩
  · obtain ⟨record, ho⟩ := execute_refused hx
    rw [ho] at h
    cases h
  · rcases hr : runCommands c g x (targetOf g t) t.commands ⟨s₂, { host := t.host }⟩ with
      ⟨e | _, v, k⟩
    · obtain ⟨record, record', ho⟩ := execute_served hx hr
      rw [ho] at h
      cases h
    · obtain ⟨record, record', ho⟩ := execute_served hx hr
      rw [ho] at h
      cases h
      obtain ⟨work, hcommands, hwork, hl, hreport⟩ := runCommands_done t.commands hr
      have hs : Served (targetOf g t) t v.report
          (.connect (targetOf g t) (.ok x) :: (work.flatMap (·.2) ++ [.close x])) := by
        refine .mk x work hcommands hwork ?_ ?_ ?_ ?_ ?_ <;> rw [hreport]
        · rfl
        · simp [ServerReport.after, ← hcommands]
        · simp [ServerReport.after]
        · simp [ServerReport.after]
        · simp [ServerReport.after]
      simpa [Event.isCall, hl] using hs

end Engine

/-! ## Totals -/

namespace Done

variable {o : Operation}

theorem faultless (h : Done target x o l) : ∀ a ∈ l, a.fault? = none := by
  have hsent (y : Transfer) (source destination : String) (size : Nat) :
      ∀ a ∈ sendCalls target y source destination size, a.fault? = none := by
    simp [sendCalls, Event.fault?]
  cases h with
  | raw hr => simp [Event.fault?, hr]
  | upload y source destination size => exact hsent y source destination size
  | uploadDir files =>
    intro a ha
    obtain ⟨f, -, hf⟩ := List.mem_flatMap.1 ha
    exact hsent _ _ _ _ a hf
  | present d hr => simp [Event.fault?]
  | moved d hr hm => simp [Event.fault?, hm]
  | archived d hr => simp [Event.fault?]
  | packed d hr hz hm => simp [Event.fault?, hm, hz]

end Done

namespace Served

variable {t : Task} {r : ServerReport}

theorem commands (h : Served target t r l) : r.executed = t.commands.length := by
  obtain ⟨x, work, -, -, -, hexecuted, -, -, -⟩ := h
  exact hexecuted

theorem uploads (h : Served target t r l) : r.uploaded = l.countP Event.isUpload := by
  obtain ⟨x, work, -, -, -, -, huploaded, -, -⟩ := h
  rw [huploaded]
  simp [List.countP_append, Event.isUpload]

theorem backups (h : Served target t r l) : r.backupsCreated = l.countP Event.isBackup := by
  obtain ⟨x, work, -, hdone, -, -, -, hcreated, -⟩ := h
  have hwork : (work.flatMap (·.2)).countP Event.isBackup =
      work.countP fun w => (Operation.ofCommand w.1).isCreated w.2 := by
    clear hcreated
    induction work with
    | nil => rfl
    | cons w work ih =>
      have hw := (hdone w (by simp)).backup_once
      have hrest := ih fun w' hw' => hdone w' (by simp [hw'])
      rw [List.flatMap_cons, List.countP_append, hw, hrest, List.countP_cons]
      omega
  rw [hcreated, ← hwork]
  simp [List.countP_append, Event.isBackup]

theorem faultless (h : Served target t r l) : ∀ a ∈ l, a.fault? = none := by
  obtain ⟨x, work, -, hdone, -, -, -, -, -⟩ := h
  intro a ha
  simp only [List.mem_cons, List.mem_append, List.mem_flatMap, List.not_mem_nil, or_false] at ha
  rcases ha with rfl | ⟨w, hw, ha⟩ | rfl
  · rfl
  · exact (hdone w hw).faultless a ha
  · rfl

end Served

/-- Tasks that go well, each with its report and its calls. -/
theorem Run.tasksFrom_done (total : Nat) (ts : List Task) :
    ∀ {index : Nat} {s s₁ : σ} {rs : List ServerReport} {l : List Event},
      tasksFrom c g total index ts s = ⟨.ok rs, s₁, l⟩ →
      ∃ done : List (ServerReport × List Event), rs = done.map (·.1) ∧
        calls l = done.flatMap (·.2) ∧
        List.Forall₂ (fun t d => Served (Engine.targetOf g t) t d.1 d.2) ts done := by
  induction ts with
  | nil =>
    intro index s s₁ rs l h
    cases h
    exact ⟨[], rfl, rfl, .nil⟩
  | cons t ts ih =>
    intro index s s₁ rs l h
    rcases he : Engine.execute c g t s with ⟨e | r, s₂, l₁⟩
    · obtain ⟨record, ho⟩ := task_eq total index he
      rw [tasksFrom_error ho] at h
      cases h
    · obtain ⟨record, ho⟩ := task_eq total index he
      rw [tasksFrom_ok ho] at h
      rcases hrest : tasksFrom c g total (index + 1) ts s₂ with ⟨e | rs', s₃, l₂⟩
      · rw [hrest] at h
        cases h
      · rw [hrest] at h
        cases h
        obtain ⟨done, rfl, hl, hdone⟩ := ih hrest
        exact ⟨(r, calls l₁) :: done, rfl, by simp [Event.isCall, hl],
          .cons (Engine.execute_done he) hdone⟩

/-- What is counted in each report, in the order of the tasks, and once more in all calls. -/
theorem sum_counts {count : ServerReport → Nat} {p : Event → Bool} {ts : List Task}
    {done : List (ServerReport × List Event)}
    (hdone : List.Forall₂ (fun t d => Served (Engine.targetOf g t) t d.1 d.2) ts done)
    (hp : ∀ {target t r l}, Served target t r l → count r = l.countP p) :
    ((done.map (·.1)).map count).foldr (· + ·) 0 = (done.flatMap (·.2)).countP p := by
  induction hdone with
  | nil => rfl
  | cons hd _ ih =>
    simp only [List.map_cons, List.foldr_cons, List.flatMap_cons, List.countP_append, ih, hp hd]

/-- **The recap of a run that succeeds** has a report for each task, in order, with its host; the
report counts the commands of the task, the uploads among its calls, and the backups by what their
listings found. In all, so many commands were executed as the plan counts, so many files uploaded as
there were upload calls, and so many backups created as there were calls to make one; and no call
failed. -/
theorem tasks_recap (c : Connector σ) (g : Settings) (ts : List Task) (s : σ) (r : RunRecap)
    (h : (Run.tasks c g ts s).result = .ok r) :
    (∃ done : List (ServerReport × List Event),
      r.servers = done.map (·.1) ∧ calls (Run.tasks c g ts s).trace = done.flatMap (·.2) ∧
      List.Forall₂ (fun t d => Served (Engine.targetOf g t) t d.1 d.2) ts done) ∧
    r.totalExecuted = Task.totalCommands ts ∧
    r.totalUploaded = (calls (Run.tasks c g ts s).trace).countP Event.isUpload ∧
    (r.servers.map (·.backupsCreated)).foldr (· + ·) 0 =
      (calls (Run.tasks c g ts s).trace).countP Event.isBackup ∧
    ∀ a ∈ calls (Run.tasks c g ts s).trace, a.fault? = none := by
  rw [Run.tasks_eq] at h ⊢
  rcases ho : Run.tasksFrom c g ts.length 1 ts s with ⟨e | rs, s₁, l⟩
  · rw [ho] at h
    cases h
  rw [ho] at h
  obtain rfl : { servers := rs } = r := by simpa [Except.map] using h
  obtain ⟨done, rfl, hl, hdone⟩ := Run.tasksFrom_done ts.length ts ho
  refine ⟨⟨done, rfl, hl, hdone⟩, ?_, ?_, ?_, ?_⟩
  · show ((done.map (·.1)).map (·.executed)).foldr (· + ·) 0 = _
    clear h hl ho
    unfold Task.totalCommands
    induction hdone with
    | nil => rfl
    | cons hd _ ih =>
      simp only [List.map_cons, List.foldr_cons, ih, hd.commands]
  · simp only [hl]
    exact sum_counts hdone Served.uploads
  · simp only [hl]
    exact sum_counts hdone Served.backups
  · simp only [hl]
    intro a ha
    obtain ⟨d, hd, ha⟩ := List.mem_flatMap.1 ha
    obtain ⟨i, hi, rfl⟩ := List.getElem_of_mem hd
    exact (hdone.get (by rw [hdone.length_eq]; exact hi) hi).faultless a ha

theorem tasks_recap_script :
    let c := ({ replies := [⟨"ls -al a-20240101", none, [.result {}, .result { stdout := "a" }]⟩] } :
      Script).connector
    let g : Settings := { terminal := { quiet := true }, date := some .newYear2024 }
    let files : Tree :=
      { nodes := [([['d']], .directory), ([['d'], ['e']], .file [104, 105] (.now 0))], clock := 1 }
    let s : Script.State := { files, used := [0] }
    let first : Task := ⟨"10.0.0.1", 22, "root", "secret", ["bak a", "uploaddir d /srv"]⟩
    let second : Task := ⟨"10.0.0.2", 22, "root", "secret", ["bak a"]⟩
    ∃ r : RunRecap, (Run.tasks c g [first, second] s).result = .ok r ∧
      r.servers = [⟨"10.0.0.1", 2, 1, 1, 0⟩, ⟨"10.0.0.2", 1, 0, 0, 1⟩] ∧
      r.totalExecuted = Task.totalCommands [first, second] ∧
      (calls (Run.tasks c g [first, second] s).trace).countP Event.isUpload = 1 := by
  intro c g files s first second
  have h : (Run.tasks c g [first, second] s).result =
      .ok { servers := [⟨"10.0.0.1", 2, 1, 1, 0⟩, ⟨"10.0.0.2", 1, 0, 0, 1⟩] } := by
    decide +kernel
  obtain ⟨-, hexecuted, huploaded, -⟩ := tasks_recap c g [first, second] s _ h
  exact ⟨_, h, rfl, hexecuted, huploaded.symm⟩

end Rollout
