import Mathlib.Data.List.DropRight
import Rollout.Proofs.Along

/-!
# Why a task fails

What becomes of a task, told by rules that say nothing of how tasks are run. There is one rule for each
way in which something can fail or go well, given what the outside replies and which local files there
are.

* `Conduct.Ended` is the rule for a task; `Checked`, `Sent`, `Renamed`, `Archived` and `Carried` are
  the rules for what it is made of, and `InTurn` those for one thing after another.
* `Event.fault?` is the failure that a single call or look at a file stands for, if any.
* `Conduct.Ended.unique`: the rules leave nothing open. `execute_ended`: a task follows them.
* `execute_error_iff`: a task fails exactly as the rules say, and with the one fault in its trace.
-/

namespace Rollout

/-- What can become of a step: where it starts, the error if it fails, and where it ends. -/
abbrev Conduct (σ : Type) := σ → Option DeployError → σ → Prop

namespace Conduct

variable {σ : Type} (c : Connector σ) (g : Settings) (x : Session) (target : Target)

/-- A command that must end with exit code 0. -/
inductive Checked (command : String) : Conduct σ
  | unanswered {s e s₁} : c.exec x command s = (.error e, s₁) → Checked command s (some e) s₁
  | nonzero {s r s₁} : c.exec x command s = (.ok r, s₁) → r.exitCode ≠ 0 →
      Checked command s (some (.remote x.name command
        ("Command exited with code " ++ toString r.exitCode) (some r.exitCode) (some r.stderr))) s₁
  | zero {s r s₁} : c.exec x command s = (.ok r, s₁) → r.exitCode = 0 → Checked command s none s₁

/-- A local file that is sent in a session of its own, which is closed if it was opened. -/
inductive Sent (source destination : String) : Conduct σ
  | unreadable {s f} : (c.files s).stat source.toList = .error f →
      Sent source destination s
        (some (.filesystem ("Upload source not readable: " ++ f.message) source)) s
  | irregular {s node} : (c.files s).stat source.toList = .ok node →
      (∀ content written, node ≠ .file content written) →
      Sent source destination s (some (.filesystem "Upload source is not a file" source)) s
  | refused {s content written e s₁} :
      (c.files s).stat source.toList = .ok (.file content written) →
      c.openTransfer target s = (.error e, s₁) → Sent source destination s (some e) s₁
  | broken {s content written y s₁ e s₂} :
      (c.files s).stat source.toList = .ok (.file content written) →
      c.openTransfer target s = (.ok y, s₁) → c.upload y source destination s₁ = (.error e, s₂) →
      Sent source destination s (some e) (c.closeTransfer y s₂)
  | whole {s content written y s₁ s₂} :
      (c.files s).stat source.toList = .ok (.file content written) →
      c.openTransfer target s = (.ok y, s₁) → c.upload y source destination s₁ = (.ok (), s₂) →
      Sent source destination s none (c.closeTransfer y s₂)

/-- One thing after another, up to the first that fails. -/
inductive InTurn {α : Type} (p : α → Conduct σ) : List α → Conduct σ
  | nil {s} : InTurn p [] s none s
  | stopped {a l s e s₁} : p a s (some e) s₁ → InTurn p (a :: l) s (some e) s₁
  | cons {a l s s₁ o s₂} : p a s none s₁ → InTurn p l s₁ o s₂ → InTurn p (a :: l) s o s₂

/-- A path that is moved to its dated name, if nothing is listed there. How the listing exits makes no
difference. -/
inductive Renamed (path : String) (d : Date) : Conduct σ
  | unlisted {s e s₁} :
      c.exec x (Backup.listCommand (Backup.renamePath path d)) s = (.error e, s₁) →
      Renamed path d s (some e) s₁
  | present {s r s₁} : c.exec x (Backup.listCommand (Backup.renamePath path d)) s = (.ok r, s₁) →
      r.stdout.isAllBlank = false → Renamed path d s none s₁
  | absent {s r s₁ o s₂} :
      c.exec x (Backup.listCommand (Backup.renamePath path d)) s = (.ok r, s₁) →
      r.stdout.isAllBlank = true →
      Checked c x (Backup.moveCommand path (Backup.renamePath path d)) s₁ o s₂ →
      Renamed path d s o s₂

/-- Whether the first line of a text is blank or absent. -/
def startsBlank (text : String) : Bool := ((Text.lines text.toList).headD []).all Text.isBlank

/-- Paths that are packed into a dated archive, if nothing is listed there. The archiver is what is
printed first where it is looked for; neither the exit code of that nor of the listing makes a
difference. -/
inductive Archived (name : String) (paths : List String) (d : Date) : Conduct σ
  | unlisted {s e s₁} :
      c.exec x (Backup.listCommand (Backup.archivePath name d)) s = (.error e, s₁) →
      Archived name paths d s (some e) s₁
  | present {s r s₁} : c.exec x (Backup.listCommand (Backup.archivePath name d)) s = (.ok r, s₁) →
      r.stdout.isAllBlank = false → Archived name paths d s none s₁
  | unlocated {s r s₁ e s₂} :
      c.exec x (Backup.listCommand (Backup.archivePath name d)) s = (.ok r, s₁) →
      r.stdout.isAllBlank = true → c.exec x "command -v zip" s₁ = (.error e, s₂) →
      Archived name paths d s (some e) s₂
  | missing {s r s₁ z s₂} :
      c.exec x (Backup.listCommand (Backup.archivePath name d)) s = (.ok r, s₁) →
      r.stdout.isAllBlank = true → c.exec x "command -v zip" s₁ = (.ok z, s₂) →
      startsBlank z.stdout = true →
      Archived name paths d s (some (.remote x.name "command -v zip"
        "zip is not installed on the remote host" none none)) s₂
  | packed {s r s₁ z s₂ o s₃} :
      c.exec x (Backup.listCommand (Backup.archivePath name d)) s = (.ok r, s₁) →
      r.stdout.isAllBlank = true → c.exec x "command -v zip" s₁ = (.ok z, s₂) →
      startsBlank z.stdout = false →
      Checked c x (Backup.packCommand (Backup.firstLine z.stdout) (Backup.archivePath name d) paths)
        s₂ o s₃ →
      Archived name paths d s o s₃

/-- One operation. A directory that is sent has to be listed, and to its end. -/
inductive Carried : Operation → Conduct σ
  | raw {command s o s₁} : Checked c x command s o s₁ → Carried (.raw command) s o s₁
  | upload {source destination s o s₁} : Sent c target source destination s o s₁ →
      Carried (.upload source destination) s o s₁
  | unlisted {source destination limit s f} : (c.files s).list source.toList = .error f →
      Carried (.uploadDir source destination limit) s
        (some (.filesystem ("Upload directory not readable: " ++ f.message) source)) s
  | interrupted {source destination limit s names f} :
      (c.files s).list source.toList = .ok ⟨names, some f⟩ →
      Carried (.uploadDir source destination limit) s
        (some (.filesystem ("Failed to list upload directory: " ++ f.message) source)) s
  | directory {source destination limit s names files o s₁} :
      (c.files s).list source.toList = .ok ⟨names, none⟩ →
      Selection.files (c.files s) source limit.toNat = .ok files →
      InTurn (fun file => Sent c target file (Engine.destinationOf destination file)) files s o s₁ →
      Carried (.uploadDir source destination limit) s o s₁
  | backup {path s o s₁} : Renamed c x path (g.date.getD (c.today s)) s o s₁ →
      Carried (.backup path) s o s₁
  | zipBackup {archive paths s o s₁} :
      Archived c x archive paths (g.date.getD (c.today s)) s o s₁ →
      Carried (.zipBackup archive paths) s o s₁

/-- A task: its commands in turn, in a session that is closed if it was opened. -/
inductive Ended (t : Task) : Conduct σ
  | refused {s e s₁} : c.connect (Engine.targetOf g t) s = (.error e, s₁) → Ended t s (some e) s₁
  | served {s x s₁ o s₂} : c.connect (Engine.targetOf g t) s = (.ok x, s₁) →
      InTurn (fun command => Carried c g x (Engine.targetOf g t) (Operation.ofCommand command))
        t.commands s₁ o s₂ →
      Ended t s o (c.close x s₂)

/-! ### The rules leave nothing open -/

/-- From one state there is one way to end. -/
def Unique (p : Conduct σ) : Prop :=
  ∀ ⦃s o s₁ o' s₂⦄, p s o s₁ → p s o' s₂ → o' = o ∧ s₂ = s₁

variable {c g x target}

theorem Checked.unique {command : String} : Unique (Checked c x command) := by
  intro s o s₁ o' s₂ h h'
  cases h <;> cases h' <;> simp_all

theorem Sent.unique {source destination : String} :
    Unique (Sent c target source destination) := by
  intro s o s₁ o' s₂ h h'
  cases h with
  | irregular hn hi =>
    cases h' with
    | unreadable hn' => simp_all
    | irregular hn' => exact ⟨rfl, rfl⟩
    | refused hn' | broken hn' | whole hn' =>
      exact absurd (Except.ok.inj (hn.symm.trans hn')) (hi _ _)
  | _ => cases h' <;> simp_all

theorem InTurn.unique {α : Type} {p : α → Conduct σ} (hp : ∀ a, Unique (p a)) (l : List α) :
    Unique (InTurn p l) := by
  intro s o s₁ o' s₂ h
  induction h generalizing o' s₂ with
  | nil => intro h'; cases h'; exact ⟨rfl, rfl⟩
  | stopped ha =>
    intro h'
    cases h' with
    | stopped ha' => exact hp _ ha ha'
    | cons ha' _ => cases (hp _ ha ha').1
  | cons ha _ ih =>
    intro h'
    cases h' with
    | stopped ha' => cases (hp _ ha ha').1
    | cons ha' hl' =>
      -- Both go on, and from the same state.
      obtain ⟨_, rfl⟩ := hp _ ha ha'
      exact ih hl'

theorem Renamed.unique {path : String} {d : Date} : Unique (Renamed c x path d) := by
  intro s o s₁ o' s₂ h h'
  cases h with
  | unlisted hl => cases h' <;> simp_all
  | present hl hr => cases h' <;> simp_all
  | absent hl hr hm =>
    cases h' with
    | unlisted hl' => simp_all
    | present hl' hr' => simp_all
    | absent hl' hr' hm' =>
      obtain ⟨_, rfl⟩ := Prod.mk.inj (hl.symm.trans hl')
      exact Checked.unique hm hm'

theorem Archived.unique {name : String} {paths : List String} {d : Date} :
    Unique (Archived c x name paths d) := by
  intro s o s₁ o' s₂ h h'
  cases h with
  | unlisted hl => cases h' <;> simp_all
  | present hl hr => cases h' <;> simp_all
  | unlocated hl hr hz => cases h' <;> simp_all
  | missing hl hr hz hb => cases h' <;> simp_all
  | packed hl hr hz hb hm =>
    cases h' with
    | packed hl' hr' hz' hb' hm' =>
      obtain ⟨_, rfl⟩ := Prod.mk.inj (hl.symm.trans hl')
      obtain ⟨hzz, rfl⟩ := Prod.mk.inj (hz.symm.trans hz')
      obtain rfl := Except.ok.inj hzz
      exact Checked.unique hm hm'
    | _ => simp_all

theorem Carried.unique {o : Operation} : Unique (Carried c g x target o) := by
  intro s e s₁ e' s₂ h h'
  cases h with
  | raw h => cases h' with | raw h' => exact Checked.unique h h'
  | upload h => cases h' with | upload h' => exact Sent.unique h h'
  | unlisted h | interrupted h => cases h' <;> simp_all
  | directory hn hf h =>
    cases h' with
    | unlisted hn' | interrupted hn' => simp_all
    | directory hn' hf' h' =>
      obtain rfl := Except.ok.inj (hf.symm.trans hf')
      exact InTurn.unique (fun _ => Sent.unique) _ h h'
  | backup h => cases h' with | backup h' => exact Renamed.unique h h'
  | zipBackup h => cases h' with | zipBackup h' => exact Archived.unique h h'

/-- **A task ends in one way only.** -/
theorem Ended.unique {t : Task} : Unique (Ended c g t) := by
  intro s o s₁ o' s₂ h h'
  cases h with
  | refused hx => cases h' <;> simp_all
  | served hx h =>
    cases h' with
    | refused hx' => simp_all
    | served hx' h' =>
      obtain ⟨hxx, rfl⟩ := Prod.mk.inj (hx.symm.trans hx')
      obtain rfl := Except.ok.inj hxx
      obtain ⟨ho, rfl⟩ := InTurn.unique (fun _ => Carried.unique) _ h h'
      exact ⟨ho, rfl⟩

end Conduct

/-! ## Tasks follow the rules -/

variable {σ α : Type} {c : Connector σ} {g : Settings} {x : Session} {target : Target} {s s₁ : σ}

/-- Whatever a step of a task starts from, what becomes of the outside is as said. -/
def Follows (p : Conduct σ) (a : Step (Serving σ) α) : Prop :=
  ∀ v, p v.outside (a v).failure? (a v).state.outside

theorem Follows.inTurn {p : α → Conduct σ} {f : α → Step (Serving σ) Unit}
    {k : List α → Step (Serving σ) Unit} (hnil : k [] = pure ())
    (hcons : ∀ a l, k (a :: l) = (do f a; k l)) (hf : ∀ a, Follows (p a) (f a)) (l : List α) :
    Follows (.InTurn p l) (k l) := by
  induction l with
  | nil => intro v; rw [hnil]; exact .nil
  | cons a l ih =>
    intro v
    have ha := hf a v
    rw [hcons]
    rcases h : f a v with ⟨e | _, v', trace⟩
    · rw [h] at ha
      rw [Step.bind_error h]
      exact .stopped ha
    · rw [h] at ha
      rw [Step.bind_ok h]
      exact .cons ha (ih v')

namespace Backup

theorem trim_eq_nil {l : List Char} : Text.trim l = [] ↔ l.all Text.isBlank = true := by
  have h : Text.trim l = (l.dropWhile Text.isBlank).rdropWhile Text.isBlank := rfl
  rw [h, List.rdropWhile_eq_nil_iff, ← List.dropWhile_eq_nil_iff, List.dropWhile_idempotent,
    List.dropWhile_eq_nil_iff, List.all_eq_true]

theorem firstLine_eq_empty {text : String} :
    firstLine text = "" ↔ Conduct.startsBlank text = true := by
  unfold firstLine Conduct.startsBlank
  rw [← trim_eq_nil]
  simp

theorem checked_ended (purpose : Purpose) (command : String) (s : σ) :
    Conduct.Checked c x command s (checked c x purpose command s).failure?
      (checked c x purpose command s).state := by
  rcases h : c.exec x command s with ⟨e | r, s₁⟩
  · rw [checked_error h]
    exact .unanswered h
  · by_cases hr : r.exitCode = 0
    · rw [checked_zero h hr]
      exact .zero h hr
    · rw [checked_nonzero h hr]
      exact .nonzero h hr

theorem rename_ended (path : String) (d : Date) (s : σ) :
    Conduct.Renamed c x path d s (rename c x path d s).failure? (rename c x path d s).state := by
  rcases h : c.exec x (listCommand (renamePath path d)) s with ⟨e | r, s₁⟩
  · rw [rename_error h]
    exact .unlisted h
  cases hr : r.stdout.isAllBlank with
  | false =>
    obtain ⟨record, ho⟩ := rename_present h hr
    rw [ho]
    exact .present h hr
  | true =>
    have hm := checked_ended (c := c) (x := x) .backup (moveCommand path (renamePath path d)) s₁
    rcases hc : checked c x .backup (moveCommand path (renamePath path d)) s₁ with ⟨o, s₂, l⟩
    obtain ⟨record, ho⟩ := rename_absent h hr hc
    rw [hc] at hm
    rw [ho]
    cases o <;> exact .absent h hr hm

theorem archive_ended (name : String) (paths : List String) (d : Date) (s : σ) :
    Conduct.Archived c x name paths d s (archive c x name paths d s).failure?
      (archive c x name paths d s).state := by
  rcases h : c.exec x (listCommand (archivePath name d)) s with ⟨e | r, s₁⟩
  · rw [archive_error h]
    exact .unlisted h
  cases hr : r.stdout.isAllBlank with
  | false =>
    obtain ⟨record, ho⟩ := archive_present h hr
    rw [ho]
    exact .present h hr
  | true =>
    rcases hz : c.exec x archiverCommand s₁ with ⟨e | z, s₂⟩
    · obtain ⟨record, ho⟩ := archive_unlocated h hr (archiver_error hz)
      rw [ho]
      exact .unlocated h hr hz
    by_cases hb : firstLine z.stdout = ""
    · obtain ⟨record, ho⟩ := archive_unlocated h hr (archiver_missing hz hb)
      rw [ho]
      exact .missing h hr hz (firstLine_eq_empty.1 hb)
    · have hm := checked_ended (c := c) (x := x) .backup
        (packCommand (firstLine z.stdout) (archivePath name d) paths) s₂
      rcases hc : checked c x .backup
        (packCommand (firstLine z.stdout) (archivePath name d) paths) s₂ with ⟨o, s₃, l⟩
      obtain ⟨record, hf⟩ := archiver_found hz hb
      obtain ⟨record', ho⟩ := archive_located h hr hf hc
      have hb' : Conduct.startsBlank z.stdout = false := by
        rw [← Bool.not_eq_true, ← firstLine_eq_empty]
        exact hb
      rw [hc] at hm
      rw [ho]
      cases o <;> exact .packed h hr hz hb' hm

end Backup

namespace Engine

theorem uploadFile_ended (target : Target) (source destination : String) (s : σ) :
    Conduct.Sent c target source destination s
      (uploadFile c g target source destination s).failure?
      (uploadFile c g target source destination s).state := by
  cases hn : (c.files s).stat source.toList with
  | error f =>
    rw [uploadFile_unreadable (by simp [sourceSize, hn]; rfl)]
    exact .unreadable hn
  | ok node =>
    cases node with
    | file content written =>
      have hsize : sourceSize (c.files s) source = .ok content.length := by simp [sourceSize, hn]
      rcases hy : c.openTransfer target s with ⟨e | y, s₁⟩
      · rw [uploadFile_refused hsize hy]
        exact .refused hn hy
      rcases hu : c.upload y source destination s₁ with ⟨e | _, s₂⟩
      · rw [uploadFile_broken hsize hy hu]
        exact .broken hn hy hu
      · obtain ⟨record, ho⟩ := uploadFile_sent hsize hy hu
        rw [ho]
        exact .whole hn hy hu
    | directory | link _ | null =>
      rw [uploadFile_unreadable (by simp [sourceSize, hn]; rfl)]
      exact .irregular hn (by simp)

theorem uploadCounted_ended (source destination : String) :
    Follows (.Sent c target source destination) (uploadCounted c g target source destination) := by
  intro v
  have hs := uploadFile_ended (c := c) (g := g) target source destination v.outside
  rcases h : uploadFile c g target source destination v.outside with ⟨e | _, s₁, l⟩
  · rw [h] at hs
    rw [uploadCounted_error h]
    exact hs
  · rw [h] at hs
    rw [uploadCounted_ok h]
    exact hs

theorem recorded_ended {b : Date → Step σ BackupOutcome} {p : Date → Conduct σ}
    (hb : ∀ d s, p d s (b d s).failure? (b d s).state) (v : Serving σ) :
    p (g.date.getD (c.today v.outside)) v.outside (recorded c g target b v).failure?
      (recorded c g target b v).state.outside := by
  have hs := hb (g.date.getD (c.today v.outside)) v.outside
  rcases h : b (g.date.getD (c.today v.outside)) v.outside with ⟨e | o, s₁, l⟩
  · rw [h] at hs
    rw [recorded_error h]
    exact hs
  · obtain ⟨records, ho⟩ := recorded_ok (r := v.report) target h
    rw [h] at hs
    rw [ho]
    exact hs

theorem dispatch_ended (o : Operation) :
    Follows (.Carried c g x target o) (dispatch c g x target o) := by
  intro v
  cases o with
  | raw command =>
    rcases h : c.exec x command v.outside with ⟨e | r, s₁⟩
    · rw [dispatch_raw_error h]
      exact .raw (.unanswered h)
    · rw [dispatch_raw_ok h]
      by_cases hr : r.exitCode = 0
      · rw [if_pos hr]
        exact .raw (.zero h hr)
      · rw [if_neg hr]
        exact .raw (.nonzero h hr)
  | upload source destination => exact .upload (uploadCounted_ended source destination v)
  | uploadDir source destination limit =>
    rcases hn : (c.files v.outside).list source.toList with f | ⟨names, _ | f⟩
    · rw [dispatch_uploadDir_error (by simp [Selection.files, hn]; rfl)]
      exact .unlisted hn
    · obtain ⟨files, hf⟩ : ∃ files, Selection.files (c.files v.outside) source limit.toNat =
          .ok files := by simp [Selection.files, hn]
      obtain ⟨record, ho⟩ :=
        dispatch_uploadDir_ok (g := g) (x := x) (r := v.report) target destination hf
      rw [ho]
      exact .directory hn hf (Follows.inTurn (k := uploadAll c g target destination) rfl
        (fun _ _ => rfl) (fun file => uploadCounted_ended file (destinationOf destination file))
        files v)
    · rw [dispatch_uploadDir_error (by simp [Selection.files, hn]; rfl)]
      exact .interrupted hn
  | backup path => exact .backup (recorded_ended (Backup.rename_ended path) v)
  | zipBackup archive paths =>
    exact .zipBackup (recorded_ended (Backup.archive_ended archive paths) v)

theorem runCommand_ended (command : String) :
    Follows (.Carried c g x target (.ofCommand command)) (runCommand c g x target command) := by
  intro v
  have hs := (dispatch_ended (.ofCommand command) : Follows (.Carried c g x target _) _) v
  rcases h : dispatch c g x target (.ofCommand command) v with ⟨e | _, v', l⟩
  · obtain ⟨record, ho⟩ := runCommand_error h
    rw [h] at hs
    rw [ho]
    exact hs
  · obtain ⟨record, ho⟩ := runCommand_ok h
    rw [h] at hs
    rw [ho]
    exact hs

end Engine

/-- **A task follows the rules.** -/
theorem execute_ended (t : Task) (s : σ) :
    Conduct.Ended c g t s (Engine.execute c g t s).failure? (Engine.execute c g t s).state := by
  rcases hx : c.connect (Engine.targetOf g t) s with ⟨e | x, s₁⟩
  · obtain ⟨record, ho⟩ := Engine.execute_refused hx
    rw [ho]
    exact .refused hx
  · have hs := Follows.inTurn (k := Engine.runCommands c g x (Engine.targetOf g t)) rfl
      (fun _ _ => rfl) Engine.runCommand_ended t.commands ⟨s₁, { host := t.host }⟩
    rcases hr : Engine.runCommands c g x (Engine.targetOf g t) t.commands ⟨s₁, { host := t.host }⟩
      with ⟨o, v, l⟩
    obtain ⟨record, record', ho⟩ := Engine.execute_served hx hr
    rw [hr] at hs
    rw [ho]
    cases o <;> exact .served hx hs

/-! ## The faults in a trace -/

/-- The failure that a call or a look at a local file stands for. That of a command depends on what the
command was run for: how a listing exits is no fault, and where the archiver is looked for only what is
printed counts. -/
def Event.fault? : Event → Option DeployError
  | .connect _ (.error e) => some e
  | .exec _ _ _ (.error e) => some e
  | .exec x .command command (.ok r) | .exec x .backup command (.ok r) =>
    if r.exitCode = 0 then none else some (.remoteExit x.name command r.exitCode r.stderr)
  | .exec x .archiver command (.ok r) =>
    if Conduct.startsBlank r.stdout then
      some (.remoteFault x.name command "zip is not installed on the remote host")
    else none
  | .openTransfer _ (.error e) => some e
  | .upload _ _ _ _ (.error e) => some e
  | .inspect _ (.error e) => some e
  | .choose _ (.error e) => some e
  | _ => none

/-- The faults among events, in the order they happened. -/
def faults (l : List Event) : List DeployError := l.filterMap Event.fault?

@[simp] theorem faults_nil : faults [] = [] := rfl

@[simp] theorem faults_cons (a : Event) (l : List Event) :
    faults (a :: l) = a.fault?.toList ++ faults l := by
  cases h : a.fault? <;> simp [faults, h]

@[simp] theorem faults_append (l₁ l₂ : List Event) :
    faults (l₁ ++ l₂) = faults l₁ ++ faults l₂ := by
  simp [faults]

@[simp] theorem faults_prints (ls : List Line) : faults (ls.map .print) = [] := by
  simp [faults, Event.fault?]

@[simp] theorem faults_logs (rs : List LogRecord) : faults (rs.map .log) = [] := by
  simp [faults, Event.fault?]

/-- A step fails with the one fault in its trace, and has none in it if it does not fail. -/
def Accounted : Saying := fun o l => faults l = o.toList

theorem accounted_composes : Accounted.Composes where
  nil := rfl
  append {o l l'} h h' := by
    have hl : faults l = [] := h
    have hl' : faults l' = o.toList := h'
    show faults (l ++ l') = o.toList
    rw [faults_append, hl, hl']
    rfl
  log r := rfl
  print ls := faults_prints ls

namespace Backup

theorem accounted_checked (command : String) : Along Accounted (checked c x .backup command) := by
  intro s
  rcases h : c.exec x command s with ⟨e | r, s₁⟩
  · rw [checked_error h]
    rfl
  · by_cases hr : r.exitCode = 0
    · rw [checked_zero h hr]
      simp [Accounted, Event.fault?, hr, Outcome.failure?]
    · rw [checked_nonzero h hr]
      simp [Accounted, Event.fault?, hr, Outcome.failure?]

theorem accounted_isPresent (path : String) : Along Accounted (isPresent c x path) := by
  intro s
  rcases h : c.exec x (listCommand path) s with ⟨e | r, s₁⟩
  · rw [isPresent_error h]
    rfl
  · obtain ⟨record, ho⟩ := isPresent_ok h
    rw [ho]
    rfl

theorem accounted_archiver : Along Accounted (archiver c x) := by
  intro s
  rcases h : c.exec x archiverCommand s with ⟨e | r, s₁⟩
  · rw [archiver_error h]
    rfl
  · by_cases hz : firstLine r.stdout = ""
    · rw [archiver_missing h hz]
      simp [Accounted, Event.fault?, firstLine_eq_empty.1 hz, Outcome.failure?]
    · obtain ⟨record, ho⟩ := archiver_found h hz
      rw [firstLine_eq_empty] at hz
      rw [ho]
      simp [Accounted, Event.fault?, hz, Outcome.failure?]

end Backup

namespace Engine

theorem accounted_raw (command : String) :
    Along Accounted (dispatch c g x target (.raw command)) := by
  intro v
  rcases h : c.exec x command v.outside with ⟨e | r, s₁⟩
  · rw [dispatch_raw_error h]
    rfl
  · rw [dispatch_raw_ok h]
    by_cases hr : r.exitCode = 0 <;> simp [Accounted, Event.fault?, hr, Outcome.failure?]

theorem accounted_uploadFile (source destination : String) :
    Along Accounted (uploadFile c g target source destination) := by
  intro s
  rcases hn : sourceSize (c.files s) source with e | n
  · rw [uploadFile_unreadable hn]
    rfl
  rcases hy : c.openTransfer target s with ⟨e | y, s₁⟩
  · rw [uploadFile_refused hn hy]
    rfl
  rcases hu : c.upload y source destination s₁ with ⟨e | _, s₂⟩
  · rw [uploadFile_broken hn hy hu]
    simp [Accounted, Event.fault?, Outcome.failure?]
  · obtain ⟨record, ho⟩ := uploadFile_sent hn hy hu
    rw [ho]
    simp [Accounted, Event.fault?, Outcome.failure?]

theorem accounted_calls (c : Connector σ) (g : Settings) (x : Session) (target : Target) :
    AtCalls c g x target Accounted where
  raw := accounted_raw
  upload := accounted_uploadFile
  choose directory limit := by
    intro s
    rw [chooseFiles_eq rfl]
    cases Selection.files (c.files s) directory limit <;> rfl
  presence := Backup.accounted_isPresent
  archiver := Backup.accounted_archiver
  backup := Backup.accounted_checked

theorem accounted_execute (t : Task) : Along Accounted (execute c g t) := by
  intro s
  rcases hx : c.connect (targetOf g t) s with ⟨e | x, s₁⟩
  · obtain ⟨record, ho⟩ := execute_refused hx
    rw [ho]
    rfl
  · have hs := runCommands_along accounted_composes
      ((accounted_calls c g x (targetOf g t)).atSteps accounted_composes) t.commands
      ⟨s₁, { host := t.host }⟩
    rcases hr : runCommands c g x (targetOf g t) t.commands ⟨s₁, { host := t.host }⟩ with
      ⟨r, v, l⟩
    obtain ⟨record, record', ho⟩ := execute_served hx hr
    rw [hr] at hs
    rw [ho]
    cases r <;> simp_all [Accounted, Event.fault?, Outcome.failure?, Except.map]

end Engine

/-- **Why a task fails.** A task fails with an error exactly if the rules have it end with that error,
and succeeds exactly if they have it end without. Of all that happened in the task, then, nothing is a
fault but what it failed with. -/
theorem execute_error_iff (c : Connector σ) (g : Settings) (t : Task) (s : σ) :
    (∀ e, (Engine.execute c g t s).result = .error e ↔ ∃ s', Conduct.Ended c g t s (some e) s') ∧
    ((∃ r, (Engine.execute c g t s).result = .ok r) ↔ ∃ s', Conduct.Ended c g t s none s') ∧
    faults (Engine.execute c g t s).trace = (match (Engine.execute c g t s).result with
      | .error e => [e]
      | .ok _ => []) := by
  -- The rules have the task end as it does (`execute_ended`), and in no other way.
  have hended := execute_ended (c := c) (g := g) t s
  have haccount := Engine.accounted_execute (c := c) (g := g) t s
  rcases h : Engine.execute c g t s with ⟨e | r, s₁, l⟩
  · rw [h] at hended haccount
    refine ⟨fun e' => ⟨?_, ?_⟩, ⟨?_, ?_⟩, haccount⟩
    · rintro ⟨⟩
      exact ⟨s₁, hended⟩
    · rintro ⟨s', h'⟩
      rw [Option.some.inj (Conduct.Ended.unique hended h').1]
    · rintro ⟨r, ⟨⟩⟩
    · rintro ⟨s', h'⟩
      cases (Conduct.Ended.unique hended h').1
  · rw [h] at hended haccount
    refine ⟨fun e' => ⟨?_, ?_⟩, ⟨?_, ?_⟩, haccount⟩
    · rintro ⟨⟩
    · rintro ⟨s', h'⟩
      cases (Conduct.Ended.unique hended h').1
    · exact fun _ => ⟨s₁, hended⟩
    · exact fun _ => ⟨r, rfl⟩

end Rollout
