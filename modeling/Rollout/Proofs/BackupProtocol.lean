import Rollout.Proofs.Failure
import Rollout.Proofs.Words
import Rollout.Script

/-!
# What a backup asks, and when

A backup first asks whether its dated place is taken. Only if nothing is said there does it go on,
and it goes on with commands that are fixed in advance, but for the archiver: that one is named by
the other side. The other side may answer as it likes, from one question to the next.

* `Checking`, `Making` and `Packing`: the questions of a backup, with the answers, and how it ends.
* `rename_checking` and `archive_checking`: the two kinds of backup ask just that.
* `Guarded`: what makes a backup stands directly after the question whether it is there.
* `tasksFrom_guarded`: so it is in a whole run. `backups_protocol` puts everything together.
* `archive_with_mv`: an archiver that goes by the name of another command.
-/

namespace Rollout

/-- Whether an event is the command that makes a backup. -/
def Event.makesBackup : Event → Bool
  | .exec _ .backup _ _ => true
  | _ => false

namespace Backup

/-! ## The questions of a backup -/

/-- The calls of a backup with their replies, and how it ends, from one state to another. -/
abbrev Protocol (σ : Type) := σ → List Event → Except DeployError BackupOutcome → σ → Prop

section

variable {σ : Type} (c : Connector σ) (x : Session)

/-- The backup at a path is made by a command, if that exits with 0. -/
inductive Making (command path : String) : Protocol σ
  | unanswered {s e s₁} : c.exec x command s = (.error e, s₁) →
      Making command path s [.exec x .backup command (.error e)] (.error e) s₁
  | failed {s r s₁} : c.exec x command s = (.ok r, s₁) → r.exitCode ≠ 0 →
      Making command path s [.exec x .backup command (.ok r)]
        (.error (.remoteExit x.name command r.exitCode r.stderr)) s₁
  | made {s r s₁} : c.exec x command s = (.ok r, s₁) → r.exitCode = 0 →
      Making command path s [.exec x .backup command (.ok r)] (.ok (.created path)) s₁

/-- Paths are packed by the archiver that the other side names first. -/
inductive Packing (path : String) (paths : List String) : Protocol σ
  | unanswered {s e s₁} : c.exec x "command -v zip" s = (.error e, s₁) →
      Packing path paths s [.exec x .archiver "command -v zip" (.error e)] (.error e) s₁
  | unnamed {s z s₁} : c.exec x "command -v zip" s = (.ok z, s₁) →
      Conduct.startsBlank z.stdout = true →
      Packing path paths s [.exec x .archiver "command -v zip" (.ok z)]
        (.error (.remote x.name "command -v zip" "zip is not installed on the remote host" none
          none)) s₁
  | named {s z s₁ l o s₂} : c.exec x "command -v zip" s = (.ok z, s₁) →
      Conduct.startsBlank z.stdout = false →
      Making c x (firstLine z.stdout ++ " -r " ++ path ++ " " ++ " ".intercalate paths) path
        s₁ l o s₂ →
      Packing path paths s (.exec x .archiver "command -v zip" (.ok z) :: l) o s₂

/-- A path is listed, and what makes a backup there is done only if nothing but blanks is printed.
How the listing exits makes no difference. -/
inductive Checking (path : String) (make : Protocol σ) : Protocol σ
  | unanswered {s e s₁} : c.exec x ("ls -al " ++ path) s = (.error e, s₁) →
      Checking path make s [.exec x .presence ("ls -al " ++ path) (.error e)] (.error e) s₁
  | present {s r s₁} : c.exec x ("ls -al " ++ path) s = (.ok r, s₁) → r.stdout.isAllBlank = false →
      Checking path make s [.exec x .presence ("ls -al " ++ path) (.ok r)]
        (.ok (.alreadyExists path)) s₁
  | absent {s r s₁ l o s₂} : c.exec x ("ls -al " ++ path) s = (.ok r, s₁) →
      r.stdout.isAllBlank = true → make s₁ l o s₂ →
      Checking path make s (.exec x .presence ("ls -al " ++ path) (.ok r) :: l) o s₂

end

variable {σ : Type} {c : Connector σ} {g : Settings} {x : Session} {target : Target} {s s₁ : σ}
  {command path name : String} {paths : List String} {d : Date} {l : List Event}
  {o : Except DeployError BackupOutcome}

theorem checked_making (command path : String) (s : σ) :
    Making c x command path s (calls (checked c x .backup command s).trace)
      ((checked c x .backup command s).result.map fun _ => .created path)
      (checked c x .backup command s).state := by
  rcases h : c.exec x command s with ⟨e | r, s₁⟩
  · rw [checked_error h]
    exact .unanswered h
  by_cases hr : r.exitCode = 0
  · rw [checked_zero h hr]
    exact .made h hr
  · rw [checked_nonzero h hr]
    exact .failed h hr

/-- **A rename lists its dated place, and then moves the path there.** -/
theorem rename_checking (path : String) (d : Date) (s : σ) :
    Checking c x (renamePath path d)
      (Making c x ("mv " ++ path ++ " " ++ renamePath path d) (renamePath path d))
      s (calls (rename c x path d s).trace) (rename c x path d s).result
      (rename c x path d s).state := by
  rcases h : c.exec x (listCommand (renamePath path d)) s with ⟨e | r, s₁⟩
  · rw [rename_error h]
    exact .unanswered h
  cases hr : r.stdout.isAllBlank with
  | false =>
    obtain ⟨record, ho⟩ := rename_present h hr
    rw [ho]
    exact .present h hr
  | true =>
    obtain ⟨record, ho⟩ := rename_absent h hr rfl
    rw [ho]
    exact .absent h hr
      (checked_making (moveCommand path (renamePath path d)) (renamePath path d) s₁)

/-- **An archive lists its dated place, looks for the archiver, and then packs.** -/
theorem archive_checking (name : String) (paths : List String) (d : Date) (s : σ) :
    Checking c x (archivePath name d) (Packing c x (archivePath name d) paths)
      s (calls (archive c x name paths d s).trace) (archive c x name paths d s).result
      (archive c x name paths d s).state := by
  rcases h : c.exec x (listCommand (archivePath name d)) s with ⟨e | r, s₁⟩
  · rw [archive_error h]
    exact .unanswered h
  cases hr : r.stdout.isAllBlank with
  | false =>
    obtain ⟨record, ho⟩ := archive_present h hr
    rw [ho]
    exact .present h hr
  | true =>
    rcases hz : c.exec x archiverCommand s₁ with ⟨e | z, s₂⟩
    · obtain ⟨record, ho⟩ := archive_unlocated h hr (archiver_error hz)
      rw [ho]
      exact .absent h hr (.unanswered hz)
    by_cases hb : firstLine z.stdout = ""
    · obtain ⟨record, ho⟩ := archive_unlocated h hr (archiver_missing hz hb)
      rw [ho]
      exact .absent h hr (.unnamed hz (firstLine_eq_empty.1 hb))
    · obtain ⟨record, hf⟩ := archiver_found hz hb
      have hm := checked_making (c := c) (x := x)
        (packCommand (firstLine z.stdout) (archivePath name d) paths) (archivePath name d) s₂
      rcases hc : checked c x .backup
        (packCommand (firstLine z.stdout) (archivePath name d) paths) s₂ with ⟨o, s₃, l⟩
      obtain ⟨record', ho⟩ := archive_located h hr hf hc
      rw [firstLine_eq_empty, Bool.not_eq_true] at hb
      rw [hc] at hm
      rw [ho]
      exact .absent h hr (.named hz hb hm)

/-! ## Once, and after a check -/

theorem Making.makesBackup (h : Making c x command path s l o s₁) :
    l.countP Event.makesBackup = 1 := by
  cases h <;> rfl

theorem Packing.makesBackup (h : Packing c x path paths s l o s₁) :
    l.countP Event.makesBackup ≤ 1 := by
  cases h with
  | unanswered => exact Nat.zero_le 1
  | unnamed => exact Nat.zero_le 1
  | named _ _ hmake => exact hmake.makesBackup.le

/-- A backup is tried once at most. -/
theorem Checking.makesBackup {make : Protocol σ}
    (hmake : ∀ {s l o s₁}, make s l o s₁ → l.countP Event.makesBackup ≤ 1)
    (h : Checking c x path make s l o s₁) : l.countP Event.makesBackup ≤ 1 := by
  cases h with
  | unanswered => exact Nat.zero_le 1
  | present => exact Nat.zero_le 1
  | absent _ _ hm =>
    rw [List.countP_cons_of_neg Bool.false_ne_true]
    exact hmake hm

/-- What is to stand directly before a command that makes a backup: the listing of the place where
the backup is to be, with nothing but blanks printed, and for an archive what the archiver is. -/
inductive Due (x : Session) (command : String) : List Event → Prop
  | move {path d r} : r.stdout.isAllBlank = true →
      command = "mv " ++ path ++ " " ++ renamePath path d →
      Due x command [.exec x .presence ("ls -al " ++ renamePath path d) (.ok r)]
  | pack {name paths d r z} : r.stdout.isAllBlank = true → Conduct.startsBlank z.stdout = false →
      command = firstLine z.stdout ++ " -r " ++ archivePath name d ++ " " ++ " ".intercalate paths →
      Due x command [.exec x .presence ("ls -al " ++ archivePath name d) (.ok r),
        .exec x .archiver "command -v zip" (.ok z)]

/-- Every command among later calls that makes a backup stands directly after its own check, which
may reach back into the earlier ones. -/
def GuardedAfter (earlier l : List Event) : Prop :=
  ∀ before x command reply after, l = before ++ .exec x .backup command reply :: after →
    ∃ check, Due x command check ∧ check <:+ earlier ++ before

/-- Every command among calls that makes a backup stands directly after its own check. -/
abbrev Guarded (l : List Event) : Prop := GuardedAfter [] l

namespace GuardedAfter

variable {earlier l' : List Event}

theorem of_none (h : ∀ a ∈ l, a.makesBackup = false) : GuardedAfter earlier l := by
  rintro before x command reply after rfl
  exact absurd (h (.exec x .backup command reply) (by simp)) (by simp [Event.makesBackup])

theorem nil : GuardedAfter earlier [] := of_none (by simp)

theorem cons {a : Event} (ha : a.makesBackup = false) (h : GuardedAfter (earlier ++ [a]) l) :
    GuardedAfter earlier (a :: l) := by
  intro before x command reply after heq
  cases before with
  | nil =>
    obtain ⟨rfl, -⟩ := List.cons.inj heq
    exact absurd ha (by simp [Event.makesBackup])
  | cons b before =>
    obtain ⟨rfl, hl⟩ := List.cons.inj heq
    simpa using h before x command reply after hl

/-- Calls that are guarded by themselves are guarded after others. -/
theorem after (h : Guarded l) : GuardedAfter earlier l := by
  intro before x command reply after heq
  obtain ⟨check, hdue, hcheck⟩ := h before x command reply after heq
  exact ⟨check, hdue, hcheck.trans (List.suffix_append earlier before)⟩

theorem append (h : GuardedAfter earlier l) (h' : Guarded l') : GuardedAfter earlier (l ++ l') := by
  intro before x command reply after heq
  -- The command is one of the later calls, with its check among them too, or one of the first ones.
  rcases List.append_eq_append_iff.1 heq with ⟨later, rfl, hl'⟩ | ⟨rest, hl, hl'⟩
  · obtain ⟨check, hdue, hcheck⟩ := h' later x command reply after hl'
    exact ⟨check, hdue, hcheck.trans (by simp [← List.append_assoc])⟩
  cases rest with
  | nil =>
    obtain ⟨check, hdue, hcheck⟩ := h' [] x command reply after hl'.symm
    exact ⟨check, hdue, hcheck.trans List.nil_suffix⟩
  | cons a rest =>
    obtain ⟨rfl, rfl⟩ := List.cons.inj hl'
    exact h before x command reply rest hl

end GuardedAfter

theorem Making.guarded {check : List Event} (hdue : Due x command check)
    (h : Making c x command path s l o s₁) : GuardedAfter check l := by
  obtain ⟨reply, rfl⟩ : ∃ reply, l = [.exec x .backup command reply] := by
    cases h <;> exact ⟨_, rfl⟩
  intro before x' command' reply' after heq
  rcases List.singleton_eq_append_iff.1 heq with ⟨rfl, hmake⟩ | ⟨-, hmake⟩ <;> cases hmake
  exact ⟨check, hdue, by simp⟩

theorem Packing.guarded {r : CommandResult} (hr : r.stdout.isAllBlank = true)
    (h : Packing c x (archivePath name d) paths s l o s₁) :
    GuardedAfter [.exec x .presence ("ls -al " ++ archivePath name d) (.ok r)] l := by
  cases h with
  | unanswered => exact .cons rfl .nil
  | unnamed => exact .cons rfl .nil
  | named _ hz hmake => exact .cons rfl (hmake.guarded (.pack hr hz rfl))

/-- **A backup is only made after its own check.** -/
theorem Checking.guarded {make : Protocol σ}
    (hmake : ∀ {r s l o s₁}, r.stdout.isAllBlank = true → make s l o s₁ →
      GuardedAfter [.exec x .presence ("ls -al " ++ path) (.ok r)] l)
    (h : Checking c x path make s l o s₁) : Guarded l := by
  cases h with
  | unanswered => exact .cons rfl .nil
  | present => exact .cons rfl .nil
  | absent _ hr hm => exact .cons rfl (hmake hr hm)

/-! ## Checks in a whole run -/

/-- Whatever the end, the calls are guarded. -/
def GuardedCalls : Saying := fun _ l => Guarded (calls l)

theorem guardedCalls_composes : GuardedCalls.Composes where
  nil := .nil
  append {o l l'} h h' := by
    show Guarded (calls (l ++ l'))
    rw [calls_append]
    exact GuardedAfter.append h h'
  log r := .nil
  print ls := by
    show Guarded (calls (ls.map .print))
    rw [calls_prints]
    exact .nil

/-- An upload makes no backup. -/
theorem guardedCalls_uploadFile (source destination : String) :
    Along GuardedCalls (Engine.uploadFile c g target source destination) := by
  refine fun s => GuardedAfter.of_none ?_
  rcases hn : Engine.sourceSize (c.files s) source with e | n
  · rw [Engine.uploadFile_unreadable hn]
    simp [Event.isCall]
  rcases hy : c.openTransfer target s with ⟨e | y, s₁⟩
  · rw [Engine.uploadFile_refused hn hy]
    simp [Event.isCall, Event.makesBackup]
  rcases hu : c.upload y source destination s₁ with ⟨e | _, s₂⟩
  · rw [Engine.uploadFile_broken hn hy hu]
    simp [Event.isCall, Event.makesBackup]
  · obtain ⟨record, h⟩ := Engine.uploadFile_sent (g := g) hn hy hu
    rw [h]
    simp [Event.isCall, Event.makesBackup]

theorem guardedCalls_steps (c : Connector σ) (g : Settings) (x : Session) (target : Target) :
    AtSteps c g x target GuardedCalls where
  raw command v := by
    show Guarded (calls (Engine.dispatch c g x target (.raw command) v).trace)
    rw [Engine.calls_raw]
    exact .cons rfl .nil
  upload := guardedCalls_uploadFile
  choose directory limit s := .nil
  rename path d s := (rename_checking path d s).guarded fun hr hm => hm.guarded (.move hr rfl)
  archive name paths d s := (archive_checking name paths d s).guarded fun hr hm => hm.guarded hr

theorem execute_guarded (t : Task) (s : σ) : Guarded (calls (Engine.execute c g t s).trace) := by
  rcases hx : c.connect (Engine.targetOf g t) s with ⟨e | x, s₁⟩
  · obtain ⟨record, h⟩ := Engine.execute_refused hx
    rw [h]
    exact .cons rfl .nil
  · have hcommands := Engine.runCommands_along guardedCalls_composes
      (guardedCalls_steps c g x (Engine.targetOf g t)) t.commands ⟨s₁, { host := t.host }⟩
    rcases hr : Engine.runCommands c g x (Engine.targetOf g t) t.commands
      ⟨s₁, { host := t.host }⟩ with ⟨r, v, l⟩
    obtain ⟨record, record', h⟩ := Engine.execute_served hx hr
    rw [hr] at hcommands
    rw [h]
    simp only [calls_cons, calls_append, calls_logs, calls_prints, Event.isCall]
    -- No check reaches back over the beginning of the session.
    exact .cons rfl (.after (hcommands.append (.cons rfl .nil)))

/-- **Checks in a run.** Every command that makes a backup stands directly after its own check,
whatever was done before. -/
theorem tasksFrom_guarded (total : Nat) (ts : List Task) : ∀ (index : Nat) (s : σ),
    Guarded (calls (Run.tasksFrom c g total index ts s).trace) := by
  induction ts with
  | nil => exact fun index s => .nil
  | cons t ts ih =>
    intro index s
    have hfirst := execute_guarded (c := c) (g := g) t s
    rcases he : Engine.execute c g t s with ⟨e | r, s₁, l⟩
    · obtain ⟨record, ht⟩ := Run.task_eq total index he
      rw [he] at hfirst
      rw [Run.tasksFrom_error ht]
      simpa [Event.isCall] using hfirst
    · obtain ⟨record, ht⟩ := Run.task_eq total index he
      rw [he] at hfirst
      rw [Run.tasksFrom_ok ht]
      simpa [Event.isCall] using hfirst.append (ih (index + 1) s₁)

/-! ## The archiver -/

/-- What a command runs: its first word. -/
def program? (command : String) : Option (List Char) := (Text.words command.toList).head?

theorem program?_append (first rest : String) :
    program? (first ++ " " ++ rest) = (program? first).or (program? rest) := by
  have htext : (first ++ " " ++ rest).toList = first.toList ++ ' ' :: rest.toList := by simp
  rw [program?, htext, Text.words_append_cons (by decide), List.head?_append, ← program?,
    ← program?]

theorem program?_list (path : String) : program? ("ls -al " ++ path) = some "ls".toList := by
  have htext : "ls -al " ++ path = "ls" ++ " " ++ ("-al " ++ path) := by
    simp only [← String.append_assoc]
    rfl
  have hls : program? "ls" = some "ls".toList := by decide
  rw [htext, program?_append, hls, Option.some_or]

theorem program?_pack (zip path : String) (paths : List String) :
    program? (zip ++ " -r " ++ path ++ " " ++ " ".intercalate paths) =
      (program? zip).or (some "-r".toList) := by
  have htext : zip ++ " -r " ++ path ++ " " ++ " ".intercalate paths =
      zip ++ " " ++ ("-r" ++ " " ++ (path ++ " " ++ " ".intercalate paths)) := by
    have hr : " -r " = " " ++ "-r" ++ " " := rfl
    rw [hr]
    simp only [String.append_assoc]
  have hr : program? "-r" = some "-r".toList := by decide
  rw [htext, program?_append, program?_append, hr, Option.some_or]

section

variable {x' : Session} {purpose : Purpose} {reply : Except DeployError CommandResult}

/-- What packs is a move only if the other side named one where the archiver was looked for. -/
theorem Packing.program?_move (h : Packing c x path paths s l o s₁)
    (hmem : .exec x' purpose command reply ∈ l) (hmove : program? command = some "mv".toList) :
    ∃ z, .exec x .archiver "command -v zip" (.ok z) ∈ l ∧
      command = firstLine z.stdout ++ " -r " ++ path ++ " " ++ " ".intercalate paths ∧
      program? (firstLine z.stdout) = some "mv".toList := by
  have hlookup : program? "command -v zip" ≠ some "mv".toList := by decide
  cases h with
  | unanswered =>
    cases List.mem_singleton.1 hmem
    exact absurd hmove hlookup
  | unnamed =>
    cases List.mem_singleton.1 hmem
    exact absurd hmove hlookup
  | @named _ z _ l _ _ _ _ hmake =>
    rcases List.mem_cons.1 hmem with heq | hmem
    · cases heq
      exact absurd hmove hlookup
    obtain rfl : command = firstLine z.stdout ++ " -r " ++ path ++ " " ++
        " ".intercalate paths := by
      cases hmake <;> cases List.mem_singleton.1 hmem <;> rfl
    refine ⟨z, List.mem_cons_self, rfl, ?_⟩
    -- Were there no word in what was named, the command would run `-r`.
    rw [program?_pack] at hmove
    cases hz : program? (firstLine z.stdout) with
    | none =>
      rw [hz] at hmove
      exact absurd hmove (by decide)
    | some word => simpa [hz] using hmove

theorem Checking.program?_move (h : Checking c x path (Packing c x path paths) s l o s₁)
    (hmem : .exec x' purpose command reply ∈ l) (hmove : program? command = some "mv".toList) :
    ∃ z, .exec x .archiver "command -v zip" (.ok z) ∈ l ∧
      command = firstLine z.stdout ++ " -r " ++ path ++ " " ++ " ".intercalate paths ∧
      program? (firstLine z.stdout) = some "mv".toList := by
  have hlist : program? ("ls -al " ++ path) ≠ some "mv".toList := by
    rw [program?_list]
    decide
  cases h with
  | unanswered =>
    cases List.mem_singleton.1 hmem
    exact absurd hmove hlist
  | present =>
    cases List.mem_singleton.1 hmem
    exact absurd hmove hlist
  | absent _ _ hpack =>
    rcases List.mem_cons.1 hmem with heq | hmem
    · cases heq
      exact absurd hmove hlist
    obtain ⟨z, hz, hcommand, hnamed⟩ := hpack.program?_move hmem hmove
    exact ⟨z, List.mem_cons_of_mem _ hz, hcommand, hnamed⟩

end

/-! ## Backups against any other side -/

/-- **Backups follow their protocol.** Whatever the other side answers:

* a rename lists its dated place, does no more if anything but blanks is printed, and else moves the
  path there, which has made the backup if it exits with 0;
* an archive does the same, but looks for the archiver, fails if none is named, and else packs the
  paths with what is named first. It moves something only if that is what the other side names;
* what makes a backup is run at most once, and in a whole run directly after its own check. -/
theorem backups_protocol (c : Connector σ) (x : Session) (d : Date) (s : σ) :
    (∀ path,
      Checking c x (renamePath path d)
        (Making c x ("mv " ++ path ++ " " ++ renamePath path d) (renamePath path d)) s
        (calls (rename c x path d s).trace) (rename c x path d s).result
        (rename c x path d s).state ∧
      (calls (rename c x path d s).trace).countP Event.makesBackup ≤ 1) ∧
    (∀ name paths,
      Checking c x (archivePath name d) (Packing c x (archivePath name d) paths) s
        (calls (archive c x name paths d s).trace) (archive c x name paths d s).result
        (archive c x name paths d s).state ∧
      (calls (archive c x name paths d s).trace).countP Event.makesBackup ≤ 1 ∧
      ∀ x' purpose command reply,
        .exec x' purpose command reply ∈ calls (archive c x name paths d s).trace →
        program? command = some "mv".toList →
        ∃ z, .exec x .archiver "command -v zip" (.ok z) ∈ calls (archive c x name paths d s).trace ∧
          command = firstLine z.stdout ++ " -r " ++ archivePath name d ++ " " ++
            " ".intercalate paths ∧
          program? (firstLine z.stdout) = some "mv".toList) ∧
    ∀ g ts, Guarded (calls (Run.tasks c g ts s).trace) := by
  refine ⟨fun path => ?_, fun name paths => ?_, fun g ts => ?_⟩
  · have h := rename_checking (c := c) (x := x) path d s
    exact ⟨h, h.makesBackup fun hm => hm.makesBackup.le⟩
  · have h := archive_checking (c := c) (x := x) name paths d s
    exact ⟨h, h.makesBackup fun hm => hm.makesBackup,
      fun x' purpose command reply hmem hmove => h.program?_move hmem hmove⟩
  · rw [Run.tasks_eq]
    exact tasksFrom_guarded ts.length ts 1 s

/-- A server that answers with another command where the archiver is looked for has that one run. -/
theorem archive_with_mv :
    let script : Script :=
      { replies := [{ command := "command -v zip", answers := [.result { stdout := "mv\n" }] }] }
    let x : Session := ⟨0, "web1"⟩
    calls (archive script.connector x "app.zip" ["/a"] .newYear2024 (script.start {})).trace =
      [.exec x .presence "ls -al app.zip.20240101.bak.zip" (.ok {}),
        .exec x .archiver "command -v zip" (.ok { stdout := "mv\n" }),
        .exec x .backup "mv -r app.zip.20240101.bak.zip /a" (.ok {})] ∧
    program? "mv -r app.zip.20240101.bak.zip /a" = some "mv".toList :=
  ⟨rfl, by decide⟩

end Backup

end Rollout
