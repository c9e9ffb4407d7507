import Rollout.Local
import Rollout.Proofs.Failure
import Rollout.Ssh.Connector
import Rollout.Ssh.Script

/-!
# When a command over SSH counts as done well

A server may end a command without an exit status: it was killed by a signal, or the channel was
just closed. Such a channel is read as exit code 0, so the command counts as done well. On this
machine the same end is read as -1.

* `Channel.exitCode_eq_zero_iff`: what the messages of a channel must hold to be read as 0.
* `success_iff`: commands of a task, and the calls by which backups are made, go well exactly if no
  exit status other than 0 was reported. `killed_counts_as_success` is a command that was killed.
-/

namespace Rollout

variable {σ : Type} {c : Connector σ} {g : Settings} {x : Session} {target : Target}

/-! ## Exit codes -/

/-- What counts as done well: a result with exit code 0. -/
def EndsInZero (c : Connector σ) (x : Session) (command : String) (s : σ) : Prop :=
  ∃ r s', c.exec x command s = (.ok r, s') ∧ r.exitCode = 0

theorem raw_ok_iff {command : String} {v : Serving σ} :
    (Engine.dispatch c g x target (.raw command) v).result = .ok () ↔
      EndsInZero c x command v.outside := by
  unfold EndsInZero
  rcases h : c.exec x command v.outside with ⟨e | r, s₁⟩
  · rw [Engine.dispatch_raw_error h]
    simp
  · rw [Engine.dispatch_raw_ok h]
    by_cases hr : r.exitCode = 0 <;> simp [hr]

theorem checked_ok_iff (purpose : Purpose) (command : String) (s : σ) :
    (Backup.checked c x purpose command s).result = .ok () ↔ EndsInZero c x command s := by
  unfold EndsInZero
  rcases h : c.exec x command s with ⟨e | r, s₁⟩
  · rw [Backup.checked_error h]
    simp
  · by_cases hr : r.exitCode = 0
    · rw [Backup.checked_zero h hr]
      simp [hr]
    · rw [Backup.checked_nonzero h hr]
      simp [hr]

namespace Backup

theorem rename_created_iff {path : String} {d : Date} {s : σ} :
    (rename c x path d s).result = .ok (.created (renamePath path d)) ↔
      ∃ r s₁, c.exec x (listCommand (renamePath path d)) s = (.ok r, s₁) ∧
        r.stdout.isAllBlank = true ∧
        EndsInZero c x (moveCommand path (renamePath path d)) s₁ := by
  rcases hl : c.exec x (listCommand (renamePath path d)) s with ⟨e | r, s₁⟩
  · rw [rename_error hl]
    simp
  cases hr : r.stdout.isAllBlank with
  | false =>
    obtain ⟨record, ho⟩ := rename_present hl hr
    rw [ho]
    simp_all
  | true =>
    have hm := checked_ok_iff (c := c) (x := x) .backup
      (moveCommand path (renamePath path d)) s₁
    rcases hc : checked c x .backup (moveCommand path (renamePath path d)) s₁ with ⟨o, s₂, l⟩
    obtain ⟨record, ho⟩ := rename_absent hl hr hc
    rw [hc] at hm
    rw [ho]
    cases o <;> simp_all [Except.map]

theorem archive_created_iff {name : String} {paths : List String} {d : Date} {s : σ} :
    (archive c x name paths d s).result = .ok (.created (archivePath name d)) ↔
      ∃ r s₁ z s₂, c.exec x (listCommand (archivePath name d)) s = (.ok r, s₁) ∧
        r.stdout.isAllBlank = true ∧ c.exec x archiverCommand s₁ = (.ok z, s₂) ∧
        Conduct.startsBlank z.stdout = false ∧
        EndsInZero c x (packCommand (firstLine z.stdout) (archivePath name d) paths) s₂ := by
  rcases hl : c.exec x (listCommand (archivePath name d)) s with ⟨e | r, s₁⟩
  · rw [archive_error hl]
    simp
  cases hr : r.stdout.isAllBlank with
  | false =>
    obtain ⟨record, ho⟩ := archive_present hl hr
    rw [ho]
    simp_all
  | true =>
    rcases hz : c.exec x archiverCommand s₁ with ⟨e | z, s₂⟩
    · obtain ⟨record, ho⟩ := archive_unlocated hl hr (archiver_error hz)
      rw [ho]
      simp_all
    by_cases hb : firstLine z.stdout = ""
    · obtain ⟨record, ho⟩ := archive_unlocated hl hr (archiver_missing hz hb)
      have hb' := firstLine_eq_empty.1 hb
      rw [ho]
      simp_all
    · have hb' : Conduct.startsBlank z.stdout = false := by
        rw [← Bool.not_eq_true, ← firstLine_eq_empty]
        exact hb
      have hm := checked_ok_iff (c := c) (x := x) .backup
        (packCommand (firstLine z.stdout) (archivePath name d) paths) s₂
      rcases hc : checked c x .backup
        (packCommand (firstLine z.stdout) (archivePath name d) paths) s₂ with ⟨o, s₃, l⟩
      obtain ⟨record, hf⟩ := archiver_found hz hb
      obtain ⟨record', ho⟩ := archive_located hl hr hf hc
      rw [hc] at hm
      rw [ho]
      cases o <;> simp_all [Except.map]

end Backup

/-- On this machine a process ends well exactly if it exits with status 0. -/
theorem Local.resultOf_success (output errors : List UInt8) (status : Option Nat) :
    (Local.resultOf output errors status).success = true ↔ status = some 0 := by
  cases status with
  | none => simp [Local.resultOf, CommandResult.success, Local.killedCode]
  | some n => simp [Local.resultOf, CommandResult.success]

/-! ## Channels -/

namespace Ssh

namespace Channel

theorem signed_eq_zero_iff (code : UInt32) : signed code = 0 ↔ code = 0 := by
  constructor
  · intro h
    have hlt : code.toNat < Word.count32 := by
      simpa [Word.count32] using code.toNat_lt
    -- Only multiples of the number of words are read as 0, and a word is less than that.
    have hdvd : (Word.count32 : Int) ∣ code.toNat := Int.dvd_of_bmod_eq_zero h
    have hzero := Nat.eq_zero_of_dvd_of_lt (Int.natCast_dvd_natCast.1 hdvd) hlt
    exact UInt32.toNat_inj.1 hzero
  · intro h
    rw [h, signed]
    simp

/-- **A channel is read as 0** if its last exit status is 0, and also if it has none. -/
theorem exitCode_eq_zero_iff (ms : List Message) :
    exitCode ms = 0 ↔ exitStatus? ms = none ∨ exitStatus? ms = some 0 := by
  unfold exitCode
  cases exitStatus? ms with
  | none => simp
  | some code =>
    rw [Option.map_some, Option.getD_some, signed_eq_zero_iff]
    simp

end Channel

/-- The server ran a command, its output is text, and it reported no exit status other than 0. -/
def Passed (n : Network σ) (session : Nat) (command : String) (s : σ) : Prop :=
  ∃ ms s', n.exec session command s = (.ok ms, s') ∧
    (String.ofUtf8? (Channel.output ms)).isSome = true ∧
    (Channel.exitStatus? ms = none ∨ Channel.exitStatus? ms = some 0)

theorem endsInZero_iff {n : Network σ} {x : Session} {command : String} {s : σ} :
    EndsInZero (connector n) x command s ↔ Passed n x.number command s := by
  unfold EndsInZero Passed
  show (∃ r s', exec n x command s = (.ok r, s') ∧ r.exitCode = 0) ↔ _
  unfold exec
  rcases n.exec x.number command s with ⟨f | ms, s₁⟩
  · simp
  · cases ht : String.ofUtf8? (Channel.output ms) with
    | none => simp [Channel.result?, ht]
    | some text => simp [Channel.result?, ht, ← Channel.exitCode_eq_zero_iff]

/-- **What counts as done well over SSH.** A command of a task goes well exactly if the server ran
it, its output is text, and no exit status other than 0 was reported; and a backup of either kind is
created exactly if, besides what was found before it, the same holds of the command that makes it.
On this machine nothing but the exit status 0 goes well. -/
theorem success_iff (n : Network σ) (g : Settings) (x : Session) (target : Target) :
    (∀ command v,
      (Engine.dispatch (connector n) g x target (.raw command) v).result = .ok () ↔
        Passed n x.number command v.outside) ∧
    (∀ path d s, (Backup.rename (connector n) x path d s).result =
        .ok (.created (Backup.renamePath path d)) ↔
      ∃ r s₁, exec n x (Backup.listCommand (Backup.renamePath path d)) s = (.ok r, s₁) ∧
        r.stdout.isAllBlank = true ∧
        Passed n x.number (Backup.moveCommand path (Backup.renamePath path d)) s₁) ∧
    (∀ name paths d s, (Backup.archive (connector n) x name paths d s).result =
        .ok (.created (Backup.archivePath name d)) ↔
      ∃ r s₁ z s₂, exec n x (Backup.listCommand (Backup.archivePath name d)) s = (.ok r, s₁) ∧
        r.stdout.isAllBlank = true ∧ exec n x Backup.archiverCommand s₁ = (.ok z, s₂) ∧
        Conduct.startsBlank z.stdout = false ∧
        Passed n x.number
          (Backup.packCommand (Backup.firstLine z.stdout) (Backup.archivePath name d) paths) s₂) ∧
    ∀ output errors status,
      (Local.resultOf output errors status).success = true ↔ status = some 0 := by
  refine ⟨?_, ?_, ?_, Local.resultOf_success⟩
  · intro command v
    rw [raw_ok_iff, endsInZero_iff]
  · intro path d s
    simp only [Backup.rename_created_iff, endsInZero_iff]
    rfl
  · intro name paths d s
    simp only [Backup.archive_created_iff, endsInZero_iff]
    rfl

/-- A command that is killed sends no exit status, and its task goes on as if it had done well. -/
theorem killed_counts_as_success :
    let messages : List Message := [.output [104, 105], .exitSignal "KILL"]
    let server : ServerScript :=
      { accepted := [⟨"password", "root", "secret"⟩], replies := [⟨"sleep 9", [.messages messages]⟩] }
    let task : Task := ⟨"10.0.0.1", 22, "root", "secret", ["sleep 9", "date"]⟩
    Channel.exitStatus? messages = none ∧
      (Engine.execute (connector Rehearsal.network) {} task
        { servers := [("10.0.0.1", server)] }).result = .ok { host := "10.0.0.1", executed := 2 } ∧
      (Local.resultOf [104, 105] [] none).success = false :=
  ⟨rfl, rfl, rfl⟩

end Ssh

end Rollout
