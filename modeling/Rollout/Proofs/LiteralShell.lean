import Rollout.Proofs.ExitStatus
import Rollout.Proofs.Words

/-!
# A shell that takes paths literally

Backups are told apart here by what they leave at each path, for a shell of which only this is
known: how it lists, moves and packs paths that stand for themselves. Any of its replies may also be
missing.

* `LiteralShell` is what is known of the shell.
* `Effect` are the ways in which a backup can end, with what is at each path before and after it.
* `Job.step_effect`: a backup ends in one of these ways.
* `Engine.dispatch_job`: the engine makes the same backups, and counts them.
-/

namespace Rollout

variable {σ γ : Type} {c : Connector σ} {g : Settings} {x : Session} {d : Date} {s s₁ : σ}
  {literal : String → Prop} {holds : σ → String → Option γ}

namespace Backup

/-- A backup of either kind. -/
inductive Job where
  /-- A path is moved to its dated name. -/
  | rename (path : String)
  /-- Paths are packed into a dated archive. -/
  | archive (name : String) (paths : List String)
  deriving Repr, DecidableEq

namespace Job

/-- The operation that asks for a backup. -/
def operation : Job → Operation
  | .rename path => .backup path
  | .archive name paths => .zipBackup name paths

/-- The dated path that a backup makes. -/
def dated (d : Date) : Job → String
  | .rename path => renamePath path d
  | .archive name _ => archivePath name d

def step (c : Connector σ) (x : Session) (d : Date) : Job → Step σ BackupOutcome
  | .rename path => Backup.rename c x path d
  | .archive name paths => Backup.archive c x name paths d

/-- Whether a shell takes all paths of a backup as they are written. -/
def IsLiteral (literal : String → Prop) (d : Date) (j : Job) : Prop :=
  literal (j.dated d) ∧ ∀ p ∈ j.operation.shellPaths, literal p

/-- A path stays a word when it gets a date. -/
theorem isLiteral_of_words {j : Job} (d : Date) (h : ∀ p ∈ j.operation.shellPaths, IsWord p) :
    j.IsLiteral IsWord d := by
  refine ⟨?_, h⟩
  cases j with
  | rename path => exact renamePath_isWord (h path List.mem_cons_self) d
  | archive name paths => exact archivePath_isWord (h name List.mem_cons_self) d

/-- A command names words only, so for its backups a shell that takes words literally will do. -/
theorem isLiteral_of_command {command : String} {j : Job}
    (h : Operation.ofCommand command = j.operation) (d : Date) : j.IsLiteral IsWord d := by
  refine isLiteral_of_words d ?_
  rw [← h]
  exact Operation.ofCommand_paths_isWord command

end Job

/-- An archiver that the shell may name. -/
def IsArchiver (c : Connector σ) (x : Session) (zip : String) : Prop :=
  ∃ s r s₁, c.exec x archiverCommand s = (.ok r, s₁) ∧ firstLine r.stdout = zip ∧ zip ≠ ""

/-- What is at each path, after what was at `p` has been moved to `q`. -/
def moved (a : String → Option γ) (p q : String) : String → Option γ :=
  Function.update (Function.update a p none) q (a p)

section Moved

variable {a : String → Option γ} {p q m : String}

theorem moved_target : moved a p q q = a p := Function.update_self q _ _

theorem moved_source (h : p ≠ q) : moved a p q p = none := by
  unfold moved
  rw [Function.update_of_ne h, Function.update_self]

theorem moved_other (hp : m ≠ p) (hq : m ≠ q) : moved a p q m = a m := by
  unfold moved
  rw [Function.update_of_ne hq, Function.update_of_ne hp]

end Moved

end Backup

open Backup

/-- A shell that takes the paths `literal` as they are written, where `holds` tells what is at each
path. To list a path prints something exactly if it is there. To move a path to one that is not
there does so, or fails and changes nothing; it fails if there is nothing to move. To look for an
archiver changes nothing, and to pack paths into an archive changes nothing but the archive. -/
structure LiteralShell (c : Connector σ) (x : Session) (literal : String → Prop)
    (holds : σ → String → Option γ) : Prop where
  list_keeps {p : String} {s : σ} : literal p → holds (c.exec x (listCommand p) s).2 = holds s
  list_shows {p : String} {s : σ} {r : CommandResult} {s₁ : σ} : literal p →
    c.exec x (listCommand p) s = (.ok r, s₁) →
    (r.stdout.isAllBlank = false ↔ (holds s p).isSome = true)
  move_missing {p q : String} {s : σ} : literal p → literal q →
    holds s p = none → holds s q = none →
    ¬ EndsInZero c x (moveCommand p q) s ∧ holds (c.exec x (moveCommand p q) s).2 = holds s
  move {p q : String} {s : σ} : literal p → literal q →
    (holds s p).isSome = true → holds s q = none →
    (EndsInZero c x (moveCommand p q) s ∧
      holds (c.exec x (moveCommand p q) s).2 = moved (holds s) p q) ∨
    (¬ EndsInZero c x (moveCommand p q) s ∧ holds (c.exec x (moveCommand p q) s).2 = holds s)
  locate_keeps {s : σ} : holds (c.exec x archiverCommand s).2 = holds s
  pack {zip q : String} {paths : List String} {s : σ} : IsArchiver c x zip → literal q →
    (∀ p ∈ paths, literal p) →
    (∀ p, p ≠ q → holds (c.exec x (packCommand zip q paths) s).2 p = holds s p) ∧
    (EndsInZero c x (packCommand zip q paths) s →
      (holds (c.exec x (packCommand zip q paths) s).2 q).isSome = true)

namespace Backup

/-- The ways in which a backup can end, where `a` is at each path before it and `b` after it. -/
inductive Effect (d : Date) (a : String → Option γ) :
    Job → (String → Option γ) → Except DeployError BackupOutcome → Prop
  | failed {j e} : Effect d a j a (.error e)
  | skipped {j} : (a (j.dated d)).isSome = true → Effect d a j a (.ok (.alreadyExists (j.dated d)))
  | moved {path} : (a path).isSome = true → a (renamePath path d) = none →
      Effect d a (.rename path) (moved a path (renamePath path d))
        (.ok (.created (renamePath path d)))
  /-- A failure to pack may leave a part of the archive. -/
  | spoiled {name paths b e} : a (archivePath name d) = none →
      (∀ p, p ≠ archivePath name d → b p = a p) → Effect d a (.archive name paths) b (.error e)
  | packed {name paths b} : a (archivePath name d) = none →
      (∀ p, p ≠ archivePath name d → b p = a p) → (b (archivePath name d)).isSome = true →
      Effect d a (.archive name paths) b (.ok (.created (archivePath name d)))

namespace Effect

variable {a b : String → Option γ} {j : Job} {o : Except DeployError BackupOutcome}

/-- **A backup loses nothing.** What was at a path is still there, or it was moved to the dated name
of the path, where there was nothing before. -/
theorem keeps (h : Effect d a j b o) {p : String} {v : γ} (hp : a p = some v) :
    b p = some v ∨ (j = .rename p ∧ o = .ok (.created (renamePath p d)) ∧
      a (renamePath p d) = none ∧ b p = none ∧ b (renamePath p d) = some v) := by
  cases h with
  | failed => exact .inl hp
  | skipped => exact .inl hp
  | @moved path hpath hq =>
    have hpq : p ≠ renamePath path d := by
      rintro rfl
      rw [hq] at hp
      cases hp
    by_cases hpp : p = path
    · subst hpp
      exact .inr ⟨rfl, rfl, hq, moved_source hpq, moved_target.trans hp⟩
    · exact .inl ((moved_other hpp hpq).trans hp)
  | spoiled hq hkeep | packed hq hkeep =>
    left
    rw [hkeep p, hp]
    rintro rfl
    rw [hq] at hp
    cases hp

theorem created (h : Effect d a j b o) {q : String} (ho : o = .ok (.created q)) :
    q = j.dated d ∧ a q = none ∧ (b q).isSome = true := by
  cases h with
  | failed | skipped | spoiled => cases ho
  | moved hpath hq =>
    cases ho
    refine ⟨rfl, hq, ?_⟩
    rw [moved_target]
    exact hpath
  | packed hq hkeep hb =>
    cases ho
    exact ⟨rfl, hq, hb⟩

end Effect

/-! ## The effect of a backup -/

theorem checked_state (purpose : Purpose) (command : String) (s : σ) :
    (checked c x purpose command s).state = (c.exec x command s).2 := by
  rcases h : c.exec x command s with ⟨e | r, s₁⟩
  · rw [checked_error h]
  · by_cases hr : r.exitCode = 0
    · rw [checked_zero h hr]
    · rw [checked_nonzero h hr]

theorem archiver_state (s : σ) : (archiver c x s).state = (c.exec x archiverCommand s).2 := by
  rcases h : c.exec x archiverCommand s with ⟨e | r, s₁⟩
  · rw [archiver_error h]
  · by_cases hz : firstLine r.stdout = ""
    · rw [archiver_missing h hz]
    · obtain ⟨record, ho⟩ := archiver_found h hz
      rw [ho]

theorem archiver_isArchiver {s : σ} {zip : String} (h : (archiver c x s).result = .ok zip) :
    IsArchiver c x zip := by
  rcases hz : c.exec x archiverCommand s with ⟨e | r, s₁⟩
  · rw [archiver_error hz] at h
    cases h
  · by_cases hb : firstLine r.stdout = ""
    · rw [archiver_missing hz hb] at h
      cases h
    · obtain ⟨record, ho⟩ := archiver_found hz hb
      rw [ho] at h
      cases h
      exact ⟨s, r, s₁, hz, rfl, hb⟩

namespace Job

theorem step_unlisted {j : Job} {e : DeployError}
    (h : c.exec x (listCommand (j.dated d)) s = (.error e, s₁)) :
    (j.step c x d s).result = .error e ∧ (j.step c x d s).state = s₁ := by
  cases j with
  | rename path =>
    rw [step, rename_error h]
    exact ⟨rfl, rfl⟩
  | archive name paths =>
    rw [step, archive_error h]
    exact ⟨rfl, rfl⟩

theorem step_listed {j : Job} {r : CommandResult}
    (h : c.exec x (listCommand (j.dated d)) s = (.ok r, s₁)) (hr : r.stdout.isAllBlank = false) :
    (j.step c x d s).result = .ok (.alreadyExists (j.dated d)) ∧ (j.step c x d s).state = s₁ := by
  cases j with
  | rename path =>
    obtain ⟨record, ho⟩ := rename_present h hr
    rw [step, ho]
    exact ⟨rfl, rfl⟩
  | archive name paths =>
    obtain ⟨record, ho⟩ := archive_present h hr
    rw [step, ho]
    exact ⟨rfl, rfl⟩

/-- A path that is listed as absent is moved, or it stays and the backup fails. -/
theorem rename_effect (h : LiteralShell c x literal holds) {path : String} {r : CommandResult}
    (hj : (Job.rename path).IsLiteral literal d)
    (hl : c.exec x (listCommand (renamePath path d)) s = (.ok r, s₁))
    (hr : r.stdout.isAllBlank = true) (hs : holds s₁ = holds s)
    (hq : holds s (renamePath path d) = none) :
    Effect d (holds s) (.rename path) (holds ((Job.rename path).step c x d s).state)
      ((Job.rename path).step c x d s).result := by
  have hpath : literal path := hj.2 path (by simp [operation, Operation.shellPaths])
  have hdest : literal (renamePath path d) := hj.1
  have hstate := checked_state (c := c) (x := x) .backup (moveCommand path (renamePath path d)) s₁
  rcases hc : checked c x .backup (moveCommand path (renamePath path d)) s₁ with ⟨o, s₂, l⟩
  have hok : o = .ok () ↔ EndsInZero c x (moveCommand path (renamePath path d)) s₁ := by
    rw [← checked_ok_iff .backup, hc]
  have hs₂ : s₂ = (c.exec x (moveCommand path (renamePath path d)) s₁).2 := by rw [← hstate, hc]
  obtain ⟨record, ho⟩ := rename_absent hl hr hc
  rw [step, ho]
  show Effect d (holds s) _ (holds s₂) _
  rw [hs₂]
  have hfails : ¬ EndsInZero c x (moveCommand path (renamePath path d)) s₁ →
      ∃ e, o = .error e := by
    intro hz
    rcases o with e | ⟨⟩
    · exact ⟨e, rfl⟩
    · exact absurd (hok.1 rfl) hz
  rw [← hs] at hq
  rcases hp : holds s₁ path with _ | v
  · obtain ⟨hz, hkeep⟩ := h.move_missing hpath hdest hp hq
    obtain ⟨e, rfl⟩ := hfails hz
    rw [hkeep, hs]
    exact .failed
  have hsome : (holds s₁ path).isSome = true := by rw [hp]; rfl
  rcases h.move hpath hdest hsome hq with ⟨hz, hmoved⟩ | ⟨hz, hkeep⟩
  · obtain rfl := hok.2 hz
    rw [hmoved, ← hs]
    exact .moved hsome hq
  · obtain ⟨e, rfl⟩ := hfails hz
    rw [hkeep, hs]
    exact .failed

/-- Into an archive that is listed as absent paths are packed, if there is an archiver. -/
theorem archive_effect (h : LiteralShell c x literal holds) {name : String} {paths : List String}
    {r : CommandResult} (hj : (Job.archive name paths).IsLiteral literal d)
    (hl : c.exec x (listCommand (archivePath name d)) s = (.ok r, s₁))
    (hr : r.stdout.isAllBlank = true) (hs : holds s₁ = holds s)
    (hq : holds s (archivePath name d) = none) :
    Effect d (holds s) (.archive name paths) (holds ((Job.archive name paths).step c x d s).state)
      ((Job.archive name paths).step c x d s).result := by
  have hz := archiver_state (c := c) (x := x) s₁
  have hlocated : holds (archiver c x s₁).state = holds s := by
    rw [hz, h.locate_keeps, hs]
  rcases ha : archiver c x s₁ with ⟨e | zip, s₂, l⟩
  · obtain ⟨record, ho⟩ : ∃ record, Backup.archive c x name paths d s =
        ⟨.error e, s₂, _ :: .log record :: l⟩ := archive_unlocated hl hr ha
    rw [ha] at hlocated
    rw [step, ho]
    show Effect d (holds s) _ (holds s₂) _
    rw [hlocated]
    exact .failed
  have hzip : IsArchiver c x zip := archiver_isArchiver (s := s₁) (by rw [ha])
  have hdest : literal (archivePath name d) := hj.1
  have hpaths : ∀ p ∈ paths, literal p := fun p hp => hj.2 p (List.mem_cons_of_mem name hp)
  have hstate := checked_state (c := c) (x := x) .backup
    (packCommand zip (archivePath name d) paths) s₂
  rcases hc : checked c x .backup (packCommand zip (archivePath name d) paths) s₂ with ⟨o, s₃, l'⟩
  have hok : o = .ok () ↔ EndsInZero c x (packCommand zip (archivePath name d) paths) s₂ := by
    rw [← checked_ok_iff .backup, hc]
  have hs₃ : s₃ = (c.exec x (packCommand zip (archivePath name d) paths) s₂).2 := by
    rw [← hstate, hc]
  obtain ⟨record, ho⟩ := archive_located hl hr ha hc
  rw [ha] at hlocated
  rw [step, ho]
  show Effect d (holds s) _ (holds s₃) _
  obtain ⟨hkeep, hpacked⟩ := h.pack (s := s₂) hzip hdest hpaths
  have hkeep' : ∀ p, p ≠ archivePath name d → holds s₃ p = holds s p := by
    intro p hp
    rw [hs₃, hkeep p hp, ← hlocated]
  rcases o with e | ⟨⟩
  · exact .spoiled hq hkeep'
  · refine .packed hq hkeep' ?_
    rw [hs₃]
    exact hpacked (hok.1 rfl)

/-- **A backup ends in one of the ways of `Effect`.** -/
theorem step_effect (h : LiteralShell c x literal holds) {j : Job} (hj : j.IsLiteral literal d)
    (s : σ) : Effect d (holds s) j (holds (j.step c x d s).state) (j.step c x d s).result := by
  have hkeep := h.list_keeps (s := s) hj.1
  rcases hl : c.exec x (listCommand (j.dated d)) s with ⟨e | r, s₁⟩
  · obtain ⟨hresult, hstate⟩ := step_unlisted hl
    rw [hl] at hkeep
    rw [hresult, hstate, hkeep]
    exact .failed
  have hshow := h.list_shows hj.1 hl
  rw [hl] at hkeep
  cases hr : r.stdout.isAllBlank with
  | false =>
    obtain ⟨hresult, hstate⟩ := step_listed hl hr
    rw [hresult, hstate, hkeep]
    exact .skipped (hshow.1 hr)
  | true =>
    have hq : holds s (j.dated d) = none := by
      rw [← Option.not_isSome_iff_eq_none, ← hshow, hr]
      decide
    cases j with
    | rename path => exact rename_effect h hj hl hr hkeep hq
    | archive name paths => exact archive_effect h hj hl hr hkeep hq

/-- **A backup that is there is not made again.** All that happens is that it is listed. -/
theorem step_present (h : LiteralShell c x literal holds) {j : Job} (hj : j.IsLiteral literal d)
    (hq : (holds s (j.dated d)).isSome = true) :
    (j.step c x d s).result =
        (c.exec x (listCommand (j.dated d)) s).1.map (fun _ => .alreadyExists (j.dated d)) ∧
      holds (j.step c x d s).state = holds s := by
  have hkeep := h.list_keeps (s := s) hj.1
  rcases hl : c.exec x (listCommand (j.dated d)) s with ⟨e | r, s₁⟩
  · obtain ⟨hresult, hstate⟩ := step_unlisted hl
    rw [hl] at hkeep
    rw [hresult, hstate, hkeep]
    exact ⟨rfl, rfl⟩
  · obtain ⟨hresult, hstate⟩ := step_listed hl ((h.list_shows hj.1 hl).2 hq)
    rw [hl] at hkeep
    rw [hresult, hstate, hkeep]
    exact ⟨rfl, rfl⟩

end Job

end Backup

/-- **The engine makes the same backups**, with the date that is set, and counts what they did. -/
theorem Engine.dispatch_job (hd : g.date = some d) (target : Target) (j : Job) (v : Serving σ) :
    (dispatch c g x target j.operation v).result =
        (j.step c x d v.outside).result.map (fun _ => ()) ∧
      (dispatch c g x target j.operation v).state =
        ⟨(j.step c x d v.outside).state, match (j.step c x d v.outside).result with
          | .ok o => v.report.recordBackup o
          | .error _ => v.report⟩ := by
  have hrecorded : dispatch c g x target j.operation =
      recorded c g target fun d => j.step c x d := by
    cases j <;> rfl
  have hdate : g.date.getD (c.today v.outside) = d := by rw [hd, Option.getD_some]
  rw [hrecorded, ← hdate]
  rcases h : j.step c x (g.date.getD (c.today v.outside)) v.outside with ⟨e | o, s₁, l⟩
  · rw [recorded_error (b := fun d => j.step c x d) h]
    exact ⟨rfl, rfl⟩
  · obtain ⟨records, ho⟩ :=
      recorded_ok (b := fun d => j.step c x d) (g := g) (r := v.report) target h
    rw [ho]
    exact ⟨rfl, rfl⟩

end Rollout
