import Mathlib.Logic.Function.Iterate
import Rollout.Proofs.LiteralShell

/-!
# Backups lose nothing

Backups are made one after another with one date, on a shell that takes their paths literally. Their
paths may be the dated names of others, and each of them may fail.

* `Job.run_traced`: what was at a path is still there after any number of backups, or at a name that
  the path got with one date or more.
* `Job.run_keeps`: it has not even moved, unless a backup was made of just that path.
* `Shelf` is a shell that knows nothing but the commands of backups; `Shelf.isLiteral`: it takes
  words literally.
* `backups_keep`: what a backup does after any others, and what it does when it is made again.
* `moved_backup_is_forgotten` is a backup that was itself moved, and cannot be made again.
-/

namespace Rollout

variable {σ γ : Type} {c : Connector σ} {x : Session} {d : Date} {literal : String → Prop}
  {holds : σ → String → Option γ}

namespace Backup

namespace Job

variable {s : σ} {p : String} {v : γ}

/-- The state after backups that are made one after another, whatever becomes of each. -/
def run (c : Connector σ) (x : Session) (d : Date) (jobs : List Job) (s : σ) : σ :=
  jobs.foldl (fun s j => (j.step c x d s).state) s

@[simp] theorem run_nil : run c x d [] s = s := rfl

@[simp] theorem run_cons (j : Job) (jobs : List Job) :
    run c x d (j :: jobs) s = run c x d jobs (j.step c x d s).state := rfl

@[simp] theorem run_append (jobs jobs' : List Job) :
    run c x d (jobs ++ jobs') s = run c x d jobs' (run c x d jobs s) :=
  List.foldl_append

/-- Whether one of the backups made from a state moves a path to its dated name. -/
def MovesAway (c : Connector σ) (x : Session) (d : Date) (p : String) (jobs : List Job) (s : σ) :
    Prop :=
  ∃ before after, jobs = before ++ .rename p :: after ∧
    ((Job.rename p).step c x d (run c x d before s)).result = .ok (.created (renamePath p d))

theorem movesAway_cons {j : Job} {jobs : List Job}
    (h : MovesAway c x d p jobs (j.step c x d s).state) : MovesAway c x d p (j :: jobs) s := by
  obtain ⟨before, after, rfl, hcreated⟩ := h
  exact ⟨j :: before, after, rfl, hcreated⟩

/-- **What was there is still somewhere**: under its path with no date, or with one or more. -/
theorem run_traced (h : LiteralShell c x literal holds) (jobs : List Job) :
    ∀ {s : σ} {p : String}, (∀ j ∈ jobs, j.IsLiteral literal d) → holds s p = some v →
      ∃ n, holds (run c x d jobs s) ((renamePath · d)^[n] p) = some v := by
  induction jobs with
  | nil => exact fun _ hp => ⟨0, hp⟩
  | cons j jobs ih =>
    intro s p hl hp
    have hj : j.IsLiteral literal d := hl j List.mem_cons_self
    have hjobs : ∀ i ∈ jobs, i.IsLiteral literal d := fun i hi => hl i (List.mem_cons_of_mem j hi)
    rcases (step_effect h hj s).keeps hp with hkept | ⟨-, -, -, -, hmoved⟩
    · exact ih hjobs hkept
    · obtain ⟨n, hn⟩ := ih hjobs hmoved
      refine ⟨n + 1, ?_⟩
      rw [Function.iterate_succ_apply]
      exact hn

/-- **What was there has not moved**, unless its own backup was made. -/
theorem run_keeps (h : LiteralShell c x literal holds) (jobs : List Job) :
    ∀ {s : σ}, (∀ j ∈ jobs, j.IsLiteral literal d) → holds s p = some v →
      ¬ MovesAway c x d p jobs s → holds (run c x d jobs s) p = some v := by
  induction jobs with
  | nil => exact fun _ hp _ => hp
  | cons j jobs ih =>
    intro s hl hp hstays
    have hj : j.IsLiteral literal d := hl j List.mem_cons_self
    have hjobs : ∀ i ∈ jobs, i.IsLiteral literal d := fun i hi => hl i (List.mem_cons_of_mem j hi)
    rcases (step_effect h hj s).keeps hp with hkept | ⟨rfl, hcreated, -⟩
    · exact ih hjobs hkept fun hm => hstays (movesAway_cons hm)
    · exact absurd ⟨[], jobs, rfl, hcreated⟩ hstays

end Job

end Backup

open Backup

/-! ## A shell with nothing else -/

namespace Shelf

/-- A text at each path, if there is one. -/
abbrev State := String → Option String

def reply (code : Int) (text : String) : Except DeployError CommandResult :=
  .ok { stdout := text, exitCode := code }

/-- Runs the commands that backups are made of. -/
def exec (command : String) (a : State) : Except DeployError CommandResult × State :=
  match (Text.words command.toList).map String.ofList with
  | ["ls", "-al", p] => if (a p).isSome then (reply 0 p, a) else (reply 2 "", a)
  | ["mv", p, q] => if (a p).isSome then (reply 0 "", moved a p q) else (reply 1 "", a)
  | ["command", "-v", "zip"] => (reply 0 "zip", a)
  | "zip" :: "-r" :: q :: _ => (reply 0 "", Function.update a q (some "packed"))
  | _ => (reply 127 "", a)

/-- A shell that knows nothing but the commands of backups. -/
def connector : Connector State where
  files _ := {}
  connect t a := (.ok ⟨0, t.host⟩, a)
  exec _ := exec
  close _ a := a
  openTransfer t a := (.ok ⟨0, t.host⟩, a)
  upload _ _ _ a := (.ok (), a)
  closeTransfer _ a := a

def session : Session := ⟨0, "shelf"⟩

variable {a : State} {p q : String}

theorem exec_list (hp : IsWord p) :
    exec (listCommand p) a = if (a p).isSome then (reply 0 p, a) else (reply 2 "", a) := by
  have hwords : (Text.words (listCommand p).toList).map String.ofList = ["ls", "-al", p] := by
    have hc : listCommand p = "ls" ++ " " ++ ("-al" ++ " " ++ p) := by
      simp only [listCommand, ← String.append_assoc]
      rfl
    rw [hc, IsWord.words_append (by decide), IsWord.words_append (by decide), hp.words_toList]
    simp
  unfold exec
  rw [hwords]
  simp

theorem exec_move (hp : IsWord p) (hq : IsWord q) :
    exec (moveCommand p q) a =
      if (a p).isSome then (reply 0 "", moved a p q) else (reply 1 "", a) := by
  have hwords : (Text.words (moveCommand p q).toList).map String.ofList = ["mv", p, q] := by
    have hc : moveCommand p q = "mv" ++ " " ++ (p ++ " " ++ q) := by
      simp only [moveCommand, ← String.append_assoc]
      rfl
    rw [hc, IsWord.words_append (by decide), hp.words_append, hq.words_toList]
    simp
  unfold exec
  rw [hwords]
  simp

theorem exec_archiver : exec archiverCommand a = (reply 0 "zip", a) := by
  have hwords : (Text.words archiverCommand.toList).map String.ofList =
      ["command", "-v", "zip"] := by
    decide
  unfold exec
  rw [hwords]
  simp

theorem exec_pack (hq : IsWord q) (paths : List String) :
    exec (packCommand "zip" q paths) a = (reply 0 "", Function.update a q (some "packed")) := by
  have hwords : (Text.words (packCommand "zip" q paths).toList).map String.ofList =
      "zip" :: "-r" :: q :: (Text.words (" ".intercalate paths).toList).map String.ofList := by
    have hc : packCommand "zip" q paths =
        "zip" ++ " " ++ ("-r" ++ " " ++ (q ++ " " ++ " ".intercalate paths)) := by
      simp only [packCommand, ← String.append_assoc]
      rfl
    rw [hc, IsWord.words_append (by decide), IsWord.words_append (by decide), hq.words_append]
    simp
  unfold exec
  rw [hwords]
  simp

theorem isArchiver_eq {zip : String} (h : IsArchiver connector session zip) : zip = "zip" := by
  obtain ⟨a, r, a₁, hexec, hzip, -⟩ := h
  have hr : exec archiverCommand a = (.ok r, a₁) := hexec
  rw [exec_archiver] at hr
  cases hr
  rw [← hzip]
  rfl

theorem endsInZero_move (hp : IsWord p) (hq : IsWord q) :
    EndsInZero connector session (moveCommand p q) a ↔ (a p).isSome = true := by
  show (∃ r a₁, exec (moveCommand p q) a = (.ok r, a₁) ∧ r.exitCode = 0) ↔ _
  rw [exec_move hp hq]
  cases (a p).isSome <;> simp [reply]

theorem isLiteral : LiteralShell connector session IsWord fun a : State => a where
  list_keeps {p a} hp := by
    show (exec (listCommand p) a).2 = a
    rw [exec_list hp]
    split <;> rfl
  list_shows {p a r a₁} hp h := by
    have hr : exec (listCommand p) a = (.ok r, a₁) := h
    rw [exec_list hp] at hr
    split at hr
    · rename_i hthere
      cases hr
      simp [hthere, hp.isAllBlank_eq_false]
    · rename_i hmissing
      cases hr
      simp [hmissing]
      rfl
  move_missing {p q a} hp hq hmissing _ := by
    rw [endsInZero_move hp hq]
    show _ ∧ (exec (moveCommand p q) a).2 = a
    rw [exec_move hp hq, hmissing]
    exact ⟨by decide, rfl⟩
  move {p q a} hp hq hthere _ := by
    left
    rw [endsInZero_move hp hq]
    show _ ∧ (exec (moveCommand p q) a).2 = _
    rw [exec_move hp hq, if_pos hthere]
    exact ⟨hthere, rfl⟩
  locate_keeps {a} := by
    show (exec archiverCommand a).2 = a
    rw [exec_archiver]
  pack {zip q paths a} hzip hq _ := by
    obtain rfl := isArchiver_eq hzip
    show (∀ p, p ≠ q → (exec (packCommand "zip" q paths) a).2 p = a p) ∧
      (_ → ((exec (packCommand "zip" q paths) a).2 q).isSome = true)
    rw [exec_pack hq]
    exact ⟨fun p hp => Function.update_of_ne hp _ a, fun _ => by simp⟩

theorem exec_missing (hp : IsWord p) (hmissing : a p = none) :
    connector.exec session (listCommand p) a = (.ok { exitCode := 2 }, a) := by
  show exec (listCommand p) a = _
  rw [exec_list hp, hmissing]
  rfl

/-- A path that is there is moved to its dated name, if that is absent. -/
theorem rename_created (hp : IsWord p) (hthere : (a p).isSome = true)
    (hq : a (renamePath p d) = none) :
    ((Job.rename p).step connector session d a).result = .ok (.created (renamePath p d)) ∧
      ((Job.rename p).step connector session d a).state = moved a p (renamePath p d) := by
  have hmove : connector.exec session (moveCommand p (renamePath p d)) a =
      (.ok { exitCode := 0 }, moved a p (renamePath p d)) := by
    show exec (moveCommand p (renamePath p d)) a = _
    rw [exec_move hp (renamePath_isWord hp d), if_pos hthere]
    rfl
  obtain ⟨record, ho⟩ := rename_absent (exec_missing (renamePath_isWord hp d) hq) rfl
    (checked_zero hmove rfl)
  rw [Job.step, ho]
  exact ⟨rfl, rfl⟩

/-- A path that is not there cannot be moved. -/
theorem rename_fails (hp : IsWord p) (hmissing : a p = none) (hq : a (renamePath p d) = none) :
    ∃ e, ((Job.rename p).step connector session d a).result = .error e := by
  have hmove : connector.exec session (moveCommand p (renamePath p d)) a =
      (.ok { exitCode := 1 }, a) := by
    show exec (moveCommand p (renamePath p d)) a = _
    rw [exec_move hp (renamePath_isWord hp d), hmissing]
    rfl
  obtain ⟨record, ho⟩ := rename_absent (exec_missing (renamePath_isWord hp d) hq) rfl
    (checked_nonzero hmove (by decide))
  rw [Job.step, ho]
  exact ⟨_, rfl⟩

end Shelf

/-! ## Any number of backups -/

/-- **Backups lose nothing, and are made once a day.** On a shell that takes their paths literally,
whatever backups were made before:

* what is at a path is still there after one more backup, unless this has moved it to the dated name
  of the path, where there was nothing;
* what was at a path at first is still there after all of them, or under the name that the path got
  with one date or more;
* a backup that was made is not made again, unless it was moved away itself: its path still holds
  what it held, and to make it again only lists it. -/
theorem backups_keep (h : LiteralShell c x literal holds) (s : σ) :
    (∀ before j, (∀ i ∈ before ++ [j], i.IsLiteral literal d) →
      ∀ p v, holds (Job.run c x d before s) p = some v →
        holds (Job.run c x d (before ++ [j]) s) p = some v ∨
        (j = .rename p ∧
          (j.step c x d (Job.run c x d before s)).result = .ok (.created (renamePath p d)) ∧
          holds (Job.run c x d before s) (renamePath p d) = none ∧
          holds (Job.run c x d (before ++ [j]) s) p = none ∧
          holds (Job.run c x d (before ++ [j]) s) (renamePath p d) = some v)) ∧
    (∀ jobs, (∀ i ∈ jobs, i.IsLiteral literal d) → ∀ p v, holds s p = some v →
      ∃ n, holds (Job.run c x d jobs s) ((renamePath · d)^[n] p) = some v) ∧
    (∀ before j between, (∀ i ∈ before ++ j :: between, i.IsLiteral literal d) →
      ∀ q, (j.step c x d (Job.run c x d before s)).result = .ok (.created q) →
        ¬ Job.MovesAway c x d q between (Job.run c x d (before ++ [j]) s) →
        let s₁ := Job.run c x d (before ++ j :: between) s
        q = j.dated d ∧ holds s₁ q = holds (Job.run c x d (before ++ [j]) s) q ∧
          (j.step c x d s₁).result =
            (c.exec x (listCommand q) s₁).1.map (fun _ => .alreadyExists q) ∧
          holds (j.step c x d s₁).state = holds s₁) := by
  refine ⟨?_, ?_, ?_⟩
  · intro before j hl p v hp
    have hj : j.IsLiteral literal d := hl j (by simp)
    rw [Job.run_append]
    exact (Job.step_effect h hj _).keeps hp
  · intro jobs hl p v hp
    exact Job.run_traced h jobs hl hp
  · intro before j between hl q hcreated hstays s₁
    have hj : j.IsLiteral literal d := hl j (by simp)
    have hbetween : ∀ i ∈ between, i.IsLiteral literal d := fun i hi => hl i (by simp [hi])
    obtain ⟨rfl, -, hthere⟩ := (Job.step_effect h hj _).created hcreated
    obtain ⟨v, hv⟩ := Option.isSome_iff_exists.1 hthere
    have hafter : Job.run c x d (before ++ [j]) s = (j.step c x d (Job.run c x d before s)).state :=
      Job.run_append before [j]
    have hs₁ : s₁ = Job.run c x d between (Job.run c x d (before ++ [j]) s) := by
      rw [hafter]
      exact Job.run_append before (j :: between)
    rw [← hafter] at hv
    have hkept : holds s₁ (j.dated d) = some v := by
      rw [hs₁]
      exact Job.run_keeps h between hbetween hv hstays
    have hsome : (holds s₁ (j.dated d)).isSome = true := by rw [hkept]; rfl
    obtain ⟨hresult, hstate⟩ := Job.step_present h hj hsome
    exact ⟨rfl, by rw [hkept, hv], hresult, hstate⟩

/-- A path that is moved once, with an archive made in between. -/
theorem backups_keep_shelf :
    let a : Shelf.State := Function.update (fun _ => none) "app.conf" (some "port=80")
    let j := Job.rename "app.conf"
    let q := renamePath "app.conf" .newYear2024
    let s₁ := Job.run Shelf.connector Shelf.session .newYear2024 [j, .archive "all.zip" [q]] a
    s₁ q = some "port=80" ∧
      (j.step Shelf.connector Shelf.session .newYear2024 s₁).result = .ok (.alreadyExists q) ∧
      (j.step Shelf.connector Shelf.session .newYear2024 s₁).state = s₁ := by
  intro a j q s₁
  have hp : IsWord "app.conf" := by decide
  have hq : IsWord q := renamePath_isWord hp _
  have hl : ∀ i ∈ [j, .archive "all.zip" [q]], i.IsLiteral IsWord .newYear2024 := by
    intro i hi
    rcases List.mem_cons.1 hi with rfl | hi
    · exact Job.isLiteral_of_words _ (by simpa [j, Job.operation, Operation.shellPaths] using hp)
    · obtain rfl := List.mem_singleton.1 hi
      refine Job.isLiteral_of_words _ ?_
      simpa [Job.operation, Operation.shellPaths] using ⟨by decide, hq⟩
  have habsent : a q = none := Function.update_of_ne (renamePath_ne _ _) _ _
  obtain ⟨hcreated, hstate⟩ := Shelf.rename_created hp (a := a) (by simp [a]) habsent
  have hstays : ¬ Job.MovesAway Shelf.connector Shelf.session .newYear2024 q
      [.archive "all.zip" [q]] (Job.run Shelf.connector Shelf.session .newYear2024 [j] a) := by
    rintro ⟨before, after, h, -⟩
    have hmem : Job.rename q ∈ [Job.archive "all.zip" [q]] := by
      rw [h]
      simp
    simp at hmem
  obtain ⟨-, hkept, hresult, hsame⟩ :=
    (backups_keep Shelf.isLiteral a).2.2 [] j _ hl q hcreated hstays
  have hthere : s₁ q = some "port=80" := by
    refine hkept.trans ?_
    show ((Job.rename "app.conf").step Shelf.connector Shelf.session .newYear2024 a).state q = _
    rw [hstate, moved_target]
    exact Function.update_self _ _ _
  have hlisted : (Shelf.connector.exec Shelf.session (listCommand q) s₁).1 = Shelf.reply 0 q := by
    show (Shelf.exec (listCommand q) s₁).1 = _
    rw [Shelf.exec_list hq, hthere]
    rfl
  refine ⟨hthere, hresult.trans ?_, hsame⟩
  show (Shelf.connector.exec Shelf.session (listCommand q) s₁).1.map _ = _
  rw [hlisted]
  rfl

/-- A backup that is moved to a dated name of its own is no longer found, and to make it again
fails. -/
theorem moved_backup_is_forgotten :
    let a : Shelf.State := Function.update (fun _ => none) "app.conf" (some "port=80")
    let step (j : Job) := j.step Shelf.connector Shelf.session .newYear2024
    let q := renamePath "app.conf" .newYear2024
    let first := step (.rename "app.conf") a
    let second := step (.rename q) first.state
    LiteralShell Shelf.connector Shelf.session IsWord (fun a : Shelf.State => a) ∧
      first.result = .ok (.created q) ∧
      second.result = .ok (.created (renamePath q .newYear2024)) ∧
      ∃ e, (step (.rename "app.conf") second.state).result = .error e := by
  intro a step q first second
  have hp : IsWord "app.conf" := by decide
  have hq : IsWord q := renamePath_isWord hp _
  have hpq : q ≠ "app.conf" := renamePath_ne _ _
  have hqr : renamePath q .newYear2024 ≠ q := renamePath_ne _ _
  have habsent : a q = none := Function.update_of_ne hpq _ _
  have hrp : renamePath q .newYear2024 ≠ "app.conf" := by
    intro h
    have hlength := congrArg String.length h
    rw [length_renamePath, length_renamePath] at hlength
    omega
  obtain ⟨hfirst, hmoved⟩ := Shelf.rename_created hp (a := a) (by simp [a]) habsent
  -- The backup is at `q`, and what it was made of is gone.
  have hthere : (first.state q).isSome = true := by
    rw [hmoved, moved_target]
    rfl
  have hfree : first.state (renamePath q .newYear2024) = none := by
    rw [hmoved, moved_other hrp hqr]
    exact Function.update_of_ne hrp _ _
  have hgone : first.state "app.conf" = none := by
    rw [hmoved]
    exact moved_source hpq.symm
  obtain ⟨hsecond, hmoved'⟩ := Shelf.rename_created hq hthere hfree
  have hmissing : second.state "app.conf" = none := by
    rw [hmoved', moved_other hpq.symm hrp.symm]
    exact hgone
  have hforgotten : second.state q = none := by
    rw [hmoved']
    exact moved_source hqr.symm
  exact ⟨Shelf.isLiteral, hfirst, hsecond, Shelf.rename_fails hp hmissing hforgotten⟩

end Rollout
