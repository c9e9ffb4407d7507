import Rollout.Proofs.Backups
import Rollout.Proofs.Chronology
import Rollout.Proofs.Connections

/-!
# Dated names are told apart

The dated name of a path tells the path, the day and the kind of backup. So a shell that takes paths
literally never answers for one backup when it is asked for another. Where a path is a pattern, it can.

* `Backup.renamePath_inj`, `Backup.archivePath_inj`, `Backup.renamePath_ne_archivePath`: what a dated
  name tells.
* `Job.listCommand_dated_inj`: backups are asked for by different commands.
* `Job.runDated_absent`: other backups, of any days, leave a dated path absent.
* `dated_names_unambiguous`: all of it, with the order of the stamps.
* `pattern_finds_another_backup`: a pattern that matches the backup of another path.
-/

namespace Rollout

variable {σ γ : Type} {c : Connector σ} {x : Session} {d e : Date} {s : σ}
  {literal : String → Prop} {holds : σ → String → Option γ} {p q : String}

namespace Backup

/-! ## What a dated name tells -/

theorem toList_renamePath (p : String) (d : Date) :
    (renamePath p d).toList = p.toList ++ '-' :: d.stamp.toList := by
  have hdash : "-".toList = ['-'] := rfl
  simp only [renamePath, String.toList_append, hdash, List.append_assoc, List.singleton_append]

theorem toList_archivePath (p : String) (d : Date) :
    (archivePath p d).toList = p.toList ++ '.' :: (d.stamp.toList ++ ".bak.zip".toList) := by
  have hdot : ".".toList = ['.'] := rfl
  simp only [archivePath, String.toList_append, hdot, List.append_assoc, List.cons_append,
    List.nil_append]

/-- **The dated name of a path tells the path and the day.** The path may itself end in a date. -/
theorem renamePath_inj (hd : d.HasPlainYear) (he : e.HasPlainYear) :
    renamePath p d = renamePath q e ↔ p = q ∧ d = e := by
  constructor
  · intro h
    have hlist := congrArg String.toList h
    rw [toList_renamePath, toList_renamePath] at hlist
    have hlength : ('-' :: d.stamp.toList).length = ('-' :: e.stamp.toList).length := by
      rw [List.length_cons, List.length_cons, hd.length_stamp, he.length_stamp]
    obtain ⟨hpath, hrest⟩ := List.append_inj' hlist hlength
    have hstamp : d.stamp.toList = e.stamp.toList := (List.cons.inj hrest).2
    exact ⟨String.toList_injective hpath, Date.stamp_inj hd he (String.toList_injective hstamp)⟩
  · rintro ⟨rfl, rfl⟩
    rfl

/-- **The dated name of an archive tells the archive and the day.** -/
theorem archivePath_inj (hd : d.HasPlainYear) (he : e.HasPlainYear) :
    archivePath p d = archivePath q e ↔ p = q ∧ d = e := by
  constructor
  · intro h
    have hlist := congrArg String.toList h
    rw [toList_archivePath, toList_archivePath] at hlist
    have hlength : ('.' :: (d.stamp.toList ++ ".bak.zip".toList)).length =
        ('.' :: (e.stamp.toList ++ ".bak.zip".toList)).length := by
      rw [List.length_cons, List.length_cons, List.length_append, List.length_append,
        hd.length_stamp, he.length_stamp]
    obtain ⟨hpath, hrest⟩ := List.append_inj' hlist hlength
    have hstamp : d.stamp.toList = e.stamp.toList := List.append_cancel_right (List.cons.inj hrest).2
    exact ⟨String.toList_injective hpath, Date.stamp_inj hd he (String.toList_injective hstamp)⟩
  · rintro ⟨rfl, rfl⟩
    rfl

/-- **A dated name tells the kind of backup.** One ends in a digit, the other in a letter. -/
theorem renamePath_ne_archivePath (p q : String) (d e : Date) :
    renamePath p d ≠ archivePath q e := by
  intro h
  have hlist := congrArg String.toList h
  rw [toList_renamePath, toList_archivePath] at hlist
  have hlast := congrArg List.getLast? hlist
  have hletter : (q.toList ++ '.' :: (e.stamp.toList ++ ".bak.zip".toList)).getLast? = some 'p' := by
    have hzip : ".bak.zip".toList = ".bak.zi".toList ++ ['p'] := rfl
    rw [hzip, ← List.append_assoc, ← List.cons_append, ← List.append_assoc, List.getLast?_concat]
  obtain ⟨digits, c, hstamp, hdigit⟩ := d.stamp_concat
  rw [hletter, hstamp, ← List.cons_append, ← List.append_assoc, List.getLast?_concat] at hlast
  obtain rfl : c = 'p' := Option.some.inj hlast
  exact absurd hdigit (by decide)

namespace Job

/-- Whether two backups are of one kind, and of one path. -/
def Same : Job → Job → Prop
  | .rename p, .rename q => p = q
  | .archive n _, .archive m _ => n = m
  | _, _ => False

/-- **Backups have one dated path only if they are of one kind, one path and one day.** -/
theorem dated_inj (hd : d.HasPlainYear) (he : e.HasPlainYear) (j k : Job) :
    j.dated d = k.dated e ↔ j.Same k ∧ d = e := by
  cases j with
  | rename p =>
    cases k with
    | rename q => exact renamePath_inj hd he
    | archive m _ =>
      have hne : renamePath p d ≠ archivePath m e := renamePath_ne_archivePath p m d e
      simp [dated, Same, hne]
  | archive n _ =>
    cases k with
    | rename q =>
      have hne : archivePath n d ≠ renamePath q e := (renamePath_ne_archivePath q n e d).symm
      simp [dated, Same, hne]
    | archive m _ => exact archivePath_inj hd he

/-- **Backups are asked for by different commands.** -/
theorem listCommand_dated_inj (hd : d.HasPlainYear) (he : e.HasPlainYear) (j k : Job) :
    listCommand (j.dated d) = listCommand (k.dated e) ↔ j.Same k ∧ d = e := by
  rw [← dated_inj hd he j k]
  constructor
  · intro h
    have hlist := congrArg String.toList h
    simp only [listCommand, String.toList_append] at hlist
    exact String.toList_injective (List.append_cancel_left hlist)
  · intro h
    rw [h]

/-! ## Backups of any days -/

/-- The state after backups, each with a date of its own, whatever becomes of each. -/
def runDated (c : Connector σ) (x : Session) (jobs : List (Job × Date)) (s : σ) : σ :=
  jobs.foldl (fun s j => (j.1.step c x j.2 s).state) s

end Job

/-- A backup makes nothing but its own dated path. -/
theorem Effect.absent {a b : String → Option γ} {j : Job} {o : Except DeployError BackupOutcome}
    (h : Effect d a j b o) (hp : a p = none) (hne : p ≠ j.dated d) : b p = none := by
  cases h with
  | failed => exact hp
  | skipped => exact hp
  | @moved path hpath hq =>
    by_cases hpp : p = path
    · have hmoved : path ≠ renamePath path d := (renamePath_ne path d).symm
      rw [hpp]
      exact moved_source hmoved
    · exact (moved_other hpp hne).trans hp
  | spoiled hq hkeep | packed hq hkeep => exact (hkeep p hne).trans hp

namespace Job

/-- **Other backups leave a dated path absent**, of whatever paths, days and kinds they are. -/
theorem runDated_absent (h : LiteralShell c x literal holds) (jobs : List (Job × Date)) :
    ∀ {s : σ}, holds s p = none → (∀ k ∈ jobs, k.1.IsLiteral literal k.2 ∧ p ≠ k.1.dated k.2) →
      holds (runDated c x jobs s) p = none := by
  induction jobs with
  | nil => exact fun hp _ => hp
  | cons k jobs ih =>
    intro s hp hothers
    obtain ⟨hliteral, hne⟩ := hothers k List.mem_cons_self
    have hstep : holds (k.1.step c x k.2 s).state p = none :=
      (step_effect h hliteral s).absent hp hne
    exact ih hstep fun i hi => hothers i (List.mem_cons_of_mem k hi)

end Job

/-- A literal shell answers whether the path that it is asked for is there, or not at all. -/
theorem isPresent_literal (h : LiteralShell c x literal holds) (hp : literal p) (s : σ) :
    (isPresent c x p s).result =
      (c.exec x (listCommand p) s).1.map fun _ => (holds s p).isSome := by
  rcases hl : c.exec x (listCommand p) s with ⟨e | r, s₁⟩
  · rw [isPresent_error hl]
    rfl
  · obtain ⟨record, ho⟩ := isPresent_ok hl
    have hshows := h.list_shows hp hl
    have hfound : (!r.stdout.isAllBlank) = (holds s p).isSome := by
      rw [Bool.eq_iff_iff, ← hshows, Bool.not_eq_true']
    rw [ho, hfound]
    rfl

end Backup

open Backup

/-- **Dated names are told apart, and sort as days do.** In the years 0 to 9999 stamps are in the order
of the days. The dated name of a path tells the path and the day, that of an archive too, and no name
is one of each kind. So backups are asked for by different commands, and a shell that takes paths
literally says that a backup is there only if it is: as long as only others have been made, of any
kinds, paths and days but not the same of all three, the answer is no. -/
theorem dated_names_unambiguous (h : LiteralShell c x literal holds) :
    (∀ d e : Date, d.HasPlainYear → e.HasPlainYear → (d.Before e ↔ d.stamp < e.stamp)) ∧
    (∀ (p q : String) (d e : Date), d.HasPlainYear → e.HasPlainYear →
      (renamePath p d = renamePath q e ↔ p = q ∧ d = e) ∧
      (archivePath p d = archivePath q e ↔ p = q ∧ d = e) ∧
      renamePath p d ≠ archivePath q e) ∧
    (∀ (j k : Job) (d e : Date), d.HasPlainYear → e.HasPlainYear →
      (listCommand (j.dated d) = listCommand (k.dated e) ↔ j.Same k ∧ d = e)) ∧
    ∀ (j : Job) (d : Date), d.HasPlainYear → j.IsLiteral literal d →
      ∀ (s : σ), holds s (j.dated d) = none → ∀ others : List (Job × Date),
        (∀ k ∈ others, k.1.IsLiteral literal k.2 ∧ k.2.HasPlainYear ∧ ¬ (j.Same k.1 ∧ d = k.2)) →
        let s₁ := Job.runDated c x others s
        holds s₁ (j.dated d) = none ∧
          (isPresent c x (j.dated d) s₁).result =
            (c.exec x (listCommand (j.dated d)) s₁).1.map fun _ => false := by
  refine ⟨?_, ?_, ?_, ?_⟩
  · intro d e hd he
    exact (Date.stamp_lt_iff hd he).symm
  · intro p q d e hd he
    exact ⟨renamePath_inj hd he, archivePath_inj hd he, renamePath_ne_archivePath p q d e⟩
  · intro j k d e hd he
    exact Job.listCommand_dated_inj hd he j k
  · intro j d hd hj s habsent others hothers s₁
    have hnone : holds s₁ (j.dated d) = none := by
      apply Job.runDated_absent h others habsent
      intro k hk
      obtain ⟨hliteral, hyear, hother⟩ := hothers k hk
      exact ⟨hliteral, fun hsame => hother ((Job.dated_inj hd hyear j k.1).1 hsame)⟩
    refine ⟨hnone, ?_⟩
    rw [isPresent_literal h hj.1, hnone]
    rfl

/-- The same path on two days, and an archive of the same name. -/
theorem dated_names_unambiguous_shelf :
    let a : Shelf.State := Function.update (fun _ => none) "app-20240101" (some "old")
    let nextDay : Date := ⟨2024, 1, 2, by decide, by decide, by decide, by decide⟩
    let others : List (Job × Date) :=
      [(.rename "app-20240101", .newYear2024), (.archive "app" ["app"], nextDay)]
    let s₁ := Job.runDated Shelf.connector Shelf.session others a
    Date.newYear2024.stamp < nextDay.stamp ∧
      renamePath "app-20240101" .newYear2024 ≠ renamePath "app" nextDay ∧
      (isPresent Shelf.connector Shelf.session (renamePath "app" nextDay) s₁).result = .ok false := by
  intro a nextDay others s₁
  obtain ⟨horder, hnames, -, hcheck⟩ := dated_names_unambiguous Shelf.isLiteral
  have hday : Date.newYear2024.HasPlainYear := by decide
  have hnext : nextDay.HasPlainYear := by decide
  have hliteral (j : Job) (d : Date) (hw : ∀ p ∈ j.operation.shellPaths, IsWord p) :
      j.IsLiteral IsWord d := Job.isLiteral_of_words d hw
  have hdated : IsWord (renamePath "app" nextDay) := renamePath_isWord (by decide) nextDay
  have habsent : a (renamePath "app" nextDay) = none := by
    apply Function.update_of_ne
    decide
  obtain ⟨hnone, hanswer⟩ := hcheck (.rename "app") nextDay hnext
    (hliteral _ _ (by simp [Job.operation, Operation.shellPaths]; decide)) a habsent others (by
      intro k hk
      rcases List.mem_cons.1 hk with rfl | hk
      · refine ⟨hliteral _ _ (by simp [Job.operation, Operation.shellPaths]; decide), hday, ?_⟩
        rintro ⟨-, hsame⟩
        exact absurd hsame (by decide)
      · obtain rfl := List.mem_singleton.1 hk
        refine ⟨hliteral _ _ (by simp [Job.operation, Operation.shellPaths]; decide), hnext, ?_⟩
        rintro ⟨hsame, -⟩
        exact hsame)
  refine ⟨(horder _ _ hday hnext).1 (by decide), ?_, ?_⟩
  · intro h
    exact absurd ((hnames _ _ _ _ hday hnext).1.1 h).2 (by decide)
  · refine hanswer.trans ?_
    show (Shelf.exec (listCommand (renamePath "app" nextDay)) s₁).1.map _ = _
    rw [Shelf.exec_list hdated]
    split <;> rfl

/-! ## Patterns -/

namespace Backup

/-- Two files. -/
def twoFiles : Local.State :=
  { files := { nodes := [(["app.conf".toList], .file [1] (.given 0)),
      (["db.conf".toList], .file [2] (.given 0))] } }

/-- The same files, one of them under its dated name. -/
def oneDated : Local.State :=
  { files := { nodes := [(["app.conf-20240101".toList], .file [1] (.given 0)),
      (["db.conf".toList], .file [2] (.given 0))] } }

/-- What a listing of a path that is not there prints. -/
def missingText (p : String) : List UInt8 :=
  Utf8.encode ("ls: cannot access '" ++ p ++ "': No such file or directory\n").toList

/-- What a listing of the file with a date prints. -/
def datedText : List UInt8 :=
  Utf8.encode "-rw-r--r-- 1 root root 1 Jan  1 00:00 app.conf-20240101\n".toList

theorem pattern_unmatched : Shell.run twoFiles.files [] (listCommand "*.conf-20240101").toList =
    (⟨[], missingText "*.conf-20240101", some 2⟩, twoFiles.files, []) := by
  decide +kernel

theorem name_missing : Shell.run twoFiles.files [] (listCommand "app.conf-20240101").toList =
    (⟨[], missingText "app.conf-20240101", some 2⟩, twoFiles.files, []) := by
  decide +kernel

theorem name_dated :
    Shell.run twoFiles.files [] (moveCommand "app.conf" "app.conf-20240101").toList =
      (⟨[], [], some 0⟩, oneDated.files, []) := by
  decide +kernel

theorem pattern_matched : Shell.run oneDated.files [] (listCommand "*.conf-20240101").toList =
    (⟨datedText, [], some 0⟩, oneDated.files, []) := by
  decide +kernel

/-- What a command does here, once it is known what the shell does with it. -/
theorem exec_here {t t' : Local.State} {command : String} {p : Completion}
    (hnul : command.toList.contains '\x00' = false) (hinput : t.input = []) (ht' : t'.opened = t.opened)
    (hrun : Shell.run t.files [] command.toList =
      (⟨p.output, p.errors, some p.status.toNat⟩, t'.files, t'.input)) :
    Local.connector.exec ⟨0, "localhost"⟩ command t = (.ok p.result, t') := by
  rw [← hinput] at hrun
  have hexec : Local.exec "localhost" command t =
      (.ok p.result, { t with files := t'.files, input := t'.input }) :=
    Local.exec_completion hnul hrun
  obtain ⟨files, input, opened⟩ := t'
  obtain rfl : opened = t.opened := ht'
  exact hexec

end Backup

/-- The shell of this machine expands the dated name of a pattern. The backup that it finds is one of
another path, made just before, and the pattern's own backup is skipped. -/
theorem pattern_finds_another_backup :
    let here : Session := ⟨0, "localhost"⟩
    let q := renamePath "*.conf" .newYear2024
    let first := rename Local.connector here "app.conf" .newYear2024 twoFiles
    (isPresent Local.connector here q twoFiles).result = .ok false ∧
      first.result = .ok (.created (renamePath "app.conf" .newYear2024)) ∧
      (isPresent Local.connector here q first.state).result = .ok true ∧
      (rename Local.connector here "*.conf" .newYear2024 first.state).result =
        .ok (.alreadyExists q) := by
  intro here q first
  have hq : renamePath "*.conf" .newYear2024 = "*.conf-20240101" := by decide +kernel
  have hname : renamePath "app.conf" .newYear2024 = "app.conf-20240101" := by decide +kernel
  have hunmatched : Local.connector.exec here (listCommand q) twoFiles =
      (.ok (Completion.result ⟨[], missingText "*.conf-20240101", 2⟩), twoFiles) := by
    show Local.connector.exec here (listCommand (renamePath "*.conf" .newYear2024)) twoFiles = _
    rw [hq]
    exact exec_here (by decide) rfl rfl pattern_unmatched
  have hmissing : Local.connector.exec here (listCommand (renamePath "app.conf" .newYear2024))
      twoFiles = (.ok (Completion.result ⟨[], missingText "app.conf-20240101", 2⟩), twoFiles) := by
    rw [hname]
    exact exec_here (by decide) rfl rfl name_missing
  have hmoved : Local.connector.exec here
      (moveCommand "app.conf" (renamePath "app.conf" .newYear2024)) twoFiles =
        (.ok (Completion.result ⟨[], [], 0⟩), oneDated) := by
    rw [hname]
    exact exec_here (by decide) rfl rfl name_dated
  have hmatched : Local.connector.exec here (listCommand (renamePath "*.conf" .newYear2024))
      oneDated = (.ok (Completion.result ⟨datedText, [], 0⟩), oneDated) := by
    rw [hq]
    exact exec_here (by decide) rfl rfl pattern_matched
  have hshown : (Completion.result ⟨datedText, [], 0⟩).stdout.isAllBlank = false := by decide +kernel
  have hblank (errors : List UInt8) (status : UInt8) :
      (Completion.result ⟨[], errors, status⟩).stdout.isAllBlank = true := rfl
  obtain ⟨record, hfirst⟩ := rename_absent hmissing (hblank _ _) (checked_zero hmoved rfl)
  have hstate : first.state = oneDated := congrArg Outcome.state hfirst
  have hcreated : first.result = .ok (.created (renamePath "app.conf" .newYear2024)) :=
    congrArg Outcome.result hfirst
  obtain ⟨_, hunfound⟩ := isPresent_ok hunmatched
  obtain ⟨_, hfound⟩ := isPresent_ok hmatched
  obtain ⟨_, hskipped⟩ := rename_present hmatched hshown
  rw [hstate]
  refine ⟨?_, hcreated, ?_, ?_⟩
  · rw [hunfound, hblank]
    rfl
  · show (isPresent Local.connector here (renamePath "*.conf" .newYear2024) oneDated).result = _
    rw [hfound, hshown]
    rfl
  · rw [hskipped]

end Rollout
