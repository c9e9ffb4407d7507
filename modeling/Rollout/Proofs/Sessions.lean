import Mathlib.Data.List.Forall2
import Rollout.Proofs.Along

/-!
# Sessions are opened and closed in pairs

Whatever the outside replies, the calls of a run are made up of visits to the servers, in the order of
the tasks. A visit is one session for commands from its opening to its close, with the errands that
were done meanwhile; a file has a session of its own, within that of the commands.

* `execute_visit`: the calls of a task are one visit. Errors leave a task from many places, but every
  step only adds whole errands (`ErrandsOnly`), and the close is outside of all of them.
* `tasks_sessions`: the calls of a run, and what follows for the sessions that are open on the way.
-/

namespace Rollout

/-- One thing that is done while a session for commands is open. -/
inductive Errand (target : Target) (x : Session) : List Event → Prop
  | exec (purpose : Purpose) (command : String) (reply : Except DeployError CommandResult) :
    Errand target x [.exec x purpose command reply]
  | refused (e : DeployError) : Errand target x [.openTransfer target (.error e)]
  | transfer (y : Transfer) (source destination : String) (size : Nat)
      (reply : Except DeployError Unit) :
    Errand target x [.openTransfer target (.ok y), .upload y source destination size reply,
      .closeTransfer y]

/-- All calls that are made for one task. -/
inductive Visit (target : Target) : List Event → Prop
  | refused (e : DeployError) : Visit target [.connect target (.error e)]
  | served (x : Session) (errands : List (List Event)) (h : ∀ l ∈ errands, Errand target x l) :
    Visit target (.connect target (.ok x) :: (errands.flatten ++ [.close x]))

variable {σ α β : Type} {c : Connector σ} {g : Settings} {x : Session} {target : Target} {s : σ}

/-! ## Steps that only do errands -/

/-- The calls are errands, each of them complete, whether there was an error or not. -/
def ErrandsOnly (target : Target) (x : Session) : Saying := fun _ l =>
  ∃ errands : List (List Event), (∀ k ∈ errands, Errand target x k) ∧ calls l = errands.flatten

theorem errandsOnly_silent {o : Option DeployError} {l : List Event} (h : calls l = []) :
    ErrandsOnly target x o l :=
  ⟨[], by simp, h⟩

theorem errandsOnly_one {o : Option DeployError} {l : List Event} (h : Errand target x (calls l)) :
    ErrandsOnly target x o l :=
  ⟨[calls l], by simpa using h, by simp⟩

theorem errandsOnly_composes : (ErrandsOnly target x).Composes where
  nil := errandsOnly_silent rfl
  append {o l l'} h h' := by
    obtain ⟨errands, he, hl⟩ := h
    obtain ⟨errands', he', hl'⟩ := h'
    -- Since errands are whole, they are still whole one after another.
    refine ⟨errands ++ errands', ?_, ?_⟩
    · intro k hk
      rcases List.mem_append.1 hk with hk | hk
      · exact he k hk
      · exact he' k hk
    · rw [calls_append, List.flatten_append, hl, hl']
  log r := errandsOnly_silent rfl
  print ls := errandsOnly_silent (calls_prints ls)

open Engine

/-- **An upload leaves no session open**, wherever it fails. -/
theorem errandsOnly_uploadFile (source destination : String) :
    Along (ErrandsOnly target x) (uploadFile c g target source destination) := by
  intro s
  rcases hn : sourceSize (c.files s) source with e | n
  · rw [uploadFile_unreadable hn]
    exact errandsOnly_silent rfl
  rcases hy : c.openTransfer target s with ⟨e | y, s₁⟩
  · rw [uploadFile_refused hn hy]
    exact errandsOnly_one (.refused e)
  rcases hu : c.upload y source destination s₁ with ⟨e | _, s₂⟩
  · rw [uploadFile_broken hn hy hu]
    refine errandsOnly_one ?_
    simpa [Event.isCall] using Errand.transfer y source destination n (.error e)
  · obtain ⟨record, h⟩ := uploadFile_sent (g := g) hn hy hu
    rw [h]
    refine errandsOnly_one ?_
    simpa [Event.isCall] using Errand.transfer y source destination n (.ok ())

/-- Everything else that is asked of the outside is one errand. -/
theorem errandsOnly_calls (c : Connector σ) (g : Settings) (x : Session) (target : Target) :
    AtCalls c g x target (ErrandsOnly target x) where
  raw command := fun v => errandsOnly_one (by rw [calls_raw]; exact .exec _ _ _)
  upload := errandsOnly_uploadFile
  choose directory limit := fun s => errandsOnly_silent rfl
  presence path := fun s => errandsOnly_one (by rw [Backup.calls_isPresent]; exact .exec _ _ _)
  archiver := fun s => errandsOnly_one (by rw [Backup.calls_archiver]; exact .exec _ _ _)
  backup command := fun s => errandsOnly_one (by rw [Backup.calls_checked]; exact .exec _ _ _)

/-! ## Visits -/

/-- **The calls of a task are one visit**, to the target of the task. -/
theorem execute_visit (t : Task) (s : σ) :
    Visit (targetOf g t) (calls (execute c g t s).trace) := by
  rcases hx : c.connect (targetOf g t) s with ⟨e | x, s₁⟩
  · obtain ⟨record, h⟩ := execute_refused hx
    rw [h]
    exact .refused e
  · obtain ⟨errands, he, hl⟩ := runCommands_along errandsOnly_composes
      ((errandsOnly_calls c g x (targetOf g t)).atSteps errandsOnly_composes) t.commands
      ⟨s₁, { host := t.host }⟩
    rcases hr : runCommands c g x (targetOf g t) t.commands ⟨s₁, { host := t.host }⟩ with
      ⟨r, v, l⟩
    obtain ⟨record, record', h⟩ := execute_served hx hr
    rw [hr] at hl
    rw [h]
    simpa [Event.isCall, hl] using Visit.served x errands he

theorem targetOf_eq (g : Settings) (t : Task) :
    targetOf g t = ⟨t.host, t.port, t.username,
      if t.password = "" then g.fallback.getD "" else t.password⟩ := by
  unfold targetOf Task.target Target.withFallback
  simp only
  split <;> rfl

theorem tasksFrom_visits (total : Nat) (ts : List Task) : ∀ (index : Nat) (s : σ),
    ∃ visits : List (List Event), calls (Run.tasksFrom c g total index ts s).trace = visits.flatten ∧
      List.Forall₂ (fun t l => Visit (targetOf g t) l) (ts.take visits.length) visits ∧
      (visits.length = ts.length ∨ ∃ e, (Run.tasksFrom c g total index ts s).result = .error e) := by
  induction ts with
  | nil => intro index s; exact ⟨[], rfl, .nil, Or.inl rfl⟩
  | cons t ts ih =>
    intro index s
    have hv := execute_visit (c := c) (g := g) t s
    rcases he : execute c g t s with ⟨e | r, s₁, l⟩
    · obtain ⟨record, ht⟩ := Run.task_eq total index he
      rw [Run.tasksFrom_error ht]
      refine ⟨[calls l], by simp [Event.isCall], ?_, Or.inr ⟨e, rfl⟩⟩
      rw [he] at hv; simpa using hv
    · obtain ⟨record, ht⟩ := Run.task_eq total index he
      obtain ⟨visits, hl, hvs, hn⟩ := ih (index + 1) s₁
      rw [Run.tasksFrom_ok ht]
      refine ⟨calls l :: visits, by simp [Event.isCall, hl], ?_, ?_⟩
      · rw [he] at hv; exact .cons hv hvs
      · rcases hn with hn | ⟨e, hn⟩
        · exact Or.inl (by simp [hn])
        · exact Or.inr ⟨e, by rw [hn]; rfl⟩

/-! ## The sessions that are open -/

/-- The session for commands that a call opens. -/
def Event.openedSession? : Event → Option Session
  | .connect _ (.ok x) => some x
  | _ => none

/-- The session for commands that a call closes. -/
def Event.closedSession? : Event → Option Session
  | .close x => some x
  | _ => none

/-- The session for a file that a call opens. -/
def Event.openedTransfer? : Event → Option Transfer
  | .openTransfer _ (.ok y) => some y
  | _ => none

/-- The session for a file that a call closes. -/
def Event.closedTransfer? : Event → Option Transfer
  | .closeTransfer y => some y
  | _ => none

/-- The sessions that are open at a moment: one for commands at most, and one for a file at most. -/
structure OpenSessions where
  command : Option Session := none
  transfer : Option Transfer := none
  deriving DecidableEq

namespace OpenSessions

/-- What is open after a call. There is nothing after a call that may not be made: one that uses or
closes a session that is not open, or opens a second one. -/
def next : OpenSessions → Event → Option OpenSessions
  | ⟨none, none⟩, .connect _ (.ok x) => some ⟨some x, none⟩
  | ⟨none, none⟩, .connect _ (.error _) => some ⟨none, none⟩
  | ⟨some x, none⟩, .exec x' .. => if x' = x then some ⟨some x, none⟩ else none
  | ⟨some x, none⟩, .close x' => if x' = x then some ⟨none, none⟩ else none
  | ⟨some x, none⟩, .openTransfer _ (.ok y) => some ⟨some x, some y⟩
  | ⟨some x, none⟩, .openTransfer _ (.error _) => some ⟨some x, none⟩
  | ⟨some x, some y⟩, .upload y' .. => if y' = y then some ⟨some x, some y⟩ else none
  | ⟨some x, some y⟩, .closeTransfer y' => if y' = y then some ⟨some x, none⟩ else none
  | _, _ => none

/-- What is open after calls. -/
def after (o : OpenSessions) (l : List Event) : Option OpenSessions := l.foldlM next o

theorem after_append {o o' : OpenSessions} {l l' : List Event} (h : o.after l = some o') :
    o.after (l ++ l') = o'.after l' := by
  unfold after at h ⊢
  rw [List.foldlM_append, h]
  rfl

theorem after_errand {l : List Event} (h : Errand target x l) :
    (⟨some x, none⟩ : OpenSessions).after l = some ⟨some x, none⟩ := by
  cases h with
  | exec purpose command reply => simp [after, next]
  | refused e => simp [after, next]
  | transfer y source destination size reply => simp [after, next]

theorem after_errands {errands : List (List Event)} (h : ∀ l ∈ errands, Errand target x l) :
    (⟨some x, none⟩ : OpenSessions).after errands.flatten = some ⟨some x, none⟩ := by
  induction errands with
  | nil => rfl
  | cons l errands ih =>
    rw [List.flatten_cons, after_append (after_errand (h l (by simp)))]
    exact ih fun k hk => h k (by simp [hk])

/-- A visit begins and ends with nothing open. -/
theorem after_visit {l : List Event} (h : Visit target l) :
    (⟨none, none⟩ : OpenSessions).after l = some ⟨none, none⟩ := by
  cases h with
  | refused e => rfl
  | served x errands h =>
    have hx : (⟨none, none⟩ : OpenSessions).after [.connect target (.ok x)] = some ⟨some x, none⟩ :=
      rfl
    rw [← List.singleton_append, after_append hx, after_append (after_errands h)]
    simp [after, next]

theorem after_visits {ts : List Task} {visits : List (List Event)}
    (h : List.Forall₂ (fun t l => Visit (targetOf g t) l) ts visits) :
    (⟨none, none⟩ : OpenSessions).after visits.flatten = some ⟨none, none⟩ := by
  induction h with
  | nil => rfl
  | cons hv _ ih => rw [List.flatten_cons, after_append (after_visit hv), ih]

theorem next_session {o o' : OpenSessions} {a : Event} (h : o.next a = some o') :
    o.command.toList ++ a.openedSession?.toList = a.closedSession?.toList ++ o'.command.toList := by
  unfold next at h
  split at h <;> simp_all [Event.openedSession?, Event.closedSession?] <;> grind

theorem next_transfer {o o' : OpenSessions} {a : Event} (h : o.next a = some o') :
    o.transfer.toList ++ a.openedTransfer?.toList =
      a.closedTransfer?.toList ++ o'.transfer.toList := by
  unfold next at h
  split at h <;> simp_all [Event.openedTransfer?, Event.closedTransfer?] <;> grind

/-- What was open and what is opened, is closed or still open, in the same order: if a call keeps to
that, then so do all calls. -/
theorem after_balanced {part : OpenSessions → Option β} {opened closed : Event → Option β}
    (hstep : ∀ {o o' a}, next o a = some o' →
      (part o).toList ++ (opened a).toList = (closed a).toList ++ (part o').toList)
    (l : List Event) : ∀ {o o' : OpenSessions}, o.after l = some o' →
      (part o).toList ++ l.filterMap opened = l.filterMap closed ++ (part o').toList := by
  have hcons : ∀ (f : Event → Option β) a l,
      List.filterMap f (a :: l) = (f a).toList ++ List.filterMap f l := by
    intro f a l
    cases h : f a <;> simp [h]
  induction l with
  | nil =>
    intro o o' h
    obtain rfl : o = o' := by simpa [after] using h
    simp
  | cons a l ih =>
    intro o o' h
    obtain ⟨o₁, ha, hl⟩ : ∃ o₁, o.next a = some o₁ ∧ o₁.after l = some o' := by
      simpa [after, Option.bind_eq_some_iff] using h
    rw [hcons, hcons, ← List.append_assoc, hstep ha, List.append_assoc, ih hl, List.append_assoc]

end OpenSessions

/-- **Sessions of a run.** The calls of a run are visits to the targets of its tasks, in their order:
to all of them, unless one fails. So no call is made on a session that is not open, there is never a
second session of a kind, nothing is open at the end, and the sessions that are closed are those that
were opened, each of them once. -/
theorem tasks_sessions (c : Connector σ) (g : Settings) (ts : List Task) (s : σ) :
    (∃ visits : List (List Event), calls (Run.tasks c g ts s).trace = visits.flatten ∧
      List.Forall₂ (fun (t : Task) l => Visit ⟨t.host, t.port, t.username,
        if t.password = "" then g.fallback.getD "" else t.password⟩ l)
        (ts.take visits.length) visits ∧
      (visits.length = ts.length ∨ ∃ e, (Run.tasks c g ts s).result = .error e)) ∧
    OpenSessions.after {} (calls (Run.tasks c g ts s).trace) = some {} ∧
    (calls (Run.tasks c g ts s).trace).filterMap Event.openedSession? =
      (calls (Run.tasks c g ts s).trace).filterMap Event.closedSession? ∧
    (calls (Run.tasks c g ts s).trace).filterMap Event.openedTransfer? =
      (calls (Run.tasks c g ts s).trace).filterMap Event.closedTransfer? := by
  obtain ⟨visits, hl, hvs, hn⟩ := tasksFrom_visits (c := c) (g := g) ts.length ts 1 s
  rw [Run.tasks_eq]
  have ho : OpenSessions.after {} (calls (Run.tasksFrom c g ts.length 1 ts s).trace) = some {} := by
    rw [hl]; exact OpenSessions.after_visits hvs
  refine ⟨⟨visits, hl, ?_, ?_⟩, ho, ?_, ?_⟩
  · simpa only [targetOf_eq] using hvs
  · rcases hn with hn | ⟨e, hn⟩
    · exact Or.inl hn
    · exact Or.inr ⟨e, by rw [hn]; rfl⟩
  · simpa using OpenSessions.after_balanced OpenSessions.next_session _ ho
  · simpa using OpenSessions.after_balanced OpenSessions.next_transfer _ ho

end Rollout
