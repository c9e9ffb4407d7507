import Mathlib.Tactic.Tauto
import Rollout.Proofs.Sessions
import Rollout.Script

/-!
# Runs end at the first failure, and compose until then

A run that fails comes to a halt at a place: at connecting for a task, or at a command of one. What
comes after that place has no part in the run. Until it, a run over two lists is the run over the
first and then, from where that left the outside, the run over the second.

* `Run.halt?` finds the place, and `Halt.SameUpTo` says that two lists do not differ before it.
* `runCommands_same`, `execute_same`, `tasksFrom_same`: beyond the place nothing matters, for the
  commands of a task, a task, and the tasks of a run. A task notes in the log how many commands it
  has, so the log is left out of the comparison.
* `runCommands_append`, `tasksFrom_append`: two lists, one after the other.
* `tasks_halt_and_compose`: both for a whole run.
-/

namespace Rollout

variable {σ α : Type} {c : Connector σ} {g : Settings} {x : Session} {target : Target}

/-- Two outcomes that differ at most in what a view leaves out of their traces. -/
structure Outcome.Same (view : List Event → List Event) (o o' : Outcome σ α) : Prop where
  result : o.result = o'.result
  state : o.state = o'.state
  trace : view o.trace = view o'.trace

/-- Where a run comes to a halt; tasks, and the commands of each, are counted from 0. -/
inductive Halt where
  /-- At connecting for a task. -/
  | connecting (task : Nat)
  /-- At a command of a task. -/
  | command (task place : Nat)
  deriving Repr, DecidableEq

namespace Halt

/-- The task at which it happens. -/
def task : Halt → Nat
  | .connecting i => i
  | .command i _ => i

/-- The same place, with one task more before it. -/
def later : Halt → Halt
  | .connecting i => .connecting (i + 1)
  | .command i k => .command (i + 1) k

/-- As many tasks, of which those before the place are the same, and the one at the place has the
same target and the same commands up to the place. -/
def SameUpTo (h : Halt) (ts ts' : List Task) : Prop :=
  ts'.length = ts.length ∧ ts'.take h.task = ts.take h.task ∧
    ts'[h.task]?.map Task.target = ts[h.task]?.map Task.target ∧
    match h with
    | .connecting _ => True
    | .command i k => ts'[i]?.map (·.commands.take (k + 1)) = ts[i]?.map (·.commands.take (k + 1))

@[simp] theorem task_later (h : Halt) : h.later.task = h.task + 1 := by cases h <;> rfl

theorem sameUpTo_later {h : Halt} {t t' : Task} {ts ts' : List Task} :
    h.later.SameUpTo (t :: ts) (t' :: ts') ↔ t' = t ∧ h.SameUpTo ts ts' := by
  cases h <;> simp [SameUpTo, later, task] <;> tauto

end Halt

/-- The place of the first command that fails. -/
def Engine.failingCommand? (c : Connector σ) (g : Settings) (x : Session) (target : Target) :
    List String → Serving σ → Option Nat
  | [], _ => none
  | command :: commands, v =>
    let o := runCommand c g x target command v
    match o.result with
    | .error _ => some 0
    | .ok _ => (failingCommand? c g x target commands o.state).map (· + 1)

/-- Where a task comes to a halt. -/
def Engine.halt? (c : Connector σ) (g : Settings) (t : Task) (s : σ) : Option Halt :=
  match c.connect (targetOf g t) s with
  | (.error _, _) => some (.connecting 0)
  | (.ok x, s₁) =>
    (failingCommand? c g x (targetOf g t) t.commands ⟨s₁, { host := t.host }⟩).map (.command 0)

/-- Where tasks, one after another, come to a halt. -/
def Run.halt? (c : Connector σ) (g : Settings) : List Task → σ → Option Halt
  | [], _ => none
  | t :: ts, s =>
    match Engine.halt? c g t s with
    | some h => some h
    | none => (halt? c g ts (Engine.execute c g t s).state).map .later

/-! ## Commands -/

namespace Engine

theorem failingCommand?_eq_none {commands : List String} : ∀ {v : Serving σ},
    failingCommand? c g x target commands v = none ↔
      (runCommands c g x target commands v).result = .ok () := by
  induction commands with
  | nil => intro v; exact ⟨fun _ => rfl, fun _ => rfl⟩
  | cons command commands ih =>
    intro v
    unfold failingCommand?
    rcases h : runCommand c g x target command v with ⟨e | _, v', l⟩
    · rw [runCommands_error h]; simp
    · rw [runCommands_ok h]; simpa [Outcome.after] using ih

/-- **Commands beyond the first that fails have no part in a task.** -/
theorem runCommands_same {commands : List String} : ∀ {commands' : List String} {k : Nat}
    {v : Serving σ}, failingCommand? c g x target commands v = some k →
      commands'.take (k + 1) = commands.take (k + 1) →
      runCommands c g x target commands' v = runCommands c g x target commands v := by
  induction commands with
  | nil => intro commands' k v h; simp [failingCommand?] at h
  | cons command commands ih =>
    intro commands' k v h hc
    -- The place is not before the first command, so both lists begin with it.
    obtain ⟨rest, rfl⟩ : ∃ rest, commands' = command :: rest := by
      cases commands' with
      | nil => simp at hc
      | cons a rest => simp at hc; exact ⟨rest, by rw [hc.1]⟩
    unfold failingCommand? at h
    rcases ho : runCommand c g x target command v with ⟨e | _, v', l⟩
    · rw [runCommands_error ho, runCommands_error ho]
    · rw [ho] at h
      obtain ⟨j, hj, rfl⟩ : ∃ j, failingCommand? c g x target commands v' = some j ∧ j + 1 = k := by
        simpa using h
      rw [runCommands_ok ho, runCommands_ok ho, ih hj (by simpa using hc)]

theorem runCommands_append (before after : List String) :
    runCommands c g x target (before ++ after) =
      (do runCommands c g x target before; runCommands c g x target after) := by
  induction before with
  | nil => simp [runCommands]
  | cons command before ih => simp [runCommands, ih, bind_assoc]

/-! ## A task -/

variable {t t' : Task} {s : σ}

theorem halt?_eq_none :
    halt? c g t s = none ↔ ∃ r, (execute c g t s).result = .ok r := by
  unfold halt?
  rcases hx : c.connect (targetOf g t) s with ⟨e | x, s₁⟩
  · obtain ⟨record, h⟩ := execute_refused hx
    simp [h]
  · rcases hr : runCommands c g x (targetOf g t) t.commands ⟨s₁, { host := t.host }⟩ with
      ⟨r, v, l⟩
    obtain ⟨record, record', h⟩ := execute_served hx hr
    simp only [Option.map_eq_none_iff, failingCommand?_eq_none, hr, h]
    cases r <;> simp [Except.map]

theorem execute_halts {h : Halt} (hh : halt? c g t s = some h) :
    ∃ e, (execute c g t s).result = .error e := by
  cases hr : (execute c g t s).result with
  | error e => exact ⟨e, rfl⟩
  | ok r => rw [halt?_eq_none.2 ⟨r, hr⟩] at hh; cases hh

theorem halt?_task {h : Halt} (hh : halt? c g t s = some h) : h.task = 0 := by
  unfold halt? at hh
  rcases hx : c.connect (targetOf g t) s with ⟨e | x, s₁⟩
  · simp only [hx, Option.some.injEq] at hh
    rw [← hh]; rfl
  · simp only [hx, Option.map_eq_some_iff] at hh
    obtain ⟨k, _, rfl⟩ := hh
    rfl

theorem targetOf_same (h : t'.target = t.target) : targetOf g t' = targetOf g t := by
  unfold targetOf
  rw [h]

theorem host_same (h : t'.target = t.target) : t'.host = t.host :=
  congrArg Target.host h

/-- **What comes after the place where a task halts has no part in it.** -/
theorem execute_same {h : Halt} (hh : halt? c g t s = some h) {ts ts' : List Task}
    (hs : h.SameUpTo (t :: ts) (t' :: ts')) :
    t'.target = t.target ∧
      (execute c g t' s).Same unlogged (execute c g t s) := by
  unfold halt? at hh
  rcases hx : c.connect (targetOf g t) s with ⟨e | x, s₁⟩
  · simp only [hx, Option.some.injEq] at hh
    subst hh
    have ht : t'.target = t.target := by simpa [Halt.task] using hs.2.2.1
    have hx' := hx
    rw [← targetOf_same ht] at hx'
    obtain ⟨record, ho⟩ := execute_refused hx
    obtain ⟨record', ho'⟩ := execute_refused hx'
    rw [ho, ho', targetOf_same ht]
    exact ⟨ht, rfl, rfl, by simp [Event.isLog]⟩
  · simp only [hx, Option.map_eq_some_iff] at hh
    obtain ⟨k, hk, rfl⟩ := hh
    have ht : t'.target = t.target := by simpa [Halt.task] using hs.2.2.1
    have hc : t'.commands.take (k + 1) = t.commands.take (k + 1) := by simpa using hs.2.2.2
    have hx' := hx
    rw [← targetOf_same ht] at hx'
    have hr' := runCommands_same hk hc
    rcases hr : runCommands c g x (targetOf g t) t.commands ⟨s₁, { host := t.host }⟩ with
      ⟨r, v, l⟩
    rw [hr, ← host_same ht, ← targetOf_same ht] at hr'
    -- The records say how many commands there are, and are all that differs.
    obtain ⟨record₁, record₂, ho⟩ := execute_served hx hr
    obtain ⟨record₁', record₂', ho'⟩ := execute_served hx' hr'
    rw [ho, ho', targetOf_same ht]
    exact ⟨ht, rfl, rfl, by simp [Event.isLog]⟩

end Engine

namespace Run

/-! ## Tasks one after another -/

variable {t t' : Task} {ts ts' : List Task} {s : σ} {total index : Nat}

theorem task_same (ht : t'.target = t.target)
    (h : (Engine.execute c g t' s).Same unlogged (Engine.execute c g t s)) :
    (task c g total index t' s).Same unlogged (task c g total index t s) := by
  rcases he : Engine.execute c g t s with ⟨r, s₁, l⟩
  rcases he' : Engine.execute c g t' s with ⟨r', s₁', l'⟩
  obtain ⟨record, ho⟩ := task_eq total index he
  obtain ⟨record', ho'⟩ := task_eq total index he'
  rw [he, he'] at h
  rw [ho, ho', Engine.targetOf_same ht]
  exact ⟨h.result, h.state, by simp [Event.isLog, h.trace]⟩

/-- **What comes after the place where a run halts has no part in it.** -/
theorem tasksFrom_same (total : Nat) (ts : List Task) : ∀ {ts' : List Task} {h : Halt} {s : σ}
    (index : Nat), halt? c g ts s = some h → h.SameUpTo ts ts' →
      (tasksFrom c g total index ts' s).Same unlogged (tasksFrom c g total index ts s) := by
  induction ts with
  | nil => intro ts' h s index hh; simp [halt?] at hh
  | cons t ts ih =>
    intro ts' h s index hh hs
    obtain ⟨t', ts'', rfl⟩ := List.exists_cons_of_length_eq_add_one hs.1
    unfold halt? at hh
    -- Either the run halts in its first task, and what follows is not reached, or that task is the
    -- same and leaves both runs in one state.
    cases ht : Engine.halt? c g t s with
    | some h₀ =>
      simp only [ht, Option.some.injEq] at hh
      subst hh
      obtain ⟨htarget, he⟩ := Engine.execute_same ht hs
      have htask : (task c g total index t' s).Same unlogged (task c g total index t s) :=
        task_same htarget he
      obtain ⟨e, hr⟩ := Engine.execute_halts ht
      rcases hx : Engine.execute c g t s with ⟨_, s₁, l⟩
      rw [hx] at hr
      obtain rfl := hr
      obtain ⟨record, ho⟩ := task_eq total index hx
      rcases ho' : task c g total index t' s with ⟨r', s₁', l'⟩
      rw [ho, ho'] at htask
      obtain rfl : r' = .error e := htask.result
      rw [tasksFrom_error ho, tasksFrom_error ho']
      exact ⟨rfl, htask.state, htask.trace⟩
    | none =>
      simp only [ht, Option.map_eq_some_iff] at hh
      obtain ⟨h', hh', rfl⟩ := hh
      obtain ⟨rfl, hs'⟩ := Halt.sameUpTo_later.1 hs
      obtain ⟨r, hr⟩ := Engine.halt?_eq_none.1 ht
      rcases he : Engine.execute c g t' s with ⟨_, s₁, l⟩
      rw [he] at hr hh'
      obtain rfl := hr
      obtain ⟨record, ho⟩ := task_eq total index he
      have hrest := ih (index + 1) hh' hs'
      rw [tasksFrom_ok ho, tasksFrom_ok ho]
      exact ⟨by rw [hrest.result], hrest.state, by simp [hrest.trace]⟩

theorem halt?_eq_none (total : Nat) (ts : List Task) : ∀ {s : σ} (index : Nat),
    halt? c g ts s = none ↔ ∃ rs, (tasksFrom c g total index ts s).result = .ok rs := by
  induction ts with
  | nil => intro s index; exact ⟨fun _ => ⟨[], rfl⟩, fun _ => rfl⟩
  | cons t ts ih =>
    intro s index
    unfold halt?
    rcases hx : Engine.execute c g t s with ⟨e | r, s₁, l⟩
    · obtain ⟨record, ho⟩ := task_eq total index hx
      rw [tasksFrom_error ho]
      cases ht : Engine.halt? c g t s with
      | some h => simp
      | none => obtain ⟨r, hr⟩ := Engine.halt?_eq_none.1 ht; rw [hx] at hr; cases hr
    · obtain ⟨record, ho⟩ := task_eq total index hx
      rw [tasksFrom_ok ho, Engine.halt?_eq_none.2 ⟨r, by rw [hx]⟩]
      simp only [Option.map_eq_none_iff, ih (index + 1)]
      cases (tasksFrom c g total (index + 1) ts s₁).result <;> simp [Except.map]

/-- The target that a call is the first for. -/
def contacted? : Event → Option Target
  | .connect target _ => some target
  | _ => none

/-- A visit contacts its target once. -/
theorem contacted_visit {l : List Event} (h : Visit target l) :
    l.filterMap contacted? = [target] := by
  cases h with
  | refused e => rfl
  | served x errands h =>
    have he : errands.flatten.filterMap contacted? = [] := by
      rw [List.filterMap_eq_nil_iff]
      intro a ha
      obtain ⟨l, hl, hal⟩ := List.mem_flatten.1 ha
      cases h l hl with
      | exec purpose command reply => simp at hal; subst hal; rfl
      | refused e => simp at hal; subst hal; rfl
      | transfer y source destination size reply =>
        simp at hal; rcases hal with rfl | rfl | rfl <;> rfl
    simp [List.filterMap_append, he, contacted?]

/-- **No server after the place where a run halts is contacted.** -/
theorem contacted_of_halt (total : Nat) (ts : List Task) : ∀ {h : Halt} {s : σ} (index : Nat),
    halt? c g ts s = some h →
      (calls (tasksFrom c g total index ts s).trace).filterMap contacted? =
        (ts.take (h.task + 1)).map (Engine.targetOf g) := by
  induction ts with
  | nil => intro h s index hh; simp [halt?] at hh
  | cons t ts ih =>
    intro h s index hh
    have hv := contacted_visit (execute_visit (c := c) (g := g) t s)
    unfold halt? at hh
    rcases hx : Engine.execute c g t s with ⟨r, s₁, l⟩
    rw [hx] at hv
    obtain ⟨record, ho⟩ := task_eq total index hx
    cases ht : Engine.halt? c g t s with
    | some h₀ =>
      simp only [ht, Option.some.injEq] at hh
      subst hh
      obtain ⟨e, hr⟩ := Engine.execute_halts ht
      rw [hx] at hr
      obtain rfl := hr
      rw [tasksFrom_error ho]
      simp [Event.isCall, hv, Engine.halt?_task ht]
    | none =>
      simp only [ht, hx, Option.map_eq_some_iff] at hh
      obtain ⟨h', hh', rfl⟩ := hh
      obtain ⟨r', hr⟩ := Engine.halt?_eq_none.1 ht
      rw [hx] at hr
      obtain rfl := hr
      have hrest := ih (index + 1) hh'
      rw [tasksFrom_ok ho]
      simp [Event.isCall, hv, hrest, List.filterMap_append]

/-! ## One list after another -/

/-- Neither the place of the first task nor the number of all tasks has a part in what is called. -/
theorem tasksFrom_anywhere (total total' : Nat) (ts : List Task) : ∀ (index index' : Nat) (s : σ),
    (tasksFrom c g total index ts s).Same calls (tasksFrom c g total' index' ts s) := by
  induction ts with
  | nil => intro index index' s; exact ⟨rfl, rfl, rfl⟩
  | cons t ts ih =>
    intro index index' s
    rcases hx : Engine.execute c g t s with ⟨e | r, s₁, l⟩
    · obtain ⟨record, h⟩ := task_eq total index hx
      obtain ⟨record', h'⟩ := task_eq total' index' hx
      rw [tasksFrom_error h, tasksFrom_error h']
      exact ⟨rfl, rfl, by simp [Event.isCall]⟩
    · obtain ⟨record, h⟩ := task_eq total index hx
      obtain ⟨record', h'⟩ := task_eq total' index' hx
      have hrest := ih (index + 1) (index' + 1) s₁
      rw [tasksFrom_ok h, tasksFrom_ok h']
      exact ⟨by rw [hrest.result], hrest.state, by simp [Event.isCall, hrest.trace]⟩

theorem tasksFrom_append (total : Nat) (before after : List Task) : ∀ index : Nat,
    tasksFrom c g total index (before ++ after) = do
      let rs ← tasksFrom c g total index before
      let rs' ← tasksFrom c g total (index + before.length) after
      return rs ++ rs' := by
  induction before with
  | nil => intro index; simp [tasksFrom]
  | cons t before ih =>
    intro index
    simp [tasksFrom, ih, bind_assoc, Nat.add_assoc, Nat.add_comm 1]

theorem tasks_append {before after : List Task} {s : σ} {r : RunRecap}
    (h : (tasks c g before s).result = .ok r) :
    calls (tasks c g (before ++ after) s).trace =
        calls (tasks c g before s).trace ++
          calls (tasks c g after (tasks c g before s).state).trace ∧
      (tasks c g (before ++ after) s).state =
        (tasks c g after (tasks c g before s).state).state ∧
      (tasks c g (before ++ after) s).result =
        (tasks c g after (tasks c g before s).state).result.map fun r' =>
          { servers := r.servers ++ r'.servers } := by
  simp only [tasks_eq] at h ⊢
  -- In the longer run the headers count more tasks; the calls are the same.
  have hb := tasksFrom_anywhere (c := c) (g := g) (before ++ after).length before.length before
    1 1 s
  rcases ho : tasksFrom c g before.length 1 before s with ⟨e | rs, s₁, l⟩
  · rw [ho] at h; cases h
  rw [ho] at h hb
  obtain rfl : { servers := rs } = r := by simpa [Except.map] using h
  have ha := tasksFrom_anywhere (c := c) (g := g) (before ++ after).length after.length after
    (1 + before.length) 1 s₁
  rcases ho' : tasksFrom c g (before ++ after).length 1 before s with ⟨r', s', l'⟩
  rw [ho'] at hb
  obtain rfl : r' = .ok rs := hb.result
  obtain rfl : s' = s₁ := hb.state
  obtain hl : calls l' = calls l := hb.trace
  rw [tasksFrom_append, Step.bind_ok ho', Step.bind_pure_eq]
  refine ⟨?_, ha.state, ?_⟩
  · simp only [Outcome.after, calls_append, hl, ha.trace]
  · simp only [Outcome.after, ha.result]
    cases (tasksFrom c g after.length 1 after s').result <;> rfl

end Run

/-- The calls of a task whose first commands succeed. -/
theorem Engine.execute_append {t : Task} {before : List String} (after : List String) {s s₁ : σ}
    (hx : c.connect (targetOf g t) s = (.ok x, s₁)) {v : Serving σ} {l : List Event}
    (hr : runCommands c g x (targetOf g t) before ⟨s₁, { host := t.host }⟩ = ⟨.ok (), v, l⟩) :
    calls (execute c g { t with commands := before ++ after } s).trace =
      .connect (targetOf g t) (.ok x) ::
        (calls l ++ calls (runCommands c g x (targetOf g t) after v).trace ++ [.close x]) := by
  rcases ha : runCommands c g x (targetOf g t) after v with ⟨r, v', l'⟩
  have hall : runCommands c g x (targetOf g t) (before ++ after) ⟨s₁, { host := t.host }⟩ =
      ⟨r, v', l ++ l'⟩ := by
    rw [runCommands_append, Step.bind_ok hr, ha]
    rfl
  obtain ⟨record, record', h⟩ :=
    execute_served (t := { t with commands := before ++ after }) hx hall
  rw [h]
  simp [Event.isCall, targetOf, Task.target]

/-- **Fail-fast and composition.** A run fails exactly if it halts at some place. Then the targets it
has contacted are those of the tasks up to that place, and any run over as many tasks that do not
differ before the place ends with the same error, having made the same calls and shown the same lines.

After tasks that succeed, further tasks do what they would do alone, started from what the first left;
and after commands of a task that succeed, so do further commands, on the same session. -/
theorem tasks_halt_and_compose (c : Connector σ) (g : Settings) :
    (∀ ts s, ((∃ e, (Run.tasks c g ts s).result = .error e) ↔ ∃ h, Run.halt? c g ts s = some h) ∧
      ∀ h, Run.halt? c g ts s = some h →
        (calls (Run.tasks c g ts s).trace).filterMap Run.contacted? =
          (ts.take (h.task + 1)).map (Engine.targetOf g) ∧
        ∀ ts', h.SameUpTo ts ts' → (Run.tasks c g ts' s).Same unlogged (Run.tasks c g ts s)) ∧
    (∀ before after s r, (Run.tasks c g before s).result = .ok r →
      let rest := Run.tasks c g after (Run.tasks c g before s).state
      calls (Run.tasks c g (before ++ after) s).trace =
        calls (Run.tasks c g before s).trace ++ calls rest.trace ∧
      (Run.tasks c g (before ++ after) s).state = rest.state ∧
      (Run.tasks c g (before ++ after) s).result =
        rest.result.map fun r' => { servers := r.servers ++ r'.servers }) ∧
    (∀ (t : Task) before after s x s₁, c.connect (Engine.targetOf g t) s = (.ok x, s₁) →
      let o := Engine.runCommands c g x (Engine.targetOf g t) before ⟨s₁, { host := t.host }⟩
      o.result = .ok () →
      let rest := Engine.runCommands c g x (Engine.targetOf g t) after o.state
      calls (Engine.execute c g { t with commands := before } s).trace =
        .connect (Engine.targetOf g t) (.ok x) :: (calls o.trace ++ [.close x]) ∧
      calls (Engine.execute c g { t with commands := before ++ after } s).trace =
        .connect (Engine.targetOf g t) (.ok x) :: (calls o.trace ++ calls rest.trace ++
          [.close x])) := by
  refine ⟨fun ts s => ⟨?_, fun h hh => ⟨?_, fun ts' hs => ?_⟩⟩, ?_, ?_⟩
  · have hn := Run.halt?_eq_none (c := c) (g := g) (s := s) ts.length ts 1
    rw [Run.tasks_eq]
    cases hh : Run.halt? c g ts s with
    | none => obtain ⟨rs, hr⟩ := hn.1 hh; simp [hr, Except.map]
    | some h =>
      cases hr : (Run.tasksFrom c g ts.length 1 ts s).result with
      | error e => simp [Except.map]
      | ok rs => rw [hn.2 ⟨rs, hr⟩] at hh; cases hh
  · rw [Run.tasks_eq]
    exact Run.contacted_of_halt ts.length ts 1 hh
  · have h' := Run.tasksFrom_same ts.length ts 1 hh hs
    rw [Run.tasks_eq, Run.tasks_eq, hs.1]
    exact ⟨by rw [h'.result], h'.state, h'.trace⟩
  · intro before after s r h
    exact Run.tasks_append h
  · intro t before after s x s₁ hx o ho rest
    have hr : Engine.runCommands c g x (Engine.targetOf g t) before ⟨s₁, { host := t.host }⟩ =
        ⟨.ok (), o.state, o.trace⟩ := by rw [← ho]
    have hnone := Engine.execute_append [] hx hr
    rw [List.append_nil] at hnone
    exact ⟨by simpa [Engine.runCommands, Step.pure_eq] using hnone,
      Engine.execute_append after hx hr⟩

theorem tasks_halt_and_compose_script :
    let c := ({ replies := [⟨"false", none, [.result { exitCode := 1 }]⟩] } : Script).connector
    let s : Script.State := { files := {}, used := [0] }
    let first : Task := ⟨"10.0.0.1", 22, "root", "secret", ["true"]⟩
    let second : Task := ⟨"10.0.0.2", 22, "root", "secret", ["true", "false", "date"]⟩
    Run.halt? c {} [first, second, first] s = some (.command 1 1) ∧
    (Run.tasks c {} [first, { second with commands := ["true", "false"] }, second] s).Same unlogged
      (Run.tasks c {} [first, second, first] s) ∧
    calls (Run.tasks c {} ([first] ++ [second]) s).trace =
      calls (Run.tasks c {} [first] s).trace ++
        calls (Run.tasks c {} [second] (Run.tasks c {} [first] s).state).trace ∧
    calls (Engine.execute c {} second s).trace =
      [.connect second.target (.ok ⟨0, "10.0.0.2"⟩),
        .exec ⟨0, "10.0.0.2"⟩ .command "true" (.ok {}),
        .exec ⟨0, "10.0.0.2"⟩ .command "false" (.ok { exitCode := 1 }),
        .close ⟨0, "10.0.0.2"⟩] := by
  intro c s first second
  obtain ⟨halts, runs, commands⟩ := tasks_halt_and_compose c {}
  refine ⟨rfl, ?_, ?_, ?_⟩
  · exact ((halts [first, second, first] s).2 (.command 1 1) rfl).2 _ ⟨rfl, rfl, rfl, rfl⟩
  · exact (runs [first] [second] s _ rfl).1
  · exact (commands second ["true"] ["false", "date"] s ⟨0, "10.0.0.2"⟩ { s with opened := 1 }
      rfl rfl).2

end Rollout
