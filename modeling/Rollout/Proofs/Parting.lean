import Mathlib.Data.List.Forall2
import Rollout.Proofs.Pairs

/-!
# Runs that go alike up to a command

Two runs that are the same but for what carries their commands go alike as long as the commands are answered
alike. The first command that is not answered alike is where they part.

* `Connector.replay`: the state after calls. `Replays`: a step changes the outside by the calls in its trace,
  and by nothing else.
* `CommandResult.Near`, `SameEnd`, `Event.Near`: what may be told in two ways is the error output of a
  command.
* `Outcome.Near`: two outcomes that are alike, or whose calls are alike up to where the runs part. If the
  first run got an error there, it ended with it.
* `Engine.execute_near`: a task, with commands carried in two ways.
-/

namespace Rollout

variable {σ τ α β : Type}

/-! ## Calls and the state after them -/

/-- The state after a call. -/
def Connector.step (c : Connector σ) (s : σ) : Event → σ
  | .connect target _ => (c.connect target s).2
  | .exec x _ command _ => (c.exec x command s).2
  | .close x => c.close x s
  | .openTransfer target _ => (c.openTransfer target s).2
  | .upload y source destination _ _ => (c.upload y source destination s).2
  | .closeTransfer y => c.closeTransfer y s
  | _ => s

/-- The state after calls, one after another. -/
def Connector.replay (c : Connector σ) (l : List Event) (s : σ) : σ := l.foldl c.step s

theorem Connector.replay_append (c : Connector σ) (l l' : List Event) (s : σ) :
    c.replay (l ++ l') s = c.replay l' (c.replay l s) := List.foldl_append

/-- The outside is left as the calls of an outcome leave it. -/
def Replays (c : Connector σ) (out : τ → σ) (v : τ) (o : Outcome τ α) : Prop :=
  out o.state = c.replay (calls o.trace) (out v)

namespace Replays

variable {c : Connector σ} {out : τ → σ} {v : τ}

theorem still {o : Outcome τ α} (hcalls : calls o.trace = []) (hstate : out o.state = out v) :
    Replays c out v o := by
  rw [Replays, hcalls]
  exact hstate

/-- What is done after what has been done. -/
theorem after {o : Outcome τ α} {w : τ} {l : List Event} (hw : out w = c.replay (calls l) (out v))
    (h : Replays c out w o) : Replays c out v (o.after l) := by
  rw [Replays, Outcome.after, calls_append, c.replay_append, ← hw]
  exact h

theorem bind {x : Step τ α} {f : α → Step τ β} (hx : Replays c out v (x v))
    (hf : ∀ a v, Replays c out v (f a v)) : Replays c out v ((x >>= f) v) := by
  rcases h : x v with ⟨e | a, w, l⟩
  all_goals rw [h] at hx
  · rw [Step.bind_error h]
    exact hx
  · rw [Step.bind_ok h]
    exact .after hx (hf a w)

theorem ensuring {x : Step τ α} {last : Step τ Unit} (hx : Replays c out v (x v))
    (hl : ∀ v, Replays c out v (last v)) : Replays c out v (x.ensuring last v) := by
  rcases h : x v with ⟨r, w, l⟩
  rw [h] at hx
  rw [Step.ensuring_eq h]
  exact @after σ τ Unit c out v (last w) w l hx (hl w)

theorem log (r : LogRecord) (s : σ) : Replays c id s ((Step.log r : Step σ Unit) s) := still rfl rfl

theorem connecting (target : Target) (s : σ) : Replays c id s (c.connecting target s) := by
  unfold Connector.connecting
  refine bind rfl fun x s => bind (still (calls_logs _) rfl) fun _ s => still rfl rfl

theorem closing (x : Session) (r : LogRecord) (s : σ) :
    Replays c id s ((do c.closing x; Step.log r : Step σ Unit) s) :=
  bind rfl fun _ s => log r s

theorem uploadFile (g : Settings) (target : Target) (source destination : String) (s : σ) :
    Replays c id s (Engine.uploadFile c g target source destination s) := by
  have hopening (s : σ) : Replays c id s (c.openingTransfer target s) := by
    unfold Connector.openingTransfer
    refine bind rfl fun x s => bind (still (calls_logs _) rfl) fun _ s => still rfl rfl
  unfold Engine.uploadFile
  exact bind (still rfl rfl) fun size s => bind (hopening s) fun y s =>
    bind (ensuring rfl fun s => rfl) fun _ s => bind (log _ s) fun _ s => still (calls_prints _) rfl

end Replays

/-! ## What may be told in two ways -/

/-- Error output as two runs tell it. -/
abbrev Telling := String → String → Prop

/-- Two results of a command that differ at most in how its error output is told. -/
structure CommandResult.Near (E : Telling) (r r' : CommandResult) : Prop where
  stdout : r'.stdout = r.stdout
  exitCode : r'.exitCode = r.exitCode
  stderr : E r.stderr r'.stderr

/-- Two ends of a step: the same one, or failures of one command that differ in its error output. -/
inductive SameEnd (E : Telling) : Except DeployError α → Except DeployError α → Prop
  | same (r) : SameEnd E r r
  | failed {host command code t t'} : E t t' →
      SameEnd E (.error (.remoteExit host command code t)) (.error (.remoteExit host command code t'))

/-- Two events: the same one, or results of one command that differ in its error output. -/
inductive Event.Near (E : Telling) : Event → Event → Prop
  | same (a) : Near E a a
  | exec {x purpose command r r'} : r.Near E r' →
      Near E (.exec x purpose command (.ok r)) (.exec x purpose command (.ok r'))

variable {E : Telling}

theorem Event.near_refl (l : List Event) : List.Forall₂ (Event.Near E) l l :=
  List.forall₂_same.2 fun a _ => .same a

theorem SameEnd.eq {r r' : Except DeployError α} (h : SameEnd (· = ·) r r') : r = r' := by
  cases h with
  | same => rfl
  | failed ht => rw [ht]

theorem CommandResult.Near.eq {r r' : CommandResult} (h : r.Near (· = ·) r') : r = r' := by
  obtain ⟨stdout, stderr, exitCode⟩ := r
  obtain ⟨stdout', stderr', exitCode'⟩ := r'
  obtain ⟨hstdout, hexitCode, hstderr⟩ := h
  simp only at hstdout hexitCode hstderr
  rw [hstdout, hexitCode, hstderr]

theorem Event.eq_of_near {l l' : List Event} (h : List.Forall₂ (Event.Near (· = ·)) l l') :
    l = l' := by
  induction h with
  | nil => rfl
  | cons ha _ ih =>
    cases ha with
    | same => rw [ih]
    | exec hr => rw [ih, hr.eq]

/-! ## Commands carried in two ways -/

/-- What carries commands: the reply to each, and the state after it. -/
abbrev Carrier (σ : Type) := Session → String → σ → Except DeployError CommandResult × σ

/-- The same outside with its commands carried in another way. -/
def Connector.carrying (c : Connector σ) (f : Carrier σ) : Connector σ := { c with exec := f }

/-- What is said of a command and a state in which two carriers do not answer it alike. -/
abbrev Parting (σ : Type) := Session → String → σ → Prop

/-- Two carriers answer a command alike in a state, or they part there. -/
inductive Answers (E : Telling) (D : Parting σ) (f f' : Carrier σ) (x : Session) (command : String)
    (s : σ) : Prop
  | near {r r' s₁} : f x command s = (.ok r, s₁) → f' x command s = (.ok r', s₁) → r.Near E r' →
      Answers E D f f' x command s
  | apart : D x command s → Answers E D f f' x command s

/-- Two outcomes of steps that started in one state, in runs with two carriers. The runs went alike, or
parted at a command, in the state that the calls before it had left. -/
inductive Outcome.Near (E : Telling) (D : Parting σ) (f f' : Carrier σ) (c : Connector σ) (out : τ → σ)
    (v : τ) (o o' : Outcome τ α) : Prop
  | alike : SameEnd E o.result o'.result → o'.state = o.state →
      List.Forall₂ (Event.Near E) (calls o.trace) (calls o'.trace) →
      Replays (c.carrying f) out v o → Near E D f f' c out v o o'
  | apart {before before' s x purpose command rest rest'} :
      s = (c.carrying f).replay before (out v) →
      List.Forall₂ (Event.Near E) before before' →
      calls o.trace = before ++ .exec x purpose command (f x command s).1 :: rest →
      calls o'.trace = before' ++ .exec x purpose command (f' x command s).1 :: rest' →
      D x command s → (∀ e, (f x command s).1 = .error e → o.result = .error e) →
      Near E D f f' c out v o o'

variable {D : Parting σ} {f f' : Carrier σ} {c : Connector σ}

namespace Outcome.Near

variable {out : τ → σ} {v : τ} {x x' : Step τ α}

theorem same {o : Outcome τ α} (h : Replays (c.carrying f) out v o) : Near E D f f' c out v o o :=
  .alike (.same _) rfl (Event.near_refl _) h

/-- What both runs did before is put before it. -/
theorem after {o o' : Outcome τ α} {w : τ} {l l' : List Event}
    (hl : List.Forall₂ (Event.Near E) (calls l) (calls l'))
    (hw : out w = (c.carrying f).replay (calls l) (out v)) (h : Near E D f f' c out w o o') :
    Near E D f f' c out v (o.after l) (o'.after l') := by
  cases h with
  | alike hends hstate hcalls hreplays =>
    refine .alike hends hstate ?_ (.after hw hreplays)
    simp only [Outcome.after, calls_append]
    exact List.rel_append hl hcalls
  | apart hs hbefore ho ho' hd herror =>
    have hcalls : calls (o.after l).trace = calls l ++ calls o.trace := calls_append _ _
    have hcalls' : calls (o'.after l').trace = calls l' ++ calls o'.trace := calls_append _ _
    rw [ho, ← List.append_assoc] at hcalls
    rw [ho', ← List.append_assoc] at hcalls'
    -- The state where they part is the replay from the start, of these calls and of those after them.
    rw [hw, ← Connector.replay_append] at hs
    exact .apart hs (List.rel_append hl hbefore) hcalls hcalls' hd herror

/-- A sequence goes on, if at all, after what its first step did. -/
theorem calls_bind (x : Step τ α) (f : α → Step τ β) (v : τ) :
    ∃ more, calls ((x >>= f) v).trace = calls (x v).trace ++ more := by
  rcases h : x v with ⟨e | a, w, l⟩
  · exact ⟨[], by rw [Step.bind_error h, List.append_nil]⟩
  · exact ⟨calls (f a w).trace, by rw [Step.bind_ok h, Outcome.after, calls_append]⟩

theorem bind {k k' : α → Step τ β} (hx : Near E D f f' c out v (x v) (x' v))
    (hk : ∀ a v, Near E D f f' c out v (k a v) (k' a v)) :
    Near E D f f' c out v ((x >>= k) v) ((x' >>= k') v) := by
  cases hx with
  | alike hends hstate hcalls hreplays =>
    rcases ho : x v with ⟨r, w, l⟩
    rcases ho' : x' v with ⟨r', w', l'⟩
    rw [ho, ho'] at hends hstate hcalls
    rw [ho] at hreplays
    obtain rfl : w' = w := hstate
    cases hends with
    | same r =>
      cases r with
      | error e =>
        rw [Step.bind_error ho, Step.bind_error ho']
        exact .alike (.same _) rfl hcalls hreplays
      | ok a =>
        rw [Step.bind_ok ho, Step.bind_ok ho']
        exact .after hcalls hreplays (hk a _)
    | failed ht =>
      rw [Step.bind_error ho, Step.bind_error ho']
      exact .alike (.failed ht) rfl hcalls hreplays
  | apart hs hbefore ho ho' hd herror =>
    obtain ⟨more, hmore⟩ := calls_bind x k v
    obtain ⟨more', hmore'⟩ := calls_bind x' k' v
    rw [ho, List.append_assoc, List.cons_append] at hmore
    rw [ho', List.append_assoc, List.cons_append] at hmore'
    -- If the first run went on after it had parted, it had got no error there.
    refine .apart hs hbefore hmore hmore' hd fun e he => ?_
    rcases hxv : x v with ⟨r, w, l⟩
    obtain rfl : r = .error e := by simpa [hxv] using herror e he
    rw [Step.bind_error hxv]

theorem ensuring {last : Step τ Unit} (h : Near E D f f' c out v (x v) (x' v))
    (hl : ∀ v, Replays (c.carrying f) out v (last v)) :
    Near E D f f' c out v (x.ensuring last v) (x'.ensuring last v) := by
  cases h with
  | alike hends hstate hcalls hreplays =>
    refine .alike hends (by simp only [Step.ensuring, hstate]) ?_ (.ensuring hreplays hl)
    simp only [Step.ensuring, hstate, calls_append]
    exact List.rel_append hcalls (Event.near_refl _)
  | apart hs hbefore ho ho' hd herror =>
    have hcalls (x : Step τ α) : calls (x.ensuring last v).trace =
        calls (x v).trace ++ calls (last (x v).state).trace := calls_append _ _
    have hx := hcalls x
    have hx' := hcalls x'
    rw [ho, List.append_assoc, List.cons_append] at hx
    rw [ho', List.append_assoc, List.cons_append] at hx'
    exact .apart hs hbefore hx hx' hd herror

theorem outside {a a' : Step σ α} {v : Serving σ}
    (h : Near E D f f' c id v.outside (a v.outside) (a' v.outside)) :
    Near E D f f' c Serving.outside v (Engine.outside a v) (Engine.outside a' v) := by
  cases h with
  | alike hends hstate hcalls hreplays =>
    exact .alike hends (congrArg (fun s => { v with outside := s }) hstate) hcalls hreplays
  | apart hs hbefore ho ho' hd herror => exact .apart hs hbefore ho ho' hd herror

theorem reporting {x x' : Step (Serving σ) Unit} {host : String} {s : σ}
    (h : Near E D f f' c Serving.outside ⟨s, { host }⟩ (x ⟨s, { host }⟩) (x' ⟨s, { host }⟩)) :
    Near E D f f' c id s (Engine.reporting host x s) (Engine.reporting host x' s) := by
  rcases ho : x ⟨s, { host }⟩ with ⟨r, w, l⟩
  rcases ho' : x' ⟨s, { host }⟩ with ⟨r', w', l'⟩
  rw [ho, ho'] at h
  simp only [Engine.reporting, ho, ho']
  cases h with
  | alike hends hstate hcalls hreplays =>
    obtain rfl : w' = w := hstate
    refine .alike ?_ rfl hcalls hreplays
    cases hends with
    | same => exact .same _
    | failed ht => exact .failed ht
  | apart hs hbefore hl hl' hd herror =>
    refine .apart hs hbefore hl hl' hd fun e he => ?_
    obtain rfl : r = .error e := herror e he
    rfl

/-- Two steps that make one call each, which is to run the same command. -/
theorem of_call {session : Session} {command : String} {purpose : Purpose} {s : σ}
    {o o' : Outcome τ α} (h : Answers E D f f' session command s) (hs : out v = s)
    (ho : calls o.trace = [.exec session purpose command (f session command s).1])
    (ho' : calls o'.trace = [.exec session purpose command (f' session command s).1])
    (herror : ∀ {e w}, f session command s = (.error e, w) → o.result = .error e)
    (hnear : ∀ {r r' w}, f session command s = (.ok r, w) → f' session command s = (.ok r', w) →
      r.Near E r' → SameEnd E o.result o'.result ∧ o'.state = o.state ∧ out o.state = w) :
    Near E D f f' c out v o o' := by
  cases h with
  | near hf hf' hr =>
    obtain ⟨hends, hsame, hstate⟩ := hnear hf hf' hr
    have hreplays : Replays (c.carrying f) out v o := by
      rw [Replays, hstate, ho, hs]
      exact (congrArg Prod.snd hf).symm
    refine .alike hends hsame ?_ hreplays
    rw [ho, ho', hf, hf']
    exact .cons (.exec hr) .nil
  | apart hd => exact .apart hs.symm .nil ho ho' hd fun e he => herror (Prod.ext he rfl)

/-- What is said of outcomes that are near, or part. -/
def pairing (E : Telling) (D : Parting σ) (f f' : Carrier σ) (c : Connector σ) : Pairing σ where
  Holds := Outcome.Near E D f f' c
  Both := Replays (c.carrying f)
  still hlogs hstate := Replays.still (calls_of_unlogged hlogs) hstate
  same := same
  bind := bind
  ensuring := ensuring
  outside := outside
  reporting := reporting

end Outcome.Near

variable {g : Settings} {x : Session} {s : σ}

namespace Backup

theorem checked_near (purpose : Purpose) (command : String) (h : Answers E D f f' x command s) :
    Outcome.Near E D f f' c id s (checked (c.carrying f) x purpose command s)
      (checked (c.carrying f') x purpose command s) := by
  refine .of_call h rfl (calls_checked purpose command s) (calls_checked purpose command s) ?_ ?_
  · intro e s₁ hf
    rw [checked_error (c := c.carrying f) hf]
  · intro r r' s₁ hf hf' hr
    by_cases hz : r.exitCode = 0
    · have hz' : r'.exitCode = 0 := hr.exitCode.trans hz
      rw [checked_zero (c := c.carrying f) hf hz, checked_zero (c := c.carrying f') hf' hz']
      exact ⟨.same _, rfl, rfl⟩
    · have hz' : r'.exitCode ≠ 0 := hr.exitCode ▸ hz
      rw [checked_nonzero (c := c.carrying f) hf hz, checked_nonzero (c := c.carrying f') hf' hz',
        hr.exitCode]
      exact ⟨.failed hr.stderr, rfl, rfl⟩

theorem isPresent_near (path : String) (h : Answers E D f f' x (listCommand path) s) :
    Outcome.Near E D f f' c id s (isPresent (c.carrying f) x path s)
      (isPresent (c.carrying f') x path s) := by
  refine .of_call h rfl (calls_isPresent path s) (calls_isPresent path s) ?_ ?_
  · intro e s₁ hf
    rw [isPresent_error (c := c.carrying f) hf]
  · intro r r' s₁ hf hf' hr
    obtain ⟨record, ho⟩ := isPresent_ok (c := c.carrying f) hf
    obtain ⟨record', ho'⟩ := isPresent_ok (c := c.carrying f') hf'
    rw [ho, ho', hr.stdout]
    exact ⟨.same _, rfl, rfl⟩

theorem archiver_near (h : Answers E D f f' x archiverCommand s) :
    Outcome.Near E D f f' c id s (archiver (c.carrying f) x s) (archiver (c.carrying f') x s) := by
  refine .of_call h rfl (calls_archiver s) (calls_archiver s) ?_ ?_
  · intro e s₁ hf
    rw [archiver_error (c := c.carrying f) hf]
  · intro r r' s₁ hf hf' hr
    by_cases hz : firstLine r.stdout = ""
    · have hz' : firstLine r'.stdout = "" := by rw [hr.stdout, hz]
      rw [archiver_missing (c := c.carrying f) hf hz, archiver_missing (c := c.carrying f') hf' hz']
      exact ⟨.same _, rfl, rfl⟩
    · have hz' : firstLine r'.stdout ≠ "" := by rwa [hr.stdout]
      obtain ⟨record, ho⟩ := archiver_found (c := c.carrying f) hf hz
      obtain ⟨record', ho'⟩ := archiver_found (c := c.carrying f') hf' hz'
      rw [ho, ho', hr.stdout]
      exact ⟨.same _, rfl, rfl⟩

end Backup

namespace Engine

theorem raw_near (target : Target) (command : String) {v : Serving σ}
    (h : Answers E D f f' x command v.outside) :
    Outcome.Near E D f f' c Serving.outside v (dispatch (c.carrying f) g x target (.raw command) v)
      (dispatch (c.carrying f') g x target (.raw command) v) := by
  refine .of_call h rfl (calls_raw g target command v) (calls_raw g target command v) ?_ ?_
  · intro e s₁ hf
    rw [dispatch_raw_error (c := c.carrying f) hf]
  · intro r r' s₁ hf hf' hr
    rw [dispatch_raw_ok (c := c.carrying f) hf, dispatch_raw_ok (c := c.carrying f') hf', hr.exitCode]
    refine ⟨?_, rfl, rfl⟩
    split
    · exact .same _
    · exact .failed hr.stderr

/-- Steps that run no command are the same, and those that run one are near or part. -/
theorem atCalls_near (h : ∀ x command s, Answers E D f f' x command s) (c : Connector σ)
    (g : Settings) :
    (Outcome.Near.pairing E D f f' c).AtCalls (c.carrying f) (c.carrying f') g g where
  fallback := rfl
  day _ := rfl
  closing _ := rfl
  close x r s := Replays.closing x r s
  connect target s := .same (Replays.connecting target s)
  raw x target command v := raw_near target command (h x command v.outside)
  upload target source destination s := .same (Replays.uploadFile g target source destination s)
  choose _ _ := .both fun _ => Replays.still rfl rfl
  presence x path s := Backup.isPresent_near path (h x _ s)
  archiver x s := Backup.archiver_near (h x _ s)
  backup x command s := Backup.checked_near .backup command (h x command s)
  showConnected _ := .both fun _ => Replays.still (calls_prints _) rfl
  showCommand _ _ := .both fun _ => Replays.still (calls_prints _) rfl
  showBackup _ := .both fun _ => Replays.still (calls_prints _) rfl

/-- **A task with its commands carried in two ways** goes alike, or up to where the ways part. -/
theorem execute_near (h : ∀ x command s, Answers E D f f' x command s) (c : Connector σ)
    (g : Settings) (t : Task) (s : σ) :
    Outcome.Near E D f f' c id s (execute (c.carrying f) g t s) (execute (c.carrying f') g t s) :=
  execute_paired (atCalls_near h c g) t s

end Engine

end Rollout
