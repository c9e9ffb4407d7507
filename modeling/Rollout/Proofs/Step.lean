import Rollout.Step

/-!
# Laws of steps

A step followed by another one either goes on from the state that the first one left, with the trace
of both, or is over with the failure of the first.

* `bind_ok`, `bind_error`: what a sequence does, once it is known what its first step does.
* `Step` is a lawful monad, so that sequences can be regrouped.
* `calls` and `unlogged` are what is looked at in a trace: the calls on sessions alone, or all of it
  but the log.
-/

namespace Rollout

/-- An outcome with what happened before it. -/
def Outcome.after {σ α : Type} (before : List Event) (o : Outcome σ α) : Outcome σ α :=
  { o with trace := before ++ o.trace }

/-- The error that a step failed with, if it did. -/
def Outcome.failure? {σ α : Type} (o : Outcome σ α) : Option DeployError :=
  match o.result with
  | .error e => some e
  | .ok _ => none

namespace Step

variable {σ α β : Type} {s s' : σ} {l : List Event}

theorem bind_ok {x : Step σ α} {f : α → Step σ β} {a : α} (h : x s = ⟨.ok a, s', l⟩) :
    (x >>= f) s = (f a s').after l := by
  show Step.bind x f s = _
  simp only [Step.bind, h, Outcome.after]

theorem bind_error {x : Step σ α} {f : α → Step σ β} {e : DeployError}
    (h : x s = ⟨.error e, s', l⟩) : (x >>= f) s = ⟨.error e, s', l⟩ := by
  show Step.bind x f s = _
  simp only [Step.bind, h]

/-- A step with its answer changed. -/
theorem bind_pure_eq (x : Step σ α) (f : α → β) :
    (x >>= fun a => Pure.pure (f a)) s = ⟨(x s).result.map f, (x s).state, (x s).trace⟩ := by
  rcases h : x s with ⟨e | a, s', l⟩
  · rw [bind_error h]; rfl
  · rw [bind_ok h]; simp [Outcome.after, Pure.pure, Step.pure, Except.map]

theorem ensuring_eq {x : Step σ α} {last : Step σ Unit} {r : Except DeployError α}
    (h : x s = ⟨r, s', l⟩) :
    x.ensuring last s = ⟨r, (last s').state, l ++ (last s').trace⟩ := by
  simp only [Step.ensuring, h]

theorem call_eq {reply : σ → Except DeployError α × σ} {event : Except DeployError α → Event}
    {r : Except DeployError α} (h : reply s = (r, s')) :
    Step.call reply event s = ⟨r, s', [event r]⟩ := by
  simp only [Step.call, h]

theorem log_eq (r : LogRecord) : (Step.log r : Step σ Unit) s = ⟨.ok (), s, [.log r]⟩ := rfl

theorem logAll_eq (rs : List LogRecord) :
    (Step.logAll rs : Step σ Unit) s = ⟨.ok (), s, rs.map .log⟩ := rfl

theorem print_eq (ls : List Line) : (Step.print ls : Step σ Unit) s = ⟨.ok (), s, ls.map .print⟩ :=
  rfl

theorem emit_eq (e : Event) : (Step.emit e : Step σ Unit) s = ⟨.ok (), s, [e]⟩ := rfl

theorem get_eq : (Step.get : Step σ σ) s = ⟨.ok s, s, []⟩ := rfl

theorem modify_eq (f : σ → σ) : Step.modify f s = ⟨.ok (), f s, []⟩ := rfl

theorem ofExcept_eq (r : Except DeployError α) : (Step.ofExcept r : Step σ α) s = ⟨r, s, []⟩ := by
  cases r <;> rfl

theorem fail_eq (e : DeployError) : (Step.fail e : Step σ α) s = ⟨.error e, s, []⟩ := rfl

theorem pure_eq (a : α) : (Pure.pure a : Step σ α) s = ⟨.ok a, s, []⟩ := rfl

theorem id_map (x : Step σ α) : id <$> x = x := by
  funext s
  show Step.bind x _ s = _
  simp only [Step.bind]
  rcases x s with ⟨_ | _, _, _⟩ <;> simp [Step.pure, Function.comp]

theorem pure_bind (a : α) (f : α → Step σ β) : Pure.pure a >>= f = f a := by
  funext s
  rw [bind_ok (s := s) (l := []) rfl]; rfl

theorem bind_assoc {γ : Type} (x : Step σ α) (f : α → Step σ β) (g : β → Step σ γ) :
    x >>= f >>= g = x >>= fun a => f a >>= g := by
  funext s
  rcases hx : x s with ⟨e | a, s', l⟩
  · rw [bind_error (bind_error hx), bind_error hx]
  rw [bind_ok hx]
  rcases hf : f a s' with ⟨e | b, s'', l'⟩
  · have h : (x >>= f) s = ⟨.error e, s'', l ++ l'⟩ := by rw [bind_ok hx, hf]; rfl
    rw [bind_error h, bind_error hf]; rfl
  · have h : (x >>= f) s = ⟨.ok b, s'', l ++ l'⟩ := by rw [bind_ok hx, hf]; rfl
    rw [bind_ok h, bind_ok hf]; simp [Outcome.after]

instance : LawfulMonad (Step σ) := LawfulMonad.mk' (Step σ) id_map pure_bind bind_assoc

end Step

/-! ## What is looked at in a trace -/

/-- Whether an event is a call that opens, uses or closes a session. -/
def Event.isCall : Event → Bool
  | .connect .. | .exec .. | .close _ | .openTransfer .. | .upload .. | .closeTransfer _ => true
  | _ => false

/-- Whether an event is a record for the log. -/
def Event.isLog : Event → Bool
  | .log _ => true
  | _ => false

/-- The calls among events. -/
def calls (l : List Event) : List Event := l.filter Event.isCall

/-- All events but the log. -/
def unlogged (l : List Event) : List Event := l.filter fun e => !e.isLog

@[simp] theorem calls_nil : calls [] = [] := rfl

@[simp] theorem calls_cons (a : Event) (l : List Event) :
    calls (a :: l) = if a.isCall then a :: calls l else calls l :=
  List.filter_cons

@[simp] theorem calls_append (l₁ l₂ : List Event) : calls (l₁ ++ l₂) = calls l₁ ++ calls l₂ := by
  simp [calls]

@[simp] theorem calls_prints (ls : List Line) : calls (ls.map .print) = [] := by
  simp [calls, Event.isCall]

@[simp] theorem calls_logs (rs : List LogRecord) : calls (rs.map .log) = [] := by
  simp [calls, Event.isCall]

@[simp] theorem unlogged_nil : unlogged [] = [] := rfl

@[simp] theorem unlogged_cons (a : Event) (l : List Event) :
    unlogged (a :: l) = if a.isLog then unlogged l else a :: unlogged l := by
  cases h : a.isLog <;> simp [unlogged, h]

@[simp] theorem unlogged_append (l₁ l₂ : List Event) :
    unlogged (l₁ ++ l₂) = unlogged l₁ ++ unlogged l₂ := by
  simp [unlogged]

/-- Where there is nothing but the log, there are no calls. -/
theorem calls_of_unlogged {l : List Event} (h : unlogged l = []) : calls l = [] := by
  apply List.filter_eq_nil_iff.2
  intro e he hcall
  have hlog : e.isLog = true := by simpa using List.filter_eq_nil_iff.1 h e he
  cases e with
  | log record => cases hcall
  | _ => cases hlog

@[simp] theorem unlogged_prints (ls : List Line) : unlogged (ls.map .print) = ls.map .print := by
  simp [unlogged, Event.isLog]

@[simp] theorem unlogged_logs (rs : List LogRecord) : unlogged (rs.map .log) = [] := by
  simp [unlogged, Event.isLog]

end Rollout
