import Mathlib.Data.List.Forall2
import Mathlib.Tactic.Tauto

/-!
# The first fault of a list

Where the elements of a list are dealt with one after another, up to the first that fails, the failure
is that of the first element at fault.

* `first_append`, `first_map` and `first_flatMap`: where the first fault of a list made of others is.
* `not_first_iff`: there is none exactly if no element is at fault.
* `mapM_error` and `mapM_ok`: what is answered for a list, in terms of the answers for its elements.
-/

namespace Rollout

/-- The first fault of a list, where an element may be at fault in some way. -/
def First {ι ε : Type} (Faulty : ι → ε → Prop) (l : List ι) (e : ε) : Prop :=
  ∃ before a after, l = before ++ a :: after ∧ (∀ b ∈ before, ∀ e', ¬Faulty b e') ∧ Faulty a e

variable {ι κ ε : Type} {P : ι → ε → Prop} {a : ι} {l l' : List ι} {e : ε}

@[simp] theorem first_nil : ¬First P [] e := by
  rintro ⟨before, a, after, h, -⟩
  simp at h

@[simp] theorem first_cons :
    First P (a :: l) e ↔ P a e ∨ (∀ e', ¬P a e') ∧ First P l e := by
  constructor
  · rintro ⟨_ | ⟨b, before⟩, a', after, h, hb, ha⟩
    · obtain ⟨rfl, rfl⟩ := List.cons.inj h
      exact .inl ha
    · obtain ⟨rfl, rfl⟩ := List.cons.inj h
      exact .inr ⟨hb _ (by simp), before, a', after, rfl, fun b hm => hb b (by simp [hm]), ha⟩
  · rintro (ha | ⟨hna, before, a', after, rfl, hb, ha⟩)
    · exact ⟨[], a, l, rfl, by simp, ha⟩
    · exact ⟨a :: before, a', after, rfl, by simpa using ⟨hna, hb⟩, ha⟩

/-- A list has no first fault exactly if nothing in it is at fault. -/
theorem not_first_iff : (∀ e, ¬First P l e) ↔ ∀ a ∈ l, ∀ e, ¬P a e := by
  induction l with
  | nil => simp
  | cons a l ih =>
    simp only [first_cons, List.mem_cons, forall_eq_or_imp, ← ih]
    constructor
    · intro h
      have ha : ∀ e, ¬P a e := fun e hp => h e (.inl hp)
      exact ⟨ha, fun e hl => h e (.inr ⟨ha, hl⟩)⟩
    · rintro ⟨ha, hl⟩ e (hp | ⟨-, hf⟩)
      · exact ha e hp
      · exact hl e hf

theorem first_append :
    First P (l ++ l') e ↔ First P l e ∨ (∀ a ∈ l, ∀ e, ¬P a e) ∧ First P l' e := by
  induction l with
  | nil => simp
  | cons a l ih =>
    simp only [List.cons_append, first_cons, ih, List.mem_cons, forall_eq_or_imp]
    tauto

theorem first_map {f : κ → ι} {k : List κ} :
    First P (k.map f) e ↔ First (fun b => P (f b)) k e := by
  induction k with
  | nil => simp
  | cons b k ih => simp [ih]

theorem first_flatMap {f : κ → List ι} {k : List κ} :
    First P (k.flatMap f) e ↔ First (fun b => First P (f b)) k e := by
  induction k with
  | nil => simp
  | cons b k ih => simp [first_append, ih, not_first_iff]

theorem first_congr {Q : ι → ε → Prop} (h : ∀ a ∈ l, ∀ e, P a e ↔ Q a e) :
    First P l e ↔ First Q l e := by
  induction l with
  | nil => simp
  | cons a l ih =>
    simp only [List.mem_cons, forall_eq_or_imp] at h
    rw [first_cons, first_cons, ih h.2]
    simp [h.1]

/-- The first fault, told in another way. -/
theorem first_told {ε' : Type} {f : ε → ε'} {e' : ε'} :
    First (fun a e' => ∃ e, P a e ∧ e' = f e) l e' ↔ ∃ e, First P l e ∧ e' = f e := by
  induction l with
  | nil => simp
  | cons a l ih =>
    simp only [first_cons, ih]
    constructor
    · rintro (⟨e, he, rfl⟩ | ⟨hn, e, he, rfl⟩)
      · exact ⟨e, .inl he, rfl⟩
      · exact ⟨e, .inr ⟨fun e' h => hn _ ⟨e', h, rfl⟩, he⟩, rfl⟩
    · rintro ⟨e, he | ⟨hn, he⟩, rfl⟩
      · exact .inl ⟨e, he, rfl⟩
      · exact .inr ⟨fun _ ⟨e', h, _⟩ => hn e' h, e, he, rfl⟩

variable {β : Type} {f : ι → Except ε β}

theorem Except.not_error_iff {x : Except ε β} : (∀ e, x ≠ .error e) ↔ ∃ r, x = .ok r := by
  cases x <;> simp

theorem mapM_error : l.mapM f = .error e ↔ First (fun a e => f a = .error e) l e := by
  induction l with
  | nil => simp [Pure.pure, Except.pure]
  | cons a l ih =>
    rw [List.mapM_cons, first_cons, ← ih]
    cases ha : f a with
    | error e' => simp [Bind.bind, Except.bind]
    | ok r => cases hl : l.mapM f <;> simp [Bind.bind, Except.bind, Pure.pure, Except.pure]

theorem mapM_ok {rs : List β} :
    l.mapM f = .ok rs ↔ List.Forall₂ (fun a r => f a = .ok r) l rs := by
  induction l generalizing rs with
  | nil => cases rs <;> simp [Pure.pure, Except.pure]
  | cons a l ih =>
    rw [List.mapM_cons, List.forall₂_cons_left_iff]
    simp only [← ih]
    cases ha : f a with
    | error e' => simp [Bind.bind, Except.bind]
    | ok r =>
      cases hl : l.mapM f <;> simp [Bind.bind, Except.bind, Pure.pure, Except.pure, eq_comm]

theorem mapError_ok {ε' : Type} {g : ε → ε'} {x : Except ε β} {r : β} :
    x.mapError g = .ok r ↔ x = .ok r := by
  cases x <;> simp [Except.mapError]

theorem mapError_error {ε' : Type} {g : ε → ε'} {x : Except ε β} {e' : ε'} :
    x.mapError g = .error e' ↔ ∃ e, x = .error e ∧ e' = g e := by
  cases x <;> simp [Except.mapError, eq_comm]

end Rollout
