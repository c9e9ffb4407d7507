import Mathlib.Data.Nat.Digits.Defs
import Mathlib.Tactic.Ring
import Rollout.Text.Digit

/-!
# What digits denote

* `Text.nat?_eq_some_iff`: reading digits gives the number that they denote in base ten, and gives
  none exactly where nothing is denoted.
-/

namespace Rollout.Text

/-- Whether a text is a number in decimal, in ASCII digits. -/
def Denotes (digits : List Char) (n : Nat) : Prop :=
  digits ≠ [] ∧ (∀ ch ∈ digits, isAsciiDigit ch = true) ∧
    n = Nat.ofDigits 10 (digits.reverse.map fun ch => ch.toNat - '0'.toNat)

theorem natOfDigitsFrom_eq (digits : List Char) : ∀ n : Nat,
    natOfDigitsFrom n digits =
      n * 10 ^ digits.length +
        Nat.ofDigits 10 (digits.reverse.map fun ch => ch.toNat - '0'.toNat) := by
  induction digits with
  | nil => intro n; rw [show natOfDigitsFrom n [] = n from rfl]; simp
  | cons ch digits ih =>
    intro n
    have h : natOfDigitsFrom n (ch :: digits) =
        natOfDigitsFrom (10 * n + (ch.toNat - '0'.toNat)) digits := rfl
    rw [h, ih]
    simp only [List.reverse_cons, List.map_append, Nat.ofDigits_append, List.length_map,
      List.length_reverse, List.length_cons, List.map_cons, List.map_nil, Nat.ofDigits_singleton]
    ring

theorem nat?_eq_some_iff {digits : List Char} {n : Nat} :
    nat? digits = some n ↔ Denotes digits n := by
  unfold nat? Denotes natOfDigits
  rw [natOfDigitsFrom_eq]
  by_cases h : digits ≠ [] ∧ digits.all isAsciiDigit
  · rw [if_pos h]
    rw [List.all_eq_true] at h
    constructor
    · intro hn
      refine ⟨h.1, h.2, ?_⟩
      rw [← Option.some.inj hn, Nat.zero_mul, Nat.zero_add]
    · rintro ⟨-, -, rfl⟩
      rw [Nat.zero_mul, Nat.zero_add]
  · rw [if_neg h]
    rw [List.all_eq_true] at h
    constructor
    · intro hn
      cases hn
    · rintro ⟨h₁, h₂, _⟩
      exact (h ⟨h₁, h₂⟩).elim

theorem nat?_eq_none_iff {digits : List Char} : nat? digits = none ↔ ∀ n, ¬Denotes digits n := by
  simp [← nat?_eq_some_iff, Option.eq_none_iff_forall_ne_some]

theorem Denotes.unique {digits : List Char} {m n : Nat} (hm : Denotes digits m)
    (hn : Denotes digits n) : n = m := by
  rw [← nat?_eq_some_iff] at hm hn
  exact Option.some.inj (hn.symm.trans hm)

end Rollout.Text
