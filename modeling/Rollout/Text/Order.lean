/-!
# The order of texts

Texts are ordered by their first difference, by the code points there; a text comes before all that
begin with it. This is also the order of their bytes.

* `inOrder_trans`, `inOrder_total` and `inOrder_antisymm`: this is a linear order.
-/

namespace Rollout.Text

/-- Whether a text comes no later than another one. -/
def inOrder : List Char → List Char → Bool
  | [], _ => true
  | _ :: _, [] => false
  | c :: s, d :: t => c.toNat < d.toNat || (c == d && inOrder s t)

theorem inOrder_total (s t : List Char) : (inOrder s t || inOrder t s) = true := by
  induction s generalizing t with
  | nil => simp [inOrder]
  | cons c s ih =>
    cases t with
    | nil => simp [inOrder]
    | cons d t =>
      have h := ih t
      by_cases hcd : c = d
      · subst hcd
        simpa [inOrder] using h
      · have hne : c.toNat ≠ d.toNat := fun e => hcd (Char.toNat_inj.1 e)
        have hlt : c.toNat < d.toNat ∨ d.toNat < c.toNat := by omega
        rcases hlt with hlt | hlt <;> simp [inOrder, hlt]

theorem inOrder_trans {s t u : List Char} (h : inOrder s t = true) (g : inOrder t u = true) :
    inOrder s u = true := by
  induction s generalizing t u with
  | nil => simp [inOrder]
  | cons c s ih =>
    cases t with
    | nil => simp [inOrder] at h
    | cons d t =>
      cases u with
      | nil => simp [inOrder] at g
      | cons e u =>
        simp only [inOrder, Bool.or_eq_true, decide_eq_true_eq, Bool.and_eq_true, beq_iff_eq] at h g ⊢
        rcases h with h | ⟨rfl, h⟩
        · rcases g with g | ⟨rfl, g⟩
          · exact Or.inl (by omega)
          · exact Or.inl h
        · rcases g with g | ⟨rfl, g⟩
          · exact Or.inl g
          · exact Or.inr ⟨rfl, ih h g⟩

theorem inOrder_antisymm {s t : List Char} (h : inOrder s t = true) (g : inOrder t s = true) :
    s = t := by
  induction s generalizing t with
  | nil => cases t with
    | nil => rfl
    | cons d t => simp [inOrder] at g
  | cons c s ih =>
    cases t with
    | nil => simp [inOrder] at h
    | cons d t =>
      simp only [inOrder, Bool.or_eq_true, decide_eq_true_eq, Bool.and_eq_true, beq_iff_eq] at h g
      rcases h with h | ⟨rfl, h⟩
      · rcases g with g | ⟨rfl, g⟩
        · omega
        · omega
      · rcases g with g | ⟨-, g⟩
        · omega
        · rw [ih h g]

end Rollout.Text
