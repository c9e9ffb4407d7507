import Rollout.Compile

/-!
# The order in which packages are run

A server's schedule is the one arrangement of its enabled packages in which the order ascends, and
packages of the same order stand as they were declared.

* `Server.schedule_filter`: sorting leaves the packages of one order where they are to each other.
* `Server.runOrder_iff`: the schedule is in the order of a run, and nothing else is.
-/

namespace Rollout.Server

/-- The enabled packages of a server, each with its place in the declaration. -/
def enabled (s : Server) : List (Package × Nat) := s.packages.zipIdx.filter (·.1.enable)

/-- Whether a package is run before another one: by its order, and by its place where orders are
equal. -/
def Earlier (p q : Package × Nat) : Prop :=
  p.1.order < q.1.order ∨ p.1.order = q.1.order ∧ p.2 < q.2

/-- An arrangement of the enabled packages in which each is run before those that follow it. -/
def RunOrder (s : Server) (l : List (Package × Nat)) : Prop :=
  l.Perm s.enabled ∧ l.Pairwise Earlier

variable {s : Server} {p q : Package × Nat}

theorem mem_enabled {place : Nat} {package : Package} :
    (package, place) ∈ s.enabled ↔ s.packages[place]? = some package ∧ package.enable = true := by
  simp [enabled, List.mem_zipIdx_iff_getElem?]

theorem earlier_asymm (h : Earlier p q) (h' : Earlier q p) : False := by
  unfold Earlier at h h'
  rcases h with h | ⟨h, hp⟩ <;> rcases h' with h' | ⟨h', hq⟩
  · exact Int64.lt_irrefl (Int64.lt_trans h h')
  · rw [h'] at h; exact Int64.lt_irrefl h
  · rw [h] at h'; exact Int64.lt_irrefl h'
  · omega

theorem zipIdx_pairwise {α : Type} (l : List α) : ∀ n : Nat,
    (l.zipIdx n).Pairwise fun a b => a.2 < b.2 := by
  induction l with
  | nil => intro n; exact .nil
  | cons a l ih =>
    intro n
    rw [List.zipIdx_cons, List.pairwise_cons]
    exact ⟨fun b hb => List.le_snd_of_mem_zipIdx hb, ih (n + 1)⟩

theorem enabled_pairwise (s : Server) : s.enabled.Pairwise fun a b => a.2 < b.2 :=
  (zipIdx_pairwise s.packages 0).filter _

/-! ## The schedule is sorted, and stable -/

theorem order_trans (a b c : Package × Nat) :
    decide (a.1.order ≤ b.1.order) → decide (b.1.order ≤ c.1.order) →
      decide (a.1.order ≤ c.1.order) := by
  simp only [decide_eq_true_eq]
  exact Int64.le_trans

theorem order_total (a b : Package × Nat) :
    decide (a.1.order ≤ b.1.order) || decide (b.1.order ≤ a.1.order) := by
  simpa using Int64.le_total a.1.order b.1.order

theorem schedule_perm (s : Server) : s.schedule.Perm s.enabled := List.mergeSort_perm _ _

theorem schedule_pairwise (s : Server) :
    s.schedule.Pairwise fun a b => a.1.order ≤ b.1.order :=
  (List.pairwise_mergeSort order_trans order_total s.enabled).imp of_decide_eq_true

/-- Packages of the same order stay as they were declared. -/
theorem schedule_filter (s : Server) (n : Int64) :
    s.schedule.filter (·.1.order = n) = s.enabled.filter (·.1.order = n) := by
  have hsame : (s.enabled.filter (·.1.order = n)).Pairwise
      fun a b => decide (a.1.order ≤ b.1.order) := by
    rw [List.pairwise_filter]
    exact List.pairwise_of_forall fun a b ha hb => by simp_all
  -- Already in order, they are all in the schedule one after another; there are no more of them.
  have hsub := (List.sublist_mergeSort order_trans order_total hsame List.filter_sublist).filter
    (·.1.order = n)
  simp only [List.filter_filter, Bool.and_self] at hsub
  exact (hsub.eq_of_length ((schedule_perm s).filter _).length_eq.symm).symm

theorem schedule_earlier (s : Server) : s.schedule.Pairwise Earlier := by
  rw [List.pairwise_iff_forall_sublist]
  intro a b hab
  have hle : a.1.order ≤ b.1.order := List.pairwise_iff_forall_sublist.1 (schedule_pairwise s) hab
  by_cases heq : a.1.order = b.1.order
  · have hsub : [a, b].Sublist (s.enabled.filter (·.1.order = b.1.order)) := by
      have := hab.filter (·.1.order = b.1.order)
      rw [schedule_filter] at this
      simpa [heq] using this
    exact .inr ⟨heq, List.pairwise_iff_forall_sublist.1 (enabled_pairwise s)
      (hsub.trans List.filter_sublist)⟩
  · exact .inl (Int64.lt_of_le_of_ne hle heq)

theorem exists_mem_schedule {package : Package} :
    (∃ place, (package, place) ∈ s.schedule) ↔ package ∈ s.packages ∧ package.enable = true := by
  simp only [(schedule_perm s).mem_iff, mem_enabled, exists_and_right]
  rw [List.mem_iff_getElem?]

/-- **The schedule of a server is its packages in the order of a run**, and nothing else is. -/
theorem runOrder_iff {l : List (Package × Nat)} : s.RunOrder l ↔ l = s.schedule := by
  constructor
  · rintro ⟨hp, hl⟩
    exact (hp.trans (schedule_perm s).symm).eq_of_pairwise
      (fun a b _ _ h h' => (earlier_asymm h h').elim) hl (schedule_earlier s)
  · rintro rfl
    exact ⟨schedule_perm s, schedule_earlier s⟩

end Rollout.Server
