import Mathlib.Logic.Function.Basic
import Rollout.Local
import Rollout.Proofs.Places

/-!
# What a local copy does

A copy that succeeds leaves in its target what was in its source, cut into chunks and put together
again; all else stays as it was. There is one exception: in a file that is its own target nothing is
left.

* `Copy.flatten_chunks`: the chunks of a content are the content.
* `Copy.deliver_ok`, `Copy.deliver_all`: what comes of writing chunks, and when all of them are written.
* `Tree.appendAll_file`: chunks that are added to a file, one after another.
* `Local.Carries` is what a copy makes of a tree; `Local.copy_ok`, `Local.copy_carries`: a copy does
  so if it succeeds, which it does if its destination leads to a place for a file, and nothing is
  refused.
-/

namespace Rollout

/-! ## Chunks -/

namespace Copy

theorem flatten_chunksOf (size fuel : Nat) :
    ∀ s : List UInt8, s.length ≤ fuel * size → (chunksOf size fuel s).flatten = s := by
  induction fuel with
  | zero =>
    intro s hs
    have hnil : s = [] := List.eq_nil_of_length_eq_zero (by omega)
    rw [hnil]
    rfl
  | succ fuel ih =>
    intro s hs
    unfold chunksOf
    split
    · rename_i hnil
      rw [hnil]
      rfl
    · have hdrop : (s.drop size).length ≤ fuel * size := by
        rw [Nat.succ_mul] at hs
        rw [List.length_drop]
        omega
      rw [List.flatten_cons, ih _ hdrop, List.take_append_drop]

/-- **No byte is lost between chunks.** -/
theorem flatten_chunks (s : List UInt8) : (chunks s).flatten = s := by
  have hle : s.length ≤ (s.length / chunkSize + 1) * chunkSize := by
    have hmod : s.length % chunkSize < chunkSize := Nat.mod_lt _ (by decide)
    have hdiv := Nat.div_add_mod' s.length chunkSize
    rw [Nat.succ_mul]
    omega
  exact flatten_chunksOf chunkSize _ s hle

/-- What is copied is there, and may be opened and measured. -/
theorem openSource_ok_iff {t : Tree} {source : String} {l : Location} {n : Node} :
    openSource t source = .ok (l, n) ↔ t.get true source.toList = .ok (l, n) ∧
      t.refusal? l .read = none ∧ t.refusal? l .measure = none := by
  rw [← and_assoc, ← Tree.openFile_ok_iff]
  unfold openSource
  rcases t.openFile source.toList with f | ⟨l', n'⟩
  · simp
  · rcases hmeasure : t.refusal? l' .measure with _ | f
    · simp only [hmeasure, Except.ok.injEq, Prod.mk.injEq]
      constructor
      · rintro ⟨rfl, rfl⟩
        exact ⟨⟨rfl, rfl⟩, hmeasure⟩
      · exact And.left
    · simp only [hmeasure, Except.ok.injEq, Prod.mk.injEq]
      constructor
      · nofun
      · rintro ⟨⟨rfl, rfl⟩, hnone⟩
        rw [hmeasure] at hnone
        cases hnone

variable {σ ε : Type}

theorem followed_of_none {o : Outcome σ ε} (h : o.failure = none) (last : σ → Option ε × σ) :
    o.followed last = { o with state := (last o.state).2, failure := (last o.state).1 } := by
  unfold Outcome.followed
  rw [h]

theorem followed_of_some {o : Outcome σ ε} {e : ε} (h : o.failure = some e)
    (last : σ → Option ε × σ) : o.followed last = o := by
  unfold Outcome.followed
  rw [h]

/-- What did not fail with what was done last had not failed before. -/
theorem followed_ok {o : Outcome σ ε} {last : σ → Option ε × σ}
    (h : (o.followed last).failure = none) :
    o.failure = none ∧ last o.state = (none, (o.followed last).state) := by
  rcases hfailure : o.failure with _ | e
  · rw [followed_of_none hfailure] at h ⊢
    exact ⟨rfl, Prod.ext h rfl⟩
  · rw [followed_of_some hfailure, hfailure] at h
    cases h

section

variable {write : List UInt8 → σ → Option ε × σ} {f : List UInt8 → σ → σ}

/-- If no write failed, each has done what a write does that does not fail. -/
theorem deliver_ok (hwrite : ∀ c s s', write c s = (none, s') → s' = f c s) (total : Nat)
    (chunks : List (List UInt8)) :
    ∀ (sent : Nat) (s : σ), (deliver write total sent chunks s).failure = none →
      (deliver write total sent chunks s).state = chunks.foldl (fun s c => f c s) s := by
  induction chunks with
  | nil => exact fun _ _ _ => rfl
  | cons c chunks ih =>
    intro sent s h
    unfold deliver at h ⊢
    rcases hc : write c s with ⟨_ | e, s₁⟩
    · rw [hc] at h
      rw [List.foldl_cons, ← hwrite c s s₁ hc]
      exact ih (sent + c.length) s₁ h
    · rw [hc] at h
      cases h

/-- Chunks are all written if no write fails. -/
theorem deliver_all {p : σ → Prop} (hwrite : ∀ c s, p s → write c s = (none, f c s))
    (hkeep : ∀ c s, p s → p (f c s)) (total : Nat) (chunks : List (List UInt8)) :
    ∀ (sent : Nat) (s : σ), p s → (deliver write total sent chunks s).failure = none := by
  induction chunks with
  | nil => exact fun _ _ _ => rfl
  | cons c chunks ih =>
    intro sent s hs
    unfold deliver
    rw [hwrite c s hs]
    exact ih (sent + c.length) (f c s) (hkeep c s hs)

end

end Copy

/-! ## Adding to a file -/

namespace Tree

variable {t t' : Tree} {l : Location} {p : List Char} {b : List UInt8} {w : Moment}

theorem append_file (h : t.node? l = some (.file b w)) (bytes : List UInt8) :
    t.append l bytes = t.putFile l (b ++ bytes) := by
  unfold append
  rw [h]

theorem append_null (h : t.node? l = some .null) (bytes : List UInt8) : t.append l bytes = t := by
  unfold append
  rw [h]

/-- What is to be written, added chunk by chunk. -/
def appendAll (t : Tree) (l : Location) (chunks : List (List UInt8)) : Tree :=
  chunks.foldl (fun t c => t.append l c) t

theorem appendAll_null (h : t.node? l = some .null) (chunks : List (List UInt8)) :
    t.appendAll l chunks = t := by
  induction chunks with
  | nil => rfl
  | cons c chunks ih =>
    unfold appendAll at ih ⊢
    rw [List.foldl_cons, append_null h]
    exact ih

theorem sameRules_append (l : Location) (bytes : List UInt8) : SameRules t (t.append l bytes) := by
  unfold append
  split
  · exact sameRules_putFile l _
  · exact .refl t

/-- **Chunks that are added to a file** follow what was in it, and change nothing else. -/
theorem appendAll_file (hl : l ≠ []) (chunks : List (List UInt8)) :
    ∀ {t : Tree} {b : List UInt8} {w : Moment}, t.node? l = some (.file b w) →
      SameRules t (t.appendAll l chunks) ∧
      (∀ m, m ≠ l → (t.appendAll l chunks).node? m = t.node? m) ∧
      ∃ w', (t.appendAll l chunks).node? l = some (.file (b ++ chunks.flatten) w') := by
  induction chunks with
  | nil =>
    intro t b w h
    refine ⟨.refl t, fun _ _ => rfl, w, ?_⟩
    rw [List.flatten_nil, List.append_nil]
    exact h
  | cons c chunks ih =>
    intro t b w h
    have hc : (t.append l c).node? l = some (.file (b ++ c) (.now t.clock)) := by
      rw [append_file h, node?_putFile hl, if_pos rfl]
    obtain ⟨hrules, hothers, w', hw'⟩ := ih hc
    refine ⟨(sameRules_append l c).trans hrules, ?_, w', ?_⟩
    · intro m hm
      refine (hothers m hm).trans ?_
      rw [append_file h, node?_putFile hl, if_neg hm]
    · rw [List.flatten_cons, ← List.append_assoc]
      exact hw'

theorem target_node (h : t.target p = .ok l) : IsFree (t.node? l) ∨ t.node? l = some .null := by
  rcases target_cases h with ⟨b, w, -, hl⟩ | ⟨-, hl⟩ | hl
  · left
    rw [hl]
    trivial
  · exact .inr hl
  · left
    rw [hl]
    trivial

end Tree

/-! ## Copies -/

namespace Local

open Rollout.Tree

variable {t t' : Tree} {p l : Location} {b : List UInt8} {w : Moment}

/-- What a copy from `p`, where the bytes `b` are, to `l` makes of a tree. The file that is always
empty stays as it is. -/
structure Carries (b : List UInt8) (p l : Location) (t t' : Tree) : Prop extends SameRules t t' where
  others : ∀ m, m ≠ l → t'.node? m = t.node? m
  free : IsFree (t.node? l) ∨ t.node? l = some .null
  null : t.node? l = some .null → t'.node? l = some .null
  file : t.node? l ≠ some .null → ∃ w, t'.node? l = some (.file (if l = p then [] else b) w)

theorem Carries.grown (h : Carries b p l t t') : Grown t t' := by
  refine ⟨h.toSameRules, ?_⟩
  intro m
  by_cases hm : m = l
  · subst hm
    rcases h.free with hfree | hnull
    · have hne : t.node? m ≠ some .null := by
        intro hn
        rw [hn] at hfree
        exact hfree
      obtain ⟨w, hw⟩ := h.file hne
      exact .inr ⟨hfree, _, w, hw⟩
    · left
      rw [hnull, h.null hnull]
  · exact .inl (h.others m hm)

theorem treeDisk_create_ok {destination : String} (h : t.create destination.toList = .ok (l, t')) :
    treeDisk.create destination t = (.ok l, t') := by
  simp only [treeDisk, h]

theorem treeDisk_create_error {destination : String} {f : FileFault}
    (h : t.create destination.toList = .error f) :
    treeDisk.create destination t = (.error f.message, t) := by
  simp only [treeDisk, h]

/-- A write that does not fail adds its bytes. -/
theorem treeDisk_write_ok {c : List UInt8} (h : treeDisk.write l c t = (none, t')) :
    t' = t.append l c := by
  simp only [treeDisk] at h
  split at h
  · cases h
  · cases h
    rfl

/-- A place that takes bytes takes all of them. -/
theorem treeDisk_write_extend (h : t.refusal? l .extend = none) (c : List UInt8) :
    treeDisk.write l c t = (none, t.append l c) := by
  simp only [treeDisk, h]

/-- How it is told that a destination could not be written. -/
def copyFault (host source destination text : String) : DeployError :=
  .remoteFault host ("cp " ++ source ++ " " ++ destination)
    ("Failed to write destination: " ++ text)

/-- A copy, once its source is open and its target is made: what can be read is written, and then it
shows whether that was all. -/
theorem copyOn_eq {σ : Type} (disk : Disk σ) (host : String) {source destination : String} {s s₁ : σ}
    {place target : Location} {n : Node}
    (hsource : Copy.openSource (disk.files s) source = .ok (place, n))
    (htarget : disk.create destination s = (.ok target, s₁)) :
    copyOn disk host source destination s =
      (Copy.run (fun c s => Copy.told (copyFault host source destination) (disk.write target c s))
        n.size (disk.reads ((disk.files s₁).reading place n).1) s₁).followed fun s =>
          match ((disk.files s₁).reading place n).2 with
          | some f => (some (Copy.readFault source f), s)
          | none => Copy.told (copyFault host source destination) (disk.flush target s) := by
  unfold copyOn
  simp only [hsource, htarget]
  rfl

theorem failure_of_replyOf {σ : Type} {o : Copy.Outcome σ DeployError} (h : replyOf o = .ok ()) :
    o.failure = none := by
  unfold replyOf at h
  rcases hfailure : o.failure with _ | e
  · rfl
  · rw [hfailure] at h
    cases h

section Source

variable {host source destination : String} {t₁ : Tree} {b' : List UInt8}
  (hsource : Copy.openSource t source = .ok (p, .file b w))
  (hcreate : t.create destination.toList = .ok (l, t₁))

include hsource hcreate

/-- What a copy has left if it succeeded: all that could be read was added to its target. -/
theorem copy_state (h : (copy host source destination t).failure = none) :
    ∃ b', t₁.reading p (.file b w) = (b', none) ∧
      (copy host source destination t).state = t₁.appendAll l (Copy.chunks b') := by
  have heq : copy host source destination t = _ :=
    copyOn_eq treeDisk host hsource (treeDisk_create_ok hcreate)
  rw [heq] at h ⊢
  obtain ⟨hsent, hlast⟩ := Copy.followed_ok h
  have hwrite : ∀ c s s', Copy.told (copyFault host source destination) (treeDisk.write l c s) =
      ((none : Option DeployError), s') → s' = Tree.append s l c := by
    intro c s s' hc
    obtain ⟨hnone, rfl⟩ := Prod.mk.inj hc
    exact treeDisk_write_ok (Prod.ext (Option.map_eq_none_iff.1 hnone) rfl)
  have hstate := Copy.deliver_ok hwrite _ _ _ _ hsent
  rcases hreading : t₁.reading p (.file b w) with ⟨b', _ | f⟩
  · have hread : (treeDisk.files t₁).reading p (.file b w) = (b', none) := hreading
    rw [hread] at hlast hstate ⊢
    exact ⟨b', rfl, (Prod.mk.inj hlast).2.symm.trans hstate⟩
  · have hread : (treeDisk.files t₁).reading p (.file b w) = (b', some f) := hreading
    rw [hread] at hlast
    cases (Prod.mk.inj hlast).1

/-- A copy succeeds if its source can be read to the end, and its target takes what is read. -/
theorem copy_succeeds (hreading : t₁.reading p (.file b w) = (b', none))
    (htakes : t₁.refusal? l .extend = none) :
    (copy host source destination t).failure = none := by
  have heq : copy host source destination t = _ :=
    copyOn_eq treeDisk host hsource (treeDisk_create_ok hcreate)
  have hread : (treeDisk.files t₁).reading p (.file b w) = (b', none) := hreading
  have hwrite : ∀ c (t : Tree), t.refusal? l .extend = none →
      Copy.told (copyFault host source destination) (treeDisk.write l c t) =
        (none, t.append l c) := by
    intro c t ht
    rw [treeDisk_write_extend ht]
    rfl
  -- What is added to a file does not change what is refused.
  have hkeep : ∀ c (t : Tree), t.refusal? l .extend = none →
      (t.append l c).refusal? l .extend = none := by
    intro c t ht
    rw [(sameRules_append l c).refusal?, ht]
  have hsent : (Copy.run (fun c t => Copy.told (copyFault host source destination)
      (treeDisk.write l c t)) (Node.file b w).size (Copy.chunks b') t₁).failure = none :=
    Copy.deliver_all hwrite hkeep _ _ 0 t₁ htakes
  rw [heq, hread]
  show ((Copy.run _ _ (Copy.chunks b') t₁).followed _).failure = none
  rw [Copy.followed_of_none hsent]
  rfl

end Source

/-- All that was read of a file, once it was added to a target that was made or emptied before. -/
theorem carries_appendAll {t₁ : Tree} {destination : List Char} {b' : List UInt8}
    (hl : t.target destination = .ok l) (hnode : t.node? p = some (.file b w))
    (hcreate : t₁ = if t.node? l = some .null then t else t.putFile l [])
    (hreading : t₁.reading p (.file b w) = (b', none)) :
    Carries b p l t (t₁.appendAll l (Copy.chunks b')) := by
  have hne : l ≠ [] := target_ne_nil hl
  have hcontent := reading_ok hreading
  by_cases hnull : t.node? l = some .null
  · rw [if_pos hnull] at hcreate
    subst hcreate
    rw [appendAll_null hnull]
    exact ⟨.refl t₁, fun _ _ => rfl, .inr hnull, id, fun hn => absurd hnull hn⟩
  rw [if_neg hnull] at hcreate
  subst hcreate
  have hempty : (t.putFile l []).node? l = some (.file [] (.now t.clock)) := by
    rw [node?_putFile hne, if_pos rfl]
  -- The source is read after the target was emptied.
  have hb' : b' = if l = p then [] else b := by
    rw [node?_putFile hne] at hcontent
    by_cases hlp : l = p
    · rw [if_pos hlp.symm] at hcontent
      rw [if_pos hlp]
      exact (Except.ok.inj hcontent).symm
    · rw [if_neg (Ne.symm hlp), hnode] at hcontent
      rw [if_neg hlp]
      exact (Except.ok.inj hcontent).symm
  obtain ⟨hrules, hothers, w', hw'⟩ := appendAll_file hne (Copy.chunks b') hempty
  rw [Copy.flatten_chunks, List.nil_append, hb'] at hw'
  refine ⟨(sameRules_putFile l []).trans hrules, ?_, target_node hl, fun hn => absurd hn hnull,
    fun _ => ⟨w', hb' ▸ hw'⟩⟩
  intro m hm
  rw [hothers m hm, node?_putFile hne, if_neg hm]

/-- Whether nothing stands in the way of a copy from `p` to `l`: the source may be read, to its end, and
the target may be written, with as many bytes as there are. -/
structure Unhindered (t : Tree) (p l : Location) : Prop where
  opens : t.refusal? p .read = none
  measured : t.refusal? p .measure = none
  whole : t.breaks.lookup p = none
  writes : t.barred? l = none
  takes : t.refusal? l .extend = none

/-- **A copy of a file succeeds** if its destination leads to a place for a file and nothing stands in
its way, and it carries the content over. -/
theorem copy_ok (host : String) {source destination : String} (hp : t.target source.toList = .ok p)
    (hnode : t.node? p = some (.file b w)) (hl : t.target destination.toList = .ok l)
    (hfree : Unhindered t p l) :
    replyOf (copy host source destination t) = .ok () ∧
      Carries b p l t (copy host source destination t).state := by
  have hsource : Copy.openSource t source = .ok (p, .file b w) :=
    Copy.openSource_ok_iff.2 ⟨get_file_iff.2 ⟨hp, hnode⟩, hfree.opens, hfree.measured⟩
  obtain ⟨t₁, hmade⟩ : ∃ t₁, t₁ = if t.node? l = some .null then t else t.putFile l [] := ⟨_, rfl⟩
  have hcreate := create_ok_iff.2 ⟨hl, hfree.writes, hmade⟩
  have hrules : SameRules t t₁ := by
    rw [hmade]
    split
    · exact .refl t
    · exact sameRules_putFile l []
  -- The source is still there, though with nothing in it if it is its own target.
  obtain ⟨b', hreading⟩ : ∃ b', t₁.reading p (.file b w) = (b', none) := by
    have hfile : ∃ b' w', t₁.node? p = some (.file b' w') := by
      rw [hmade]
      split
      · exact ⟨b, w, hnode⟩
      · rw [node?_putFile (target_ne_nil hl)]
        split
        · exact ⟨_, _, rfl⟩
        · exact ⟨b, w, hnode⟩
    obtain ⟨b', w', hfile⟩ := hfile
    exact ⟨b', reading_file hfile (by rw [hrules.breaks, hfree.whole]) _⟩
  have htakes : t₁.refusal? l .extend = none := by rw [hrules.refusal?, hfree.takes]
  have hfailure : (copy host source destination t).failure = none :=
    copy_succeeds hsource hcreate hreading htakes
  obtain ⟨b'', hreading', hstate⟩ := copy_state hsource hcreate hfailure
  refine ⟨by rw [replyOf, hfailure]; rfl, ?_⟩
  rw [hstate]
  exact carries_appendAll hl hnode hmade hreading'

/-- In a copy that did not fail the source was opened and the target made. -/
theorem opened_of_copy {host source destination : String}
    (h : (copy host source destination t).failure = none) :
    ∃ p n l t₁, Copy.openSource t source = .ok (p, n) ∧
      t.create destination.toList = .ok (l, t₁) := by
  unfold copy copyOn at h
  rcases hsource : Copy.openSource t source with e | ⟨p, n⟩
  · rw [show Copy.openSource (treeDisk.files t) source = _ from hsource] at h
    cases h
  · rw [show Copy.openSource (treeDisk.files t) source = _ from hsource] at h
    rcases hcreate : t.create destination.toList with f | ⟨l, t₁⟩
    · simp only at h
      rw [treeDisk_create_error hcreate] at h
      cases h
    · exact ⟨p, n, l, t₁, rfl, rfl⟩

/-- **A copy that succeeds carries its content over.** -/
theorem copy_carries {host source destination : String}
    (hs : t.stat source.toList = .ok (.file b w))
    (h : replyOf (copy host source destination t) = .ok ()) :
    ∃ p l, t.target source.toList = .ok p ∧ t.node? p = some (.file b w) ∧
      t.target destination.toList = .ok l ∧
      Carries b p l t (copy host source destination t).state := by
  have hfailure := failure_of_replyOf h
  obtain ⟨p, n, l, t₁, hsource, hcreate⟩ := opened_of_copy hfailure
  obtain ⟨p', hget⟩ := stat_ok_iff.1 hs
  have hsame := hget.symm.trans (Copy.openSource_ok_iff.1 hsource).1
  obtain ⟨rfl, rfl⟩ := Prod.mk.inj (Except.ok.inj hsame)
  obtain ⟨hp, hnode⟩ := get_file_iff.1 hget
  obtain ⟨hl, -, hmade⟩ := create_ok_iff.1 hcreate
  obtain ⟨b', hreading, hstate⟩ := copy_state hsource hcreate hfailure
  refine ⟨p', l, hp, hnode, hl, ?_⟩
  rw [hstate]
  exact carries_appendAll hl hnode hmade hreading

end Local

end Rollout
