import Mathlib.Logic.Relation
import Rollout.Proofs.Compilation

/-!
# Edits that change nothing

What a descriptor is compiled to depends on little of it: of each server on its enabled packages in the
order they are run, and of a package on the values that have the number of a placeholder and the globals
that these refer to. All else can be edited.

* `Server.running`: the packages that a server runs. `eq_of_orders`: they are known once those of each
  order are known.
* `Package.Yields.extend`: more globals do not matter, nor do more values that refer to none.
* `PackagesEdit`, `Descriptor.Edit`: the edits. `PackagesEdit.kept`, `Descriptor.Edit.yields`: what one of
  them leaves as it was.
* `Descriptor.compile_edited`: any number of edits.
-/

namespace Rollout

/-! ## What is run -/

/-- Packages in ascending order are known once those of each order are known. -/
theorem eq_of_orders {l l' : List Package} (hl : l.Pairwise fun p q => p.order ≤ q.order)
    (hl' : l'.Pairwise fun p q => p.order ≤ q.order)
    (h : ∀ n, l.filter (·.order = n) = l'.filter (·.order = n)) : l = l' := by
  induction l generalizing l' with
  | nil =>
    cases l' with
    | nil => rfl
    | cons q l' => simpa using h q.order
  | cons p l ih =>
    cases l' with
    | nil => simpa using h p.order
    | cons q l' =>
      rw [List.pairwise_cons] at hl hl'
      -- Each of the two first packages is in the other list, so neither order is less.
      have hp : p ∈ q :: l' := List.mem_of_mem_filter (p := (·.order = p.order)) (by simp [← h])
      have hq : q ∈ p :: l := List.mem_of_mem_filter (p := (·.order = q.order)) (by simp [h])
      have horder : p.order = q.order := by
        rcases List.mem_cons.1 hp with rfl | hp
        · rfl
        rcases List.mem_cons.1 hq with rfl | hq
        · rfl
        exact Int64.le_antisymm (hl.1 q hq) (hl'.1 p hp)
      have hfirst := h q.order
      simp only [List.filter_cons, horder, decide_true, if_true, List.cons.injEq] at hfirst
      obtain ⟨rfl, -⟩ := hfirst
      rw [ih hl.2 hl'.2 fun n => ?_]
      have hn := h n
      simp only [List.filter_cons] at hn
      split at hn
      · exact (List.cons.inj hn).2
      · exact hn

namespace Server

/-- The packages that a server runs, in that order. -/
def running (s : Server) : List Package := s.schedule.map Prod.fst

theorem running_eq (s : Server) :
    s.running = (s.packages.filter (·.enable)).mergeSort fun p q => p.order ≤ q.order := by
  have hfilter := List.filter_map (f := Prod.fst) (p := fun p : Package => p.enable)
    (l := s.packages.zipIdx)
  rw [List.zipIdx_map_fst] at hfilter
  rw [hfilter]
  exact List.map_mergeSort fun _ _ _ _ => rfl

theorem running_pairwise (s : Server) : s.running.Pairwise fun p q => p.order ≤ q.order :=
  List.pairwise_map.2 (schedule_pairwise s)

theorem running_filter (s : Server) (n : Int64) :
    s.running.filter (·.order = n) = s.packages.filter fun p => p.enable && p.order = n := by
  have hfilter := List.filter_map (f := Prod.fst) (l := s.packages.zipIdx)
    (p := fun p : Package => p.enable && p.order = n)
  rw [List.zipIdx_map_fst] at hfilter
  have hschedule := schedule_filter s n
  rw [enabled, List.filter_filter] at hschedule
  rw [hfilter, running, List.filter_map]
  simp [Function.comp_def, hschedule, Bool.and_comm]

/-- What is run depends on the enabled packages of each order alone. -/
theorem running_congr {s s' : Server}
    (h : ∀ n, s'.packages.filter (fun p => p.enable && p.order = n) =
      s.packages.filter fun p => p.enable && p.order = n) : s'.running = s.running :=
  eq_of_orders (running_pairwise s') (running_pairwise s) fun n => by
    rw [running_filter, running_filter, h n]

theorem running_eq_nil {s : Server} : s.running = [] ↔ s.isActive = false := by
  rw [running, List.map_eq_nil_iff, schedule_eq_nil]

/-- Packages of which each takes the place of another one, and that are to each other as those were: they
are run in the same places. -/
theorem running_pairs {R : Package → Package → Prop} {s s' : Server} (z : List (Package × Package))
    (hs : s.packages = z.map Prod.fst) (hs' : s'.packages = z.map Prod.snd)
    (henable : ∀ a ∈ z, a.2.enable = a.1.enable)
    (horder : ∀ a ∈ z, ∀ b ∈ z, a.1.order ≤ b.1.order ↔ a.2.order ≤ b.2.order)
    (hR : ∀ a ∈ z, R a.1 a.2) : List.Forall₂ R s.running s'.running := by
  have hfilter : z.filter (fun a => a.2.enable) = z.filter fun a => a.1.enable :=
    List.filter_congr henable
  -- Both are sorted as the pairs are by the first package of each.
  rw [running_eq, running_eq, hs, hs', List.filter_map, List.filter_map]
  simp only [Function.comp_def, hfilter]
  have hmem : ∀ a ∈ z.filter (fun a => a.1.enable), a ∈ z := fun a ha => (List.mem_filter.1 ha).1
  rw [← List.map_mergeSort (r := fun a b => decide (a.1.order ≤ b.1.order)) fun _ _ _ _ => rfl,
    ← List.map_mergeSort (r := fun a b => decide (a.1.order ≤ b.1.order)) fun a ha b hb =>
      decide_eq_decide.2 (horder a (hmem a ha) b (hmem b hb)),
    List.forall₂_map_left_iff, List.forall₂_map_right_iff, List.forall₂_same]
  exact fun a ha => hR a (hmem a (List.mem_mergeSort.1 ha))

end Server

/-! ## What is compiled -/

section

variable {α β γ : Type}

/-- What is related one by one to what is related one by one. -/
theorem forall₂_trans {R : α → β → Prop} {S : α → γ → Prop} {T : β → γ → Prop} {as : List α}
    {bs : List β} {cs : List γ} (h : ∀ a b c, R a b → S a c → T b c) (hR : List.Forall₂ R as bs)
    (hS : List.Forall₂ S as cs) : List.Forall₂ T bs cs := by
  induction hR generalizing cs with
  | nil =>
    cases hS
    exact .nil
  | cons hab _ ih =>
    cases hS with
    | cons hac hS => exact .cons (h _ _ _ hab hac) (ih hS)

end

variable {globals values more moreValues commands : List String}

theorem Stands.extend {entry text : String} (h : Stands globals entry text) (more : List String) :
    Stands (globals ++ more) entry text := by
  cases h with
  | itself h => exact .itself h
  | global h hd hg =>
    refine .global h hd ?_
    rw [List.getElem?_append_left (List.getElem?_eq_some_iff.1 hg).1, hg]

theorem Template.Filled.extend {segments : List Template.Segment} {text : List Char}
    (h : Template.Filled values segments text) (more : List String) :
    Template.Filled (values ++ more) segments text := by
  induction h with
  | nil => exact .nil
  | literal _ ih => exact .literal ih
  | slot hd hv _ ih =>
    exact .slot hd (by rw [List.getElem?_append_left (List.getElem?_eq_some_iff.1 hv).1, hv]) ih

/-- **More is of no concern**: neither globals after those that there are, nor values after those of a
package, if they refer to no globals. -/
theorem Package.Yields.extend {p : Package} (h : p.Yields globals commands) (more : List String)
    (hvalues : ∀ entry ∈ moreValues, ¬ globalWord <+: entry.toList) :
    Package.Yields (globals ++ more) { p with values := p.values ++ moreValues } commands := by
  obtain ⟨values, hv, hc⟩ := h
  refine ⟨values ++ moreValues, ?_, hc.imp fun _ _ hf => hf.extend moreValues⟩
  refine List.rel_append (hv.imp fun _ _ hs => hs.extend more) ?_
  exact List.forall₂_same.2 fun entry he => .itself (hvalues entry he)

/-- Packages that yield what others do, among different globals. -/
def Package.Keeps (globals globals' : List String) (p p' : Package) : Prop :=
  ∀ commands, p.Yields globals commands → p'.Yields globals' commands

/-- A server yields what another one did if the packages that it runs do. -/
theorem Server.Yields.kept {globals' : List String} {s : Server} {ps : List Package} {t : Task}
    (h : List.Forall₂ (Package.Keeps globals globals') s.running { s with packages := ps }.running)
    (ht : s.Yields globals t) : Server.Yields globals' { s with packages := ps } t := by
  obtain ⟨parts, hparts, rfl⟩ := ht
  refine ⟨parts, ?_, rfl⟩
  have hrun : List.Forall₂ (Package.Yields globals) s.running parts :=
    List.forall₂_map_left_iff.2 hparts
  exact List.forall₂_map_left_iff.1 (forall₂_trans (fun _ _ cs hk hy => hk cs hy) h hrun)

theorem Descriptor.Yields.kept {d d' : Descriptor} {ts : List Task}
    (h : List.Forall₂ (fun s s' => s.isActive = s'.isActive ∧
      ∀ t, Server.Yields d.globals s t → Server.Yields d'.globals s' t) d.servers d'.servers)
    (hd : d.Yields ts) : d'.Yields ts :=
  forall₂_trans (fun _ _ t hk hy => hk.2 t hy) (List.rel_filter (fun _ _ hs => by simp [hs.1]) h) hd

/-! ## Edits -/

/-- An edit of the packages of a server. -/
inductive PackagesEdit : List Package → List Package → Prop
  | insert {before after p} : p.enable = false → PackagesEdit (before ++ after) (before ++ p :: after)
  | remove {before after p} : p.enable = false → PackagesEdit (before ++ p :: after) (before ++ after)
  | change {before after p p'} : p.enable = false → p'.enable = false →
    PackagesEdit (before ++ p :: after) (before ++ p' :: after)
  /-- Values that refer to no globals are put after the others. -/
  | addValues {before after p more} : (∀ entry ∈ more, ¬ globalWord <+: entry.toList) →
    PackagesEdit (before ++ p :: after)
      (before ++ { p with values := p.values ++ more } :: after)
  /-- Packages change places, but not those that are enabled and have the same order. -/
  | permute {ps ps'} : ps.Perm ps' →
    (∀ n, ps'.filter (fun p => p.enable && p.order = n) = ps.filter fun p => p.enable && p.order = n) →
    PackagesEdit ps ps'
  /-- Orders are replaced by others that are to each other as those were. -/
  | reorder {ps} {f : Int64 → Int64} :
    (∀ p ∈ ps, ∀ q ∈ ps, p.order < q.order → f p.order < f q.order) →
    PackagesEdit ps (ps.map fun p => { p with order := f p.order })

/-- An edit of a descriptor. -/
inductive Descriptor.Edit : Descriptor → Descriptor → Prop
  | addGlobals {globals servers more} : Edit ⟨globals, servers⟩ ⟨globals ++ more, servers⟩
  | insert {globals before after s} : s.isActive = false →
    Edit ⟨globals, before ++ after⟩ ⟨globals, before ++ s :: after⟩
  | remove {globals before after s} : s.isActive = false →
    Edit ⟨globals, before ++ s :: after⟩ ⟨globals, before ++ after⟩
  | packages {globals before after s ps} : PackagesEdit s.packages ps →
    Edit ⟨globals, before ++ s :: after⟩ ⟨globals, before ++ { s with packages := ps } :: after⟩

theorem PackagesEdit.kept {s : Server} {ps : List Package} (globals : List String)
    (h : PackagesEdit s.packages ps) :
    List.Forall₂ (Package.Keeps globals globals) s.running { s with packages := ps }.running := by
  have hsame {s' : Server} (h : ∀ n, s'.packages.filter (fun p => p.enable && p.order = n) =
      s.packages.filter fun p => p.enable && p.order = n) :
      List.Forall₂ (Package.Keeps globals globals) s.running s'.running := by
    rw [Server.running_congr h]
    exact List.forall₂_same.2 fun p _ commands hp => hp
  generalize hps : s.packages = ps₀ at h
  cases h with
  | insert hp => exact hsame fun n => by simp [hps, hp]
  | remove hp => exact hsame fun n => by simp [hps, hp]
  | change hp hp' => exact hsame fun n => by simp [hps, hp, hp']
  | permute _ hn => exact hsame fun n => by rw [hps]; exact hn n
  | @addValues before after p more hmore =>
    let p' : Package := { p with values := p.values ++ more }
    have hself : ∀ q : Package, q.Keeps globals globals q := fun q commands hq => hq
    have hp : Package.Keeps globals globals p p' := fun commands hy => by
      simpa using hy.extend [] hmore
    refine Server.running_pairs (before.map (fun q => (q, q)) ++ (p, p') :: after.map fun q => (q, q))
      (by simp [hps, Function.comp_def]) (by simp [Function.comp_def, p']) ?_ ?_ ?_
    all_goals simp only [List.forall_mem_append, List.forall_mem_cons, List.forall_mem_map]
    · simp [p']
    · simp [p']
    · exact ⟨fun q _ => hself q, hp, fun q _ => hself q⟩
  | @reorder _ f hf =>
    refine Server.running_pairs (ps₀.map fun p => (p, { p with order := f p.order }))
      (by simp [hps, Function.comp_def]) (by simp [Function.comp_def]) ?_ ?_ ?_
    all_goals simp only [List.forall_mem_map, implies_true]
    · intro p hp q hq
      constructor
      · intro hle
        by_cases heq : p.order = q.order
        · rw [heq]; exact Int64.le_refl _
        · exact Int64.le_of_lt (hf p hp q hq (Int64.lt_of_le_of_ne hle heq))
      · intro hle
        by_contra hlt
        exact absurd (hf q hq p hp (Int64.not_le.1 hlt)) (Int64.not_lt.2 hle)
    · exact fun p _ commands hy => hy

theorem Descriptor.Edit.yields {d d' : Descriptor} {ts : List Task} (h : d.Edit d')
    (hd : d.Yields ts) : d'.Yields ts := by
  cases h with
  | @addGlobals globals servers more =>
    refine Descriptor.Yields.kept ?_ hd
    refine List.forall₂_same.2 fun s _ => ⟨rfl, fun t ht => ?_⟩
    refine ht.kept (List.forall₂_same.2 fun p _ commands hp => ?_)
    have hnone : ∀ entry ∈ ([] : List String), ¬ globalWord <+: entry.toList := by simp
    simpa using hp.extend more hnone
  | insert hs => simpa [Descriptor.Yields, List.filter_append, hs] using hd
  | remove hs => simpa [Descriptor.Yields, List.filter_append, hs] using hd
  | @packages globals before after s ps hps =>
    have hkept := hps.kept globals
    have hsame : ∀ s : Server, s.isActive = s.isActive ∧
        ∀ t, s.Yields globals t → s.Yields globals t := fun s => ⟨rfl, fun t ht => ht⟩
    refine hd.kept (List.rel_append (List.forall₂_same.2 fun s _ => hsame s)
      (.cons ⟨?_, fun t ht => ht.kept hkept⟩ (List.forall₂_same.2 fun s _ => hsame s)))
    -- As many packages are run as before, so there is something to run if there was.
    have hnil : s.isActive = false ↔ Server.isActive { s with packages := ps } = false := by
      rw [← Server.running_eq_nil, ← Server.running_eq_nil, ← List.length_eq_zero_iff,
        ← List.length_eq_zero_iff, hkept.length_eq]
    exact Bool.eq_iff_iff.2 (by simpa using not_congr hnil)

/-- **Harmless edits.** A descriptor that is compiled to tasks is compiled to the same ones after any
number of edits by which globals are added at the end; packages that are not enabled are put in, changed or
taken out; servers without an enabled package are put in or taken out; values that refer to no globals are
added at the end of those of a package; packages of a server change places, but no two that are enabled and
have the same order do; or the orders in a server are replaced by others that compare as they did. -/
theorem Descriptor.compile_edited {d d' : Descriptor} {ts : List Task}
    (h : Relation.ReflTransGen Descriptor.Edit d d') (hd : d.compile = .ok ts) :
    d'.compile = .ok ts := by
  rw [compile_ok] at hd ⊢
  induction h with
  | refl => exact hd
  | tail _ hedit ih => exact hedit.yields ih

/-- A global and an idle server more, and of two packages one with a value more and with its order raised,
behind a new one that is not enabled and refers to what there is not. -/
theorem Descriptor.compile_edited_server :
    let first : Package := ⟨true, 1, ["echo \x7b0\x7d"], ["GLOBAL0"]⟩
    let second : Package := ⟨true, 2, ["date"], []⟩
    let broken : Package := ⟨false, 0, ["echo \x7b7\x7d"], ["GLOBAL9"]⟩
    let server (ps : List Package) : Server := ⟨"web1", 22, "root", "", ps⟩
    let d : Descriptor := ⟨["a"], [server [first, second]]⟩
    let d' : Descriptor := ⟨["a", "b"], [.named "db1" "root",
      server [broken, ⟨true, 5, ["date"], ["c"]⟩, first]]⟩
    Relation.ReflTransGen Descriptor.Edit d d' ∧
      d.compile = .ok [⟨"web1", 22, "root", "", ["echo a", "date"]⟩] ∧
      d'.compile = .ok [⟨"web1", 22, "root", "", ["echo a", "date"]⟩] := by
  intro first second broken server d d'
  have hraise : PackagesEdit [first, second] [first, { second with order := 5 }] :=
    @PackagesEdit.reorder [first, second] (fun n => if n = 2 then 5 else n) (by decide)
  have hvalue : PackagesEdit [first, { second with order := 5 }]
      [first, ⟨true, 5, ["date"], ["c"]⟩] :=
    @PackagesEdit.addValues [first] [] { second with order := 5 } ["c"] (by decide)
  have hpermute : PackagesEdit [first, ⟨true, 5, ["date"], ["c"]⟩]
      [⟨true, 5, ["date"], ["c"]⟩, first] := by
    refine .permute (.swap _ _ _) fun n => ?_
    by_cases h1 : (1 : Int64) = n
    · subst h1; decide
    · simp [first, h1, List.filter_cons]
  have hbroken : PackagesEdit [⟨true, 5, ["date"], ["c"]⟩, first]
      [broken, ⟨true, 5, ["date"], ["c"]⟩, first] := @PackagesEdit.insert [] _ _ rfl
  have hpackages {globals : List String} {ps ps' : List Package} (h : PackagesEdit ps ps') :
      Descriptor.Edit ⟨globals, [server ps]⟩ ⟨globals, [server ps']⟩ :=
    @Descriptor.Edit.packages globals [] [] (server ps) ps' h
  have h : Relation.ReflTransGen Descriptor.Edit d d' :=
    .tail (.tail (.tail (.tail (.tail (.single (@Descriptor.Edit.addGlobals ["a"] _ ["b"]))
      (hpackages hraise)) (hpackages hvalue)) (hpackages hpermute)) (hpackages hbroken))
      (@Descriptor.Edit.insert _ [] _ _ rfl)
  have horder : [(first, 0), (second, 1)].Pairwise Server.Earlier :=
    List.pairwise_pair.2 (.inl (by decide))
  have hschedule : (server [first, second]).schedule = [(first, 0), (second, 1)] :=
    (Server.runOrder_iff.1 ⟨by decide, horder⟩).symm
  have hd : d.compile = .ok [⟨"web1", 22, "root", "", ["echo a", "date"]⟩] := by
    simp only [Descriptor.compile, Server.compile, Server.commands, d, List.mapM_cons, hschedule]
    decide +kernel
  exact ⟨h, hd, Descriptor.compile_edited h hd⟩

end Rollout
