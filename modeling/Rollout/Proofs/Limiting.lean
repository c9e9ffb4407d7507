import Rollout.Proofs.Compilation
import Rollout.Proofs.Words

/-!
# Servers one by one

A server is compiled on its own, so servers put side by side give their tasks side by side, and a task can
be left out before it is compiled as well as after it. That is what the comma list of hosts relies on: it
is applied to tasks, and means servers.

* `Descriptor.compile_append`: servers one after another.
* `mem_hostsOf_iff`: the hosts in a comma list. `hostsOf_append`: two lists put together.
* `Descriptor.compile_onlyHosts`: the tasks of the hosts in a list are those of their servers.
* `Descriptor.compile_limit`: all of it, and how limits go together.
-/

namespace Rollout

/-! ## Comma lists -/

/-- A piece of a comma list: a part without a comma, which is between two commas, or between one and an
end, or all there is. -/
def IsPiece (list piece : List Char) : Prop :=
  ',' ∉ piece ∧ ∃ before after, list = before ++ piece ++ after ∧
    (before = [] ∨ [','] <:+ before) ∧ (after = [] ∨ [','] <+: after)

namespace Text

/-- What is put before a piece and after it are the other pieces, with their separators. -/
theorem join_append_cons (d : Char) (ws : List (List Char)) (w : List Char) (ws' : List (List Char)) :
    join [d] (ws ++ w :: ws') = ws.flatMap (· ++ [d]) ++ w ++ ws'.flatMap (d :: ·) := by
  have hcons : ∀ (w : List Char) ws', join [d] (w :: ws') = w ++ ws'.flatMap (d :: ·) := by
    intro w ws'
    induction ws' generalizing w with
    | nil => simp [join]
    | cons v ws' ih => rw [join, ih] <;> simp
  induction ws with
  | nil => rw [List.nil_append, hcons]; rfl
  | cons v ws ih =>
    rw [List.cons_append, join, ih]
    · simp
    · simp

theorem mem_split_comma {s piece : List Char} : piece ∈ split (· == ',') s ↔ IsPiece s piece := by
  constructor
  · intro h
    refine ⟨fun hmem => by simpa using not_mem_of_mem_split h ',' hmem, ?_⟩
    obtain ⟨ws, ws', hs⟩ := List.append_of_mem h
    refine ⟨ws.flatMap (· ++ [',']), ws'.flatMap (',' :: ·), ?_, ?_, ?_⟩
    · rw [← join_append_cons, ← hs, join_split]
    · rcases List.eq_nil_or_concat ws with rfl | ⟨ws, w, rfl⟩
      · exact .inl rfl
      · exact .inr ⟨ws.flatMap (· ++ [',']) ++ w, by simp⟩
    · cases ws' with
      | nil => exact .inl rfl
      | cons w ws' => exact .inr ⟨w ++ ws'.flatMap (',' :: ·), by simp⟩
  · rintro ⟨hpiece, before, after, rfl, hbefore, hafter⟩
    have hplain : ∀ a ∈ piece, (a == ',') = false := by
      intro a ha
      simpa using fun heq : a = ',' => hpiece (heq ▸ ha)
    have hmem : piece ∈ split (· == ',') (piece ++ after) := by
      rcases hafter with rfl | ⟨rest, rfl⟩
      · rw [List.append_nil, split_eq_singleton hplain]
        exact List.mem_cons_self
      · rw [List.singleton_append, split_append hplain rfl]
        exact List.mem_cons_self
    rcases hbefore with rfl | ⟨rest, rfl⟩
    · simpa using hmem
    · have hsplit := split_append_cons (p := (· == ',')) (d := ',') rfl rest (piece ++ after)
      rw [show rest ++ [','] ++ piece ++ after = rest ++ ',' :: (piece ++ after) by simp, hsplit]
      exact List.mem_append_right _ hmem

end Text

namespace Task

variable {list list' host : String} {hosts : Option String} {ts : List Task} {t : Task}

/-- **The hosts in a comma list** are its pieces, trimmed, but for those that are blank. -/
theorem mem_hostsOf_iff :
    host ∈ hostsOf list ↔
      host ≠ "" ∧ ∃ piece, IsPiece list.toList piece ∧ host.toList = Text.trim piece := by
  simp only [hostsOf, List.mem_map, List.mem_filter, Text.mem_split_comma, decide_eq_true_eq]
  constructor
  · rintro ⟨_, ⟨⟨piece, hpiece, rfl⟩, hne⟩, rfl⟩
    refine ⟨fun hempty => hne ?_, piece, hpiece, String.toList_ofList⟩
    rw [← String.toList_ofList (l := Text.trim piece), hempty]
    rfl
  · rintro ⟨hne, piece, hpiece, htrim⟩
    refine ⟨host.toList, ⟨⟨piece, hpiece, htrim.symm⟩, fun hempty => hne ?_⟩, String.ofList_toList⟩
    rwa [String.toList_eq_nil_iff] at hempty

/-- Two lists put together with a comma. -/
theorem hostsOf_append (list list' : String) :
    hostsOf (list ++ "," ++ list') = hostsOf list ++ hostsOf list' := by
  have htext : (list ++ "," ++ list').toList = list.toList ++ ',' :: list'.toList := by simp
  rw [hostsOf, htext, Text.split_append_cons rfl, List.map_append, List.filter_append,
    List.map_append, ← hostsOf, ← hostsOf]

theorem limit_sublist (hosts : Option String) (ts : List Task) : (limit hosts ts).Sublist ts := by
  cases hosts with
  | none => exact List.Sublist.refl ts
  | some list => exact List.filter_sublist

theorem mem_limit : t ∈ limit (some list) ts ↔ t ∈ ts ∧ t.host ∈ hostsOf list := by
  simp [limit]

/-- A task of a host in the list is kept as often as it is there. -/
theorem count_limit (list : String) (t : Task) (ts : List Task) :
    (limit (some list) ts).count t = if t.host ∈ hostsOf list then ts.count t else 0 := by
  split_ifs with h
  · exact List.count_filter (by simpa using h)
  · exact List.count_eq_zero_of_not_mem fun hmem => h (mem_limit.1 hmem).2

theorem limit_limit (list : String) (ts : List Task) :
    limit (some list) (limit (some list) ts) = limit (some list) ts := by
  simp [limit]

theorem limit_comm (list list' : String) (ts : List Task) :
    limit (some list) (limit (some list') ts) = limit (some list') (limit (some list) ts) := by
  simp only [limit, List.filter_filter, Bool.and_comm]

theorem mem_limit_append :
    t ∈ limit (some (list ++ "," ++ list')) ts ↔
      t ∈ limit (some list) ts ∨ t ∈ limit (some list') ts := by
  simp only [mem_limit, hostsOf_append, List.mem_append, and_or_left]

end Task

namespace Descriptor

/-! ## Servers -/

/-- **Servers side by side** are compiled side by side: the first ones, then the others. -/
theorem compile_append (globals : List String) (s₁ s₂ : List Server) :
    compile ⟨globals, s₁ ++ s₂⟩ =
      (compile ⟨globals, s₁⟩).bind fun ts => (compile ⟨globals, s₂⟩).map (ts ++ ·) := by
  simp only [compile_eq, List.mapM_append]
  cases s₁.mapM (Server.compile globals) <;> cases s₂.mapM (Server.compile globals) <;>
    simp [Bind.bind, Except.bind, Pure.pure, Except.pure, Except.map]

/-- A descriptor with the servers of some hosts alone. -/
def onlyHosts (d : Descriptor) (hosts : List String) : Descriptor :=
  { d with servers := d.servers.filter fun s => hosts.contains s.host }

variable {d : Descriptor} {ts : List Task}

/-- A task has the host of its server, so both are kept, or neither. -/
theorem compile_onlyHosts (h : d.compile = .ok ts) (list : String) :
    (d.onlyHosts (Task.hostsOf list)).compile = .ok (Task.limit (some list) ts) := by
  have hhost : ∀ ⦃s : Server⦄ ⦃t : Task⦄, s.Yields d.globals t →
      ((Task.hostsOf list).contains s.host = true ↔ (Task.hostsOf list).contains t.host = true) := by
    rintro s t ⟨parts, -, rfl⟩
    rfl
  rw [compile_ok] at h ⊢
  have hkept := List.rel_filter hhost h
  rw [List.filter_comm] at hkept
  exact hkept

/-- **Limits and descriptors.** Servers are compiled one by one: of two parts of a descriptor the first is
compiled, then the second, and the first error is the answer. The tasks of the hosts in a comma list are
those that the servers of these hosts are compiled to: some of all tasks, in their order, and all those of
a host that is a piece of the list. It does not matter whether a limit is applied again, or in which order
two of them are, and two lists put together keep what either of them does. -/
theorem compile_limit (d : Descriptor) (list list' : String) (ts : List Task) :
    (∀ globals s₁ s₂, compile ⟨globals, s₁ ++ s₂⟩ =
      (compile ⟨globals, s₁⟩).bind fun ts₁ => (compile ⟨globals, s₂⟩).map (ts₁ ++ ·)) ∧
    (d.compile = .ok ts →
      (d.onlyHosts (Task.hostsOf list)).compile = .ok (Task.limit (some list) ts)) ∧
    (∀ host, host ∈ Task.hostsOf list ↔
      host ≠ "" ∧ ∃ piece, IsPiece list.toList piece ∧ host.toList = Text.trim piece) ∧
    (Task.limit (some list) ts).Sublist ts ∧
    (∀ t, (Task.limit (some list) ts).count t =
      if t.host ∈ Task.hostsOf list then ts.count t else 0) ∧
    Task.limit (some list) (Task.limit (some list) ts) = Task.limit (some list) ts ∧
    Task.limit (some list) (Task.limit (some list') ts) =
      Task.limit (some list') (Task.limit (some list) ts) ∧
    ∀ t, t ∈ Task.limit (some (list ++ "," ++ list')) ts ↔
      t ∈ Task.limit (some list) ts ∨ t ∈ Task.limit (some list') ts :=
  ⟨compile_append, fun h => compile_onlyHosts h list, fun _ => Task.mem_hostsOf_iff,
    Task.limit_sublist _ ts, fun t => Task.count_limit list t ts, Task.limit_limit list ts,
    Task.limit_comm list list' ts, fun _ => Task.mem_limit_append⟩

/-- One of two hosts is named, and of its two servers one has nothing to run. -/
theorem compile_limit_named_host :
    let web : Server := (Server.named "web1" "root").withPackage ((Package.ranked 0).withCommand "ls")
    let idle : Server := .named "web1" "root"
    let db : Server := (Server.named "db1" "root").withPackage ((Package.ranked 0).withCommand "date")
    let d : Descriptor := { servers := [web, db, idle] }
    let ts : List Task := [⟨"web1", 22, "root", "", ["ls"]⟩, ⟨"db1", 22, "root", "", ["date"]⟩]
    d.compile = .ok ts ∧
      (d.onlyHosts (Task.hostsOf ",db2, web1 ")).compile = .ok (Task.limit (some ",db2, web1 ") ts) ∧
      Task.limit (some ",db2, web1 ") ts = [⟨"web1", 22, "root", "", ["ls"]⟩] := by
  intro web idle db d ts
  have h : d.compile = .ok ts := by decide +kernel
  exact ⟨h, (compile_limit d ",db2, web1 " "" ts).2.1 h, by decide +kernel⟩

end Descriptor

end Rollout
