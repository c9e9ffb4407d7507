import Mathlib.Data.List.Nodup
import Rollout.Proofs.Places

/-!
# What is in a directory

A directory holds the names of what is directly below it. They come in no order of their own: trees
with the same nodes, one after another in some way, are told apart by nothing but the order of these
names.

* `WellFormed`: trees as there can be on a disk. `WellFormed.create`, `append` and `remove`: they
  stay so when something is written or taken away.
* `mem_namesIn_iff`: the names in a directory; `namesIn_nodup`: each of them stands there once.
* `list_ok_iff`: a directory is listed to its end if nothing stands in the way of that.
* `Reordered`: the same nodes in another order. `Reordered.stat_eq` and `Reordered.namesIn_perm`:
  paths lead to the same nodes, and directories hold the same names.
-/

namespace Rollout

/-- Whether a text can be the name of something in a directory. -/
def Path.IsFileName (name : List Char) : Prop :=
  name ≠ [] ∧ name ≠ ['.'] ∧ name ≠ ['.', '.'] ∧ '/' ∉ name

instance (name : List Char) : Decidable (Path.IsFileName name) :=
  inferInstanceAs (Decidable (_ ∧ _))

def Place.location : Place → Location
  | .found l _ => l
  | .vacant l _ => l

theorem Place.location_of_open? {q : Place} {l : Location} (h : q.open? = some l) :
    q.location = l := by
  rcases q with ⟨l', n⟩ | ⟨l', slash⟩
  · cases n with
    | file content written | null => exact Option.some.inj h
    | directory | link _ => cases h
  · cases slash with
    | false => exact Option.some.inj h
    | true => cases h

namespace Tree

variable {t t' : Tree} {l : Location} {n : Node} {p name : List Char} {names : List (List Char)}

/-- The places in which something is, by every name that it has. -/
def places (t : Tree) : List Location := t.all.map (·.1)

/-- What is true of all trees on a disk: nothing is in one place with something else, everything goes by
a name, and so does the place that a file with several names is kept in, which is none of these. -/
structure WellFormed (t : Tree) : Prop where
  distinct : t.places.Nodup
  named : ∀ l ∈ t.places, ∀ name ∈ l.getLast?, Path.IsFileName name
  shelved : ∀ a ∈ t.shared, a.2 ∉ t.shared.map (·.1) ∧ ∀ name ∈ a.2.getLast?, Path.IsFileName name

/-! ## Places -/

theorem places_eq (t : Tree) : t.places = t.nodes.map (·.1) ++ t.shared.map (·.1) := by
  simp [places, all, Function.comp_def]

theorem mem_keys_iff {β : Type} {xs : List (Location × β)} :
    l ∈ xs.map (·.1) ↔ (xs.lookup l).isSome = true := by
  induction xs with
  | nil => simp
  | cons a xs ih =>
    rw [List.map_cons, List.mem_cons, List.lookup_cons, ih]
    by_cases hl : l = a.1
    · simp [hl]
    · simp [hl, beq_eq_false_iff_ne.2 hl]

theorem lookup_eq_some_iff {β : Type} {xs : List (Location × β)} {x : β}
    (h : (xs.map (·.1)).Nodup) : xs.lookup l = some x ↔ (l, x) ∈ xs := by
  induction xs with
  | nil => simp
  | cons a xs ih =>
    obtain ⟨hfresh, htail⟩ := List.nodup_cons.1 h
    rw [List.lookup_cons, List.mem_cons]
    by_cases hl : l = a.1
    · subst hl
      have hmissing : (a.1, x) ∉ xs := fun hmem => hfresh (List.mem_map.2 ⟨_, hmem, rfl⟩)
      simp [hmissing, Prod.ext_iff, eq_comm]
    · simp [beq_eq_false_iff_ne.2 hl, ih htail, Prod.ext_iff, hl]

/-- A file is kept where its name is, or in the place that goes with the name. -/
theorem kept_cases (t : Tree) (l : Location) :
    (t.kept l = l ∧ l ∉ t.shared.map (·.1)) ∨ ∃ a ∈ t.shared, t.kept l = a.2 := by
  unfold kept
  rcases hk : t.shared.lookup l with _ | k
  · left
    rw [mem_keys_iff, hk]
    exact ⟨rfl, by simp⟩
  · obtain ⟨front, back, hsplit, -⟩ := List.lookup_eq_some_iff.1 hk
    exact .inr ⟨(l, k), by simp [hsplit], rfl⟩

theorem keys_put (l : Location) (n : Node) :
    (t.put l n).nodes.map (·.1) =
      if l ∈ t.nodes.map (·.1) then t.nodes.map (·.1) else t.nodes.map (·.1) ++ [l] := by
  rw [put]
  by_cases hl : l ∈ t.nodes.map (·.1)
  · rw [if_pos hl, if_pos (mem_keys_iff.1 hl), List.map_map]
    refine List.map_congr_left fun a _ => ?_
    show (if a.1 = l then (a.1, n) else a).1 = a.1
    split <;> rfl
  · rw [if_neg hl, if_neg (mem_keys_iff.not.1 hl)]
    simp

namespace WellFormed

theorem empty : ({} : Tree).WellFormed := ⟨.nil, by simp [places, all], by simp⟩

theorem put (h : t.WellFormed) (hl : ∀ name ∈ l.getLast?, Path.IsFileName name)
    (hkept : l ∉ t.shared.map (·.1)) (n : Node) : (t.put l n).WellFormed := by
  have hshared : (t.put l n).shared = t.shared := (sameRules_put l n).shared
  have hplaces : (t.put l n).places.Perm t.places ∨ (t.put l n).places.Perm (l :: t.places) ∧
      l ∉ t.places := by
    rw [places_eq, places_eq, keys_put, hshared]
    by_cases hthere : l ∈ t.nodes.map (·.1)
    · rw [if_pos hthere]
      exact .inl (.refl _)
    · rw [if_neg hthere, List.append_assoc, List.mem_append, not_or]
      exact .inr ⟨List.perm_middle, hthere, hkept⟩
  refine ⟨?_, ?_, hshared ▸ h.shelved⟩
  · rcases hplaces with hp | ⟨hp, hfresh⟩
    · exact hp.nodup_iff.2 h.distinct
    · exact hp.nodup_iff.2 (List.nodup_cons.2 ⟨hfresh, h.distinct⟩)
  · intro m hm
    rcases hplaces with hp | ⟨hp, -⟩
    · exact h.named m (hp.mem_iff.1 hm)
    · rcases List.mem_cons.1 (hp.mem_iff.1 hm) with rfl | hm
      · exact hl
      · exact h.named m hm

theorem putFile (h : t.WellFormed) (hl : ∀ name ∈ l.getLast?, Path.IsFileName name)
    (hkept : l ∉ t.shared.map (·.1)) (bytes : List UInt8) : (t.putFile l bytes).WellFormed :=
  ⟨(h.put hl hkept _).distinct, (h.put hl hkept _).named, (h.put hl hkept _).shelved⟩

theorem remove (h : t.WellFormed) (l : Location) : (t.remove l).WellFormed := by
  have hkeys : ∀ {β : Type} (xs : List (Location × β)),
      (xs.filterMap fun (m, x) => (if l.isPrefixOf m then none else some m).map (·, x)).Sublist xs := by
    intro β xs
    have heq : (fun (a : Location × β) => (if l.isPrefixOf a.1 then none else some a.1).map (·, a.2)) =
        Option.guard fun a => !l.isPrefixOf a.1 := by
      funext a
      by_cases ha : l.isPrefixOf a.1 = true <;> simp [Option.guard, ha]
    show (xs.filterMap fun a => _).Sublist xs
    rw [heq, List.filterMap_eq_filter]
    exact List.filter_sublist
  have hshared : (t.remove l).shared.Sublist t.shared := hkeys t.shared
  have hsub : (t.remove l).places.Sublist t.places := by
    rw [places_eq, places_eq]
    exact ((hkeys t.nodes).map _).append (hshared.map _)
  refine ⟨h.distinct.sublist hsub, fun m hm => h.named m (hsub.subset hm), ?_⟩
  intro a ha
  obtain ⟨hnone, hnamed⟩ := h.shelved a (hshared.subset ha)
  exact ⟨fun hmem => hnone ((hshared.map _).subset hmem), hnamed⟩

end WellFormed

/-! ## Places that are written to -/

theorem not_mem_components {c : List Char} (h : c ∈ Path.components p) : '/' ∉ c := fun hc => by
  simpa using Text.not_mem_of_mem_split h '/' hc

/-- A component that is looked up is a file name. -/
theorem isFileName_last {at_ : Location} (hname : IsName name) (hslash : '/' ∉ name) :
    ∀ other ∈ (at_ ++ [name]).getLast?, Path.IsFileName other := by
  intro other hother
  rw [List.getLast?_concat, Option.mem_some_iff] at hother
  subst hother
  exact ⟨hname.1, hname.2.1, hname.2.2, hslash⟩

theorem walkToLink_named {follow : Bool}
    {onLink : List Char → Location → List (List Char) → Except FileFault Place}
    (honLink : ∀ target at_ rest q, onLink target at_ rest = .ok q → q.open? = some l →
      (∀ c ∈ rest, '/' ∉ c) → ∀ name ∈ l.getLast?, Path.IsFileName name) {at_ : Location}
    {rest : List (List Char)} {q : Place} (h : t.walkToLink follow onLink at_ rest = .ok q)
    (hopen : q.open? = some l) (hrest : ∀ c ∈ rest, '/' ∉ c) :
    ∀ name ∈ l.getLast?, Path.IsFileName name := by
  have hl := Place.location_of_open? hopen
  fun_induction walkToLink t follow onLink at_ rest with
  | case1 | case10 =>
    cases h
    cases hopen
  | case2 _ _ ih | case4 _ _ _ _ ih | case5 _ _ _ _ _ ih | case9 _ _ _ _ _ _ _ _ _ ih =>
    exact ih h (List.forall_mem_cons.1 hrest).2
  | case3 | case6 | case8 | case13 => cases h
  | case7 _ name _ hne _ hdot hdots | case12 _ name hne _ hdot hdots =>
    cases h
    subst hl
    exact isFileName_last ⟨hne, hdot, hdots⟩ (List.forall_mem_cons.1 hrest).1
  | case11 => exact honLink _ _ _ _ h hopen (List.forall_mem_cons.1 hrest).2

/-- **What a walk comes to write to goes by a name.** -/
theorem walk_named {follow : Bool} {links : Nat} : ∀ {at_ : Location} {rest : List (List Char)}
    {q : Place}, t.walk follow links at_ rest = .ok q → q.open? = some l → (∀ c ∈ rest, '/' ∉ c) →
      ∀ name ∈ l.getLast?, Path.IsFileName name := by
  induction links with
  | zero =>
    intro at_ rest q h
    exact walkToLink_named (fun _ _ _ _ hq => by cases hq) h
  | succ links ih =>
    intro at_ rest q h
    refine walkToLink_named ?_ h
    intro target at_ rest q hq hopen hrest
    split at hq
    · cases hq
    · -- From a link on the walk is along what the link says, and then along the rest.
      refine ih hq hopen fun component hcomponent => ?_
      rcases List.mem_append.1 hcomponent with hcomponent | hcomponent
      · exact not_mem_components hcomponent
      · exact hrest component hcomponent

/-- What is written to goes by a name, and is where it is kept. -/
theorem WellFormed.target_named (ht : t.WellFormed) (h : t.target p = .ok l) :
    (∀ name ∈ l.getLast?, Path.IsFileName name) ∧ l ∉ t.shared.map (·.1) := by
  obtain ⟨q, hfind, hopen⟩ := target_ok_iff.1 h
  obtain ⟨m, hm, rfl⟩ := Option.map_eq_some_iff.1 hopen
  rcases t.kept_cases m with ⟨hkept, hfresh⟩ | ⟨a, ha, hkept⟩
  · rw [hkept]
    refine ⟨?_, hfresh⟩
    unfold find at hfind
    split_ifs at hfind
    · exact walk_named hfind hm fun c => not_mem_components
    · exact walk_named hfind hm fun c => not_mem_components
  · rw [hkept]
    exact (ht.shelved a ha).symm

namespace WellFormed

/-- A file that is made or emptied. -/
theorem create (h : t.WellFormed) (hcreate : t.create p = .ok (l, t')) : t'.WellFormed := by
  obtain ⟨htarget, -, rfl⟩ := create_ok_iff.1 hcreate
  split
  · exact h
  · obtain ⟨hnamed, hfresh⟩ := h.target_named htarget
    exact h.putFile hnamed hfresh []

/-- A file that is added to. -/
theorem append (h : t.WellFormed) (l : Location) (bytes : List UInt8) :
    (t.append l bytes).WellFormed := by
  unfold Tree.append
  split
  · rename_i content written hnode
    have hl : l ∈ t.nodes.map (·.1) := by
      rw [mem_keys_iff]
      by_cases hl : l = []
      · subst hl
        cases hnode
      · rw [← node?_of_ne hl, hnode]
        rfl
    have hdistinct := h.distinct
    rw [places_eq, List.nodup_append] at hdistinct
    have hmem : l ∈ t.places := by
      rw [places_eq]
      exact List.mem_append_left _ hl
    exact h.putFile (h.named l hmem) (fun hkept => hdistinct.2.2 l hl l hkept rfl) _
  · exact h

end WellFormed

/-! ## Names in a directory -/

/-- The names of what is directly in the directory at a location. -/
def namesIn (t : Tree) (l : Location) : List (List Char) := (t.children l).map (·.1)

/-- Whether a path leads to a directory that is listed to its end. -/
structure Lists (t : Tree) (p : List Char) (l : Location) : Prop where
  leads : t.get true p = .ok (l, .directory)
  opens : t.refusal? l .read = none
  ends : t.breaks.lookup l = none

/-- **A listing that comes to its end** has all names in a directory. -/
theorem list_ok_iff : t.list p = .ok ⟨names, none⟩ ↔ ∃ l, t.Lists p l ∧ t.namesIn l = names := by
  unfold list
  constructor
  · intro h
    rcases hget : t.get true p with f | ⟨l, n⟩
    · rw [hget] at h
      cases h
    · rw [hget] at h
      cases n with
      | directory =>
        rcases hread : t.refusal? l .read with _ | f
        · rcases hbreak : t.breaks.lookup l with _ | ⟨count, f⟩
          · simp only [bind, Except.bind, hread, listing, hbreak] at h
            cases h
            exact ⟨l, ⟨hget, hread, hbreak⟩, rfl⟩
          · simp only [bind, Except.bind, hread, listing, hbreak] at h
            cases h
        · simp only [bind, Except.bind, hread] at h
          cases h
      | file content written | link _ | null => cases h
  · rintro ⟨l, ⟨hget, hread, hbreak⟩, rfl⟩
    rw [hget]
    simp only [bind, Except.bind, hread, listing, hbreak]
    rfl

/-- The last name of a place that is directly below a location. -/
def nameBelow? (l m : Location) : Option (List Char) :=
  if m ≠ [] ∧ m.dropLast = l then m.getLast? else none

theorem nameBelow?_eq_some_iff {m : Location} : nameBelow? l m = some name ↔ m = l ++ [name] := by
  unfold nameBelow?
  constructor
  · intro h
    split at h
    · rename_i hm
      rw [← hm.2]
      exact (List.dropLast_append_getLast? name h).symm
    · cases h
  · rintro rfl
    simp

theorem namesIn_eq (l : Location) : t.namesIn l = t.places.filterMap (nameBelow? l) := by
  unfold namesIn children places
  rw [List.map_filterMap, List.filterMap_map]
  refine List.filterMap_congr fun a _ => ?_
  show Option.map _ (if _ then _ else _) = if _ then _ else _
  split
  · rw [Option.map_map]
    exact Option.map_id'
  · rfl

/-- **The names in a directory** are those under which something is there. -/
theorem mem_namesIn_iff : name ∈ t.namesIn l ↔ l ++ [name] ∈ t.places := by
  rw [namesIn_eq, List.mem_filterMap]
  constructor
  · rintro ⟨m, hm, hname⟩
    rw [nameBelow?_eq_some_iff.1 hname] at hm
    exact hm
  · exact fun hm => ⟨_, hm, nameBelow?_eq_some_iff.2 rfl⟩

/-- Each name stands in a directory once. -/
theorem namesIn_nodup (h : t.places.Nodup) (l : Location) : (t.namesIn l).Nodup := by
  rw [namesIn_eq]
  refine h.filterMap fun m m' name hm hm' => ?_
  rw [nameBelow?_eq_some_iff.1 hm, nameBelow?_eq_some_iff.1 hm']

theorem WellFormed.isFileName (h : t.WellFormed) (hname : name ∈ t.namesIn l) :
    Path.IsFileName name :=
  h.named _ (mem_namesIn_iff.1 hname) name (by simp)

/-! ## The same nodes in another order -/

/-- Trees with the same nodes and the same names of files, both of which may come in another order. -/
structure Reordered (t t' : Tree) : Prop where
  base : t'.base = t.base
  nodes : t'.nodes.Perm t.nodes
  shared : t'.shared.Perm t.shared
  refusals : t'.refusals = t.refusals
  breaks : t'.breaks = t.breaks

namespace Reordered

theorem places_perm (h : Reordered t t') : t'.places.Perm t.places := by
  rw [places_eq, places_eq]
  exact (h.nodes.map _).append (h.shared.map _)

/-- Of several things by one key the first would be found: so the keys have to be distinct. -/
theorem lookup_eq {β : Type} {xs ys : List (Location × β)} (h : ys.Perm xs)
    (hxs : (xs.map (·.1)).Nodup) (l : Location) : ys.lookup l = xs.lookup l := by
  refine Option.ext fun x => ?_
  rw [lookup_eq_some_iff ((h.map _).nodup_iff.2 hxs), lookup_eq_some_iff hxs, h.mem_iff]

theorem there?_eq (h : Reordered t t') (ht : t.places.Nodup) (l : Location) :
    t'.kept l = t.kept l ∧ t'.there? l = t.there? l := by
  rw [places_eq, List.nodup_append] at ht
  have hkept : t'.kept l = t.kept l := by
    unfold kept
    rw [lookup_eq h.shared ht.2.1]
  refine ⟨hkept, ?_⟩
  unfold there? node?
  rw [hkept, lookup_eq h.nodes ht.1]

theorem refusal?_eq (h : Reordered t t') (l : Location) (a : Access) :
    t'.refusal? l a = t.refusal? l a := by
  unfold refusal?
  rw [h.refusals]

theorem entry_eq (h : Reordered t t') (ht : t.places.Nodup) (at_ : Location) (name : List Char) :
    t'.entry at_ name = t.entry at_ name := by
  obtain ⟨hkept, hthere⟩ := h.there?_eq ht (at_ ++ [name])
  unfold entry
  rw [hkept, hthere, h.refusal?_eq]

theorem walkToLink_eq (h : Reordered t t') (ht : t.places.Nodup) (follow : Bool)
    (onLink : List Char → Location → List (List Char) → Except FileFault Place)
    (rest : List (List Char)) : ∀ at_,
      t'.walkToLink follow onLink at_ rest = t.walkToLink follow onLink at_ rest := by
  have hentry := h.entry_eq ht
  have hrefusal := h.refusal?_eq
  induction rest with
  | nil => exact fun _ => rfl
  | cons name rest ih =>
    intro at_
    simp only [walkToLink, hentry, hrefusal, ih]

/-- What a walk comes to depends only on what is looked up, and where a walk may pass. -/
theorem walk_eq (h : Reordered t t') (ht : t.places.Nodup) (follow : Bool) (links : Nat) :
    ∀ at_ rest, t'.walk follow links at_ rest = t.walk follow links at_ rest := by
  induction links with
  | zero => exact fun at_ rest => h.walkToLink_eq ht follow _ rest at_
  | succ links ih =>
    intro at_ rest
    simp only [walk, ih, h.walkToLink_eq ht]

theorem get_eq (h : Reordered t t') (ht : t.places.Nodup) (follow : Bool) (p : List Char) :
    t'.get follow p = t.get follow p := by
  have hfind : t'.find follow p = t.find follow p := by
    unfold find
    rw [h.base, h.walk_eq ht]
  have hkept : t'.kept = t.kept := funext fun l => (h.there?_eq ht l).1
  unfold get
  rw [hfind, hkept]

theorem stat_eq (h : Reordered t t') (ht : t.places.Nodup) (p : List Char) :
    t'.stat p = t.stat p := by
  unfold stat
  rw [h.get_eq ht]

/-- A directory holds the same names. -/
theorem namesIn_perm (h : Reordered t t') (l : Location) : (t'.namesIn l).Perm (t.namesIn l) := by
  rw [namesIn_eq, namesIn_eq]
  exact h.places_perm.filterMap _

theorem lists (h : Reordered t t') (ht : t.places.Nodup) (hl : t.Lists p l) : t'.Lists p l := by
  refine ⟨(h.get_eq ht true p).trans hl.leads, (h.refusal?_eq l .read).trans hl.opens, ?_⟩
  rw [h.breaks, hl.ends]

end Reordered

end Tree

end Rollout
