import Mathlib.Logic.Function.Basic
import Rollout.File.Tree

/-!
# Where paths lead

A path leads to the same place as long as no directory and no link on its way changes, and nothing
else is refused there. To write a file, or to make a new one, changes none of this.

* `node?_put`: what is where, after something was put somewhere.
* `walk_isIn`: a walk ends at a place that is there.
* `target_cases`: what is at the place that writing to a path goes to.
* `get_file_iff`: a path names a file if that is what it would be written to.
* `Grown` are trees that differ in files alone; `Grown.target_iff`: paths lead to the same places
  there.
-/

namespace Rollout

/-- Whether a place is in a tree as it is said to be. -/
def Place.IsIn (t : Tree) : Place → Prop
  | .found l n => n = .directory ∨ t.there? l = some n
  | .vacant l _ => t.there? l = none

/-- The name of the file that writing to a place writes to. -/
def Place.open? : Place → Option Location
  | .found l (.file ..) | .found l .null => some l
  | .vacant l false => some l
  | _ => none

namespace Tree

variable {t t' t'' : Tree} {l m : Location} {n : Node} {p : List Char} {b : List UInt8} {w : Moment}

/-! ## What is where -/

theorem node?_of_ne (hl : l ≠ []) : t.node? l = t.nodes.lookup l := if_neg hl

theorem lookup_map_put (nodes : List (Location × Node)) (l m : Location) (n : Node) :
    (nodes.map fun (k, old) => if k = l then (k, n) else (k, old)).lookup m =
      (nodes.lookup m).map fun old => if m = l then n else old := by
  induction nodes with
  | nil => rfl
  | cons a nodes ih =>
    obtain ⟨k, old⟩ := a
    have hhead : (if k = l then (k, n) else (k, old)) = (k, if k = l then n else old) := by
      split <;> rfl
    rw [List.map_cons]
    simp only [hhead]
    rw [List.lookup_cons, List.lookup_cons, ih]
    by_cases hk : m = k
    · subst hk
      simp
    · simp [beq_eq_false_iff_ne.2 hk]

theorem node?_put (hl : l ≠ []) (n : Node) (m : Location) :
    (t.put l n).node? m = if m = l then some n else t.node? m := by
  by_cases hm : m = []
  · subst hm
    rw [if_neg (Ne.symm hl)]
    rfl
  rw [node?_of_ne hm, node?_of_ne hm, put]
  split
  · rename_i hthere
    rw [lookup_map_put]
    by_cases hml : m = l
    · subst hml
      obtain ⟨old, hold⟩ := Option.isSome_iff_exists.1 hthere
      simp [hold]
    · simp [hml]
  · rename_i hmissing
    rw [Option.not_isSome_iff_eq_none] at hmissing
    rw [List.lookup_append, List.lookup_cons]
    by_cases hml : m = l
    · subst hml
      simp [hmissing]
    · simp [hml, beq_eq_false_iff_ne.2 hml]

theorem node?_putFile (hl : l ≠ []) (b : List UInt8) (m : Location) :
    (t.putFile l b).node? m = if m = l then some (.file b (.now t.clock)) else t.node? m :=
  node?_put hl _ m

/-- Trees that are walked by the same rules, from the same directory: a file goes by the same names in
both, and the same is refused in the same places. -/
structure SameRules (t t' : Tree) : Prop where
  base : t'.base = t.base
  shared : t'.shared = t.shared
  refusals : t'.refusals = t.refusals
  breaks : t'.breaks = t.breaks

namespace SameRules

theorem refl (t : Tree) : SameRules t t := ⟨rfl, rfl, rfl, rfl⟩

theorem trans (h : SameRules t t') (h' : SameRules t' t'') : SameRules t t'' :=
  ⟨h'.base.trans h.base, h'.shared.trans h.shared, h'.refusals.trans h.refusals,
    h'.breaks.trans h.breaks⟩

theorem kept (h : SameRules t t') (l : Location) : t'.kept l = t.kept l := by
  unfold Tree.kept
  rw [h.shared]

theorem refusal? (h : SameRules t t') (l : Location) (a : Access) :
    t'.refusal? l a = t.refusal? l a := by
  unfold Tree.refusal?
  rw [h.refusals]

end SameRules

theorem sameRules_put (l : Location) (n : Node) : SameRules t (t.put l n) := by
  unfold put
  split <;> exact ⟨rfl, rfl, rfl, rfl⟩

theorem sameRules_putFile (l : Location) (b : List UInt8) : SameRules t (t.putFile l b) :=
  ⟨(sameRules_put l _).base, (sameRules_put l _).shared, (sameRules_put l _).refusals,
    (sameRules_put l _).breaks⟩

/-- What the file at the end of a path holds, whether or not it may be read. -/
def read (t : Tree) (p : List Char) : Except FileFault (List UInt8) := do (← t.stat p).content

/-- The bytes that the file in a place holds, if there is one. -/
def bytes? (t : Tree) (l : Location) : Option (List UInt8) :=
  match t.node? l with
  | some (.file b _) => some b
  | some .null => some []
  | _ => none

theorem bytes?_eq (h : t.node? l = t'.node? l) : t.bytes? l = t'.bytes? l := by
  unfold bytes?
  rw [h]

/-! ## Walks -/

section Name

variable {follow : Bool} {at_ : Location} {name : List Char} {rest : List (List Char)}
  {onLink : List Char → Location → List (List Char) → Except FileFault Place}

/-- Whether a component is a name of its own. -/
def IsName (name : List Char) : Prop := name ≠ [] ∧ name ≠ ['.'] ∧ name ≠ ['.', '.']

/-- Whether a walk that comes to a directory looks a component up in it. -/
structure LooksUp (t : Tree) (at_ : Location) (name : List Char) : Prop where
  isName : IsName name
  passes : t.refusal? at_ .pass = none

/-- Whether a node is none that a walk goes on from. -/
def IsLeaf : Option Node → Prop
  | some .directory | some (.link _) => False
  | _ => True

/-- A walk goes on by what is found under a name. -/
theorem walkToLink_looksUp (h : LooksUp t at_ name) :
    t.walkToLink follow onLink at_ (name :: rest) = match t.entry at_ name with
      | .error f => .error f
      | .ok none =>
        if rest.all (· = []) then .ok (.vacant (at_ ++ [name]) (rest ≠ [])) else .error .notFound
      | .ok (some .directory) => t.walkToLink follow onLink (at_ ++ [name]) rest
      | .ok (some (.link target)) =>
        if rest = [] ∧ ¬ follow then .ok (.found (at_ ++ [name]) (.link target))
        else onLink target at_ rest
      | .ok (some n) => if rest = [] then .ok (.found (at_ ++ [name]) n) else .error .notDirectory := by
  obtain ⟨⟨hne, hdot, hdots⟩, hpass⟩ := h
  rw [walkToLink, if_neg hne, hpass]
  simp only
  rewrite [if_neg hdot, if_neg hdots]
  rcases t.entry at_ name with f | (_ | n)
  · rfl
  · rfl
  · cases n <;> rfl

/-- At a leaf a walk comes to nothing that could be written to, unless it is at its end. -/
theorem walkToLink_isLeaf {leaf : Option Node} (h : LooksUp t at_ name)
    (hentry : t.entry at_ name = .ok leaf) (hl : IsLeaf leaf) :
    (t.walkToLink follow onLink at_ (name :: rest)).toOption.bind Place.open? =
      if rest = [] then some (at_ ++ [name]) else none := by
  rw [walkToLink_looksUp h, hentry]
  rcases leaf with _ | n
  · simp only
    by_cases hrest : rest = []
    · subst hrest
      rfl
    · rw [if_neg hrest]
      split
      · have hslash : decide (rest ≠ []) = true := by simpa using hrest
        rw [hslash]
        rfl
      · rfl
  · cases n with
    | file content written | null =>
      by_cases hrest : rest = [] <;> simp [hrest, Except.toOption, Place.open?]
    | directory | link _ => exact absurd hl id

/-- What is looked up in a directory is what goes by the name. -/
theorem there?_of_entry {o : Option Node} (h : t.entry at_ name = .ok o) :
    t.there? (at_ ++ [name]) = o := by
  unfold entry at h
  split at h
  · cases h
  · split at h
    · cases h
    · exact Except.ok.inj h

end Name

theorem walkToLink_isIn {follow : Bool}
    {onLink : List Char → Location → List (List Char) → Except FileFault Place}
    (honLink : ∀ target at_ rest q, onLink target at_ rest = .ok q → q.IsIn t) {at_ : Location}
    {rest : List (List Char)} {q : Place} (h : t.walkToLink follow onLink at_ rest = .ok q) :
    q.IsIn t := by
  fun_induction walkToLink t follow onLink at_ rest with
  | case1 =>
    cases h
    exact .inl rfl
  | case2 _ _ ih | case4 _ _ _ _ ih | case5 _ _ _ _ _ ih | case9 _ _ _ _ _ _ _ _ _ ih => exact ih h
  | case3 | case6 | case8 | case13 => cases h
  | case7 _ _ _ _ _ _ _ _ hentry =>
    cases h
    exact there?_of_entry hentry
  | case10 _ _ _ _ _ _ _ _ _ hentry | case12 _ _ _ _ _ _ _ _ _ _ hentry =>
    cases h
    exact .inr (there?_of_entry hentry)
  | case11 => exact honLink _ _ _ _ h

/-- **A walk ends at a place that is there.** -/
theorem walk_isIn {follow : Bool} {links : Nat} : ∀ {at_ : Location} {rest : List (List Char)}
    {q : Place}, t.walk follow links at_ rest = .ok q → q.IsIn t := by
  induction links with
  | zero =>
    intro at_ rest q h
    exact walkToLink_isIn (fun _ _ _ _ hq => by cases hq) h
  | succ links ih =>
    intro at_ rest q h
    refine walkToLink_isIn ?_ h
    intro target at_ rest q hq
    split at hq
    · cases hq
    · exact ih hq

theorem find_isIn {follow : Bool} {q : Place} (h : t.find follow p = .ok q) : q.IsIn t := by
  unfold find at h
  split at h
  · cases h
  split at h
  · cases h
  split at h
  · cases h
  exact walk_isIn h

theorem target_ok_iff :
    t.target p = .ok l ↔ ∃ q, t.find true p = .ok q ∧ q.open?.map t.kept = some l := by
  unfold target
  rcases t.find true p with f | q
  · simp [bind, Except.bind]
  · rcases q with ⟨l', n⟩ | ⟨l', slash⟩
    · cases n <;> simp [bind, Except.bind, Place.open?, pure, Except.pure]
    · cases slash <;> simp [bind, Except.bind, Place.open?, pure, Except.pure]

theorem get_ok_iff :
    t.get true p = .ok (l, n) ↔ ∃ name, t.find true p = .ok (.found name n) ∧ t.kept name = l := by
  unfold get
  rcases t.find true p with f | (⟨name, n'⟩ | ⟨name, slash⟩) <;>
    simp [bind, Except.bind, pure, Except.pure, and_assoc, and_comm]

/-- **What is at the place that writing to a path goes to**: a file, the file that is always empty,
or nothing yet. -/
theorem target_cases (h : t.target p = .ok l) :
    (∃ b w, t.get true p = .ok (l, .file b w) ∧ t.node? l = some (.file b w)) ∨
    (t.get true p = .ok (l, .null) ∧ t.node? l = some .null) ∨ t.node? l = none := by
  obtain ⟨q, hq, hopen⟩ := target_ok_iff.1 h
  obtain ⟨name, hname, rfl⟩ := Option.map_eq_some_iff.1 hopen
  have hin := find_isIn hq
  rcases q with ⟨name', n⟩ | ⟨name', slash⟩
  · cases n with
    | file b w =>
      obtain rfl := Option.some.inj hname
      have hfile : t.there? name' = some (.file b w) := hin.resolve_left (by simp)
      exact .inl ⟨b, w, get_ok_iff.2 ⟨name', hq, rfl⟩, hfile⟩
    | null =>
      obtain rfl := Option.some.inj hname
      have hnull : t.there? name' = some .null := hin.resolve_left (by simp)
      exact .inr (.inl ⟨get_ok_iff.2 ⟨name', hq, rfl⟩, hnull⟩)
    | directory | link _ => cases hname
  · cases slash with
    | false =>
      obtain rfl := Option.some.inj hname
      exact .inr (.inr hin)
    | true => cases hname

/-- Nothing is written to the root. -/
theorem target_ne_nil (h : t.target p = .ok l) : l ≠ [] := by
  rintro rfl
  rcases target_cases h with ⟨b, w, -, hl⟩ | ⟨-, hl⟩ | hl <;> cases hl

/-- What may be refused comes about if it would without that, and is not refused. -/
theorem bind_unrefused_iff {α : Type} {x : Except FileFault α} {refused : α → Option FileFault}
    {a : α} :
    (x.bind fun a => match refused a with
      | some f => .error f
      | none => .ok a) = .ok a ↔ x = .ok a ∧ refused a = none := by
  rcases x with f | b
  · simp [Except.bind]
  · simp only [Except.bind, Except.ok.injEq]
    constructor
    · intro h
      split at h
      · cases h
      · rename_i hnone
        cases h
        exact ⟨rfl, hnone⟩
    · rintro ⟨rfl, hnone⟩
      rw [hnone]

theorem openTarget_ok_iff :
    t.openTarget p = .ok l ↔ t.target p = .ok l ∧ t.barred? l = none :=
  bind_unrefused_iff

/-- What is made empty, or new, is what writing to the path goes to. -/
theorem create_ok_iff : t.create p = .ok (l, t') ↔ t.target p = .ok l ∧ t.barred? l = none ∧
    t' = if t.node? l = some .null then t else t.putFile l [] := by
  rw [← and_assoc, ← openTarget_ok_iff]
  unfold create
  rcases t.openTarget p with f | m
  · simp [bind, Except.bind]
  · simp only [bind, Except.bind, pure, Except.pure, Except.ok.injEq, Prod.mk.injEq]
    constructor
    · rintro ⟨rfl, rfl⟩
      exact ⟨rfl, rfl⟩
    · rintro ⟨rfl, rfl⟩
      exact ⟨rfl, rfl⟩

/-- **A path names a file** if that is what it would be written to. -/
theorem get_file_iff : t.get true p = .ok (l, .file b w) ↔
    t.target p = .ok l ∧ t.node? l = some (.file b w) := by
  constructor
  · intro hget
    obtain ⟨name, hfind, rfl⟩ := get_ok_iff.1 hget
    have hin : t.there? name = some (.file b w) := by simpa [Place.IsIn] using find_isIn hfind
    exact ⟨target_ok_iff.2 ⟨_, hfind, rfl⟩, hin⟩
  · rintro ⟨htarget, hnode⟩
    rcases target_cases htarget with ⟨b', w', hget, hl⟩ | ⟨-, hl⟩ | hl
    · rw [hnode] at hl
      cases hl
      exact hget
    · rw [hnode] at hl
      cases hl
    · rw [hnode] at hl
      cases hl

theorem stat_ok_iff : t.stat p = .ok n ↔ ∃ l, t.get true p = .ok (l, n) := by
  unfold stat
  rcases t.get true p with f | ⟨l', n'⟩ <;> simp [bind, Except.bind, pure, Except.pure]

theorem read_of_stat (h : t.stat p = .ok n) : t.read p = n.content := by
  unfold read
  rw [h]
  rfl

/-- Reading a path gives the bytes at the place that it would be written to. -/
theorem read_eq (hl : t.target p = .ok l) (hb : t.bytes? l = some b) : t.read p = .ok b := by
  unfold bytes? at hb
  rcases target_cases hl with ⟨b', w', hget, hnode⟩ | ⟨hget, hnode⟩ | hnode
  · rw [hnode] at hb
    cases hb
    exact read_of_stat (stat_ok_iff.2 ⟨l, hget⟩)
  · rw [hnode] at hb
    cases hb
    exact read_of_stat (stat_ok_iff.2 ⟨l, hget⟩)
  · rw [hnode] at hb
    cases hb

/-! ## Files that are open -/

theorem openFile_ok_iff :
    t.openFile p = .ok (l, n) ↔ t.get true p = .ok (l, n) ∧ t.refusal? l .read = none := by
  have hopen : t.openFile p = (t.get true p).bind fun a => match t.refusal? a.1 .read with
      | some f => .error f
      | none => .ok a := rfl
  rw [hopen, bind_unrefused_iff]

/-- A file from which everything can be read. -/
theorem reading_file (h : t.node? l = some (.file b w)) (hb : t.breaks.lookup l = none) (n : Node) :
    t.reading l n = (b, none) := by
  unfold reading
  rw [h, hb]
  rfl

/-- What is read of a file to its end is all that it holds. -/
theorem reading_ok (h : t.reading l n = (b, none)) : ((t.node? l).getD n).content = .ok b := by
  unfold reading at h
  split at h
  · cases h
  · rename_i bytes hbytes
    split at h
    · cases h
    · cases h
      exact hbytes

/-! ## Trees that differ in files alone -/

/-- Whether a node is a file, or there is none. -/
def IsFree : Option Node → Prop
  | none | some (.file ..) => True
  | _ => False

/-- Trees that are the same but for files that were written or made. -/
structure Grown (t t' : Tree) : Prop extends SameRules t t' where
  nodes : ∀ l, t'.node? l = t.node? l ∨ (IsFree (t.node? l) ∧ ∃ b w, t'.node? l = some (.file b w))

namespace Grown

theorem refl (t : Tree) : Grown t t := ⟨.refl t, fun _ => .inl rfl⟩

theorem trans (h : Grown t t') (h' : Grown t' t'') : Grown t t'' := by
  refine ⟨h.toSameRules.trans h'.toSameRules, ?_⟩
  intro l
  rcases h.nodes l with hl | ⟨hfree, b, w, hfile⟩ <;> rcases h'.nodes l with hl' | ⟨hfree', hfile'⟩
  · exact .inl (hl'.trans hl)
  · rw [hl] at hfree'
    exact .inr ⟨hfree', hfile'⟩
  · exact .inr ⟨hfree, b, w, hl'.trans hfile⟩
  · exact .inr ⟨hfree, hfile'⟩

section Walk

variable {follow : Bool} {at_ : Location} {name : List Char}

theorem looksUp (h : Grown t t') (hname : LooksUp t at_ name) : LooksUp t' at_ name :=
  ⟨hname.isName, (h.refusal? at_ .pass).trans hname.passes⟩

/-- What is looked up is the same, or no more than a file or nothing in both trees. -/
theorem entry_cases (h : Grown t t') (at_ : Location) (name : List Char) :
    t'.entry at_ name = t.entry at_ name ∨
      ∃ leaf leaf', t.entry at_ name = .ok leaf ∧ t'.entry at_ name = .ok leaf' ∧
        IsLeaf leaf ∧ IsLeaf leaf' := by
  unfold entry there?
  rw [h.kept, h.refusal?]
  split
  · exact .inl rfl
  split
  · exact .inl rfl
  rcases h.nodes (t.kept (at_ ++ [name])) with hsame | ⟨hfree, b, w, hfile⟩
  · rw [hsame]
    exact .inl rfl
  · refine .inr ⟨_, _, rfl, rfl, ?_, ?_⟩
    · cases hn : t.node? (t.kept (at_ ++ [name])) with
      | none => trivial
      | some n =>
        rw [hn] at hfree
        cases n with
        | file content written => trivial
        | directory | link _ | null => exact absurd hfree id
    · rw [hfile]
      trivial

/-- A walk leads on in the same way, whatever files on its way were written or made, if it does so
from each link on. -/
theorem walkToLink_open? (h : Grown t t')
    {onLink onLink' : List Char → Location → List (List Char) → Except FileFault Place}
    (honLink : ∀ target at_ rest, (onLink' target at_ rest).toOption.bind Place.open? =
      (onLink target at_ rest).toOption.bind Place.open?) (rest : List (List Char)) : ∀ at_,
    (t'.walkToLink follow onLink' at_ rest).toOption.bind Place.open? =
      (t.walkToLink follow onLink at_ rest).toOption.bind Place.open? := by
  induction rest with
  | nil => exact fun _ => rfl
  | cons name rest ih =>
    intro at_
    by_cases hname : name = []
    · rw [walkToLink, if_pos hname, walkToLink, if_pos hname]
      exact ih at_
    rcases hpass : t.refusal? at_ .pass with _ | f
    · by_cases hdot : name = ['.']
      · rw [walkToLink, if_neg hname, h.refusal?, hpass, walkToLink, if_neg hname, hpass]
        simp only
        rw [if_pos hdot, if_pos hdot]
        exact ih at_
      by_cases hdots : name = ['.', '.']
      · rw [walkToLink, if_neg hname, h.refusal?, hpass, walkToLink, if_neg hname, hpass]
        simp only
        rw [if_neg hdot, if_neg hdot, if_pos hdots, if_pos hdots]
        exact ih at_.dropLast
      have hlook : LooksUp t at_ name := ⟨⟨hname, hdot, hdots⟩, hpass⟩
      rcases h.entry_cases at_ name with hsame | ⟨leaf, leaf', hentry, hentry', hl, hl'⟩
      · rw [walkToLink_looksUp (h.looksUp hlook), walkToLink_looksUp hlook, hsame]
        rcases t.entry at_ name with f | (_ | n)
        · rfl
        · rfl
        · cases n with
          | file content written | null => rfl
          | directory => exact ih (at_ ++ [name])
          | link target =>
            simp only
            split
            · rfl
            · exact honLink target at_ rest
      · -- At a leaf neither of the two walks goes on.
        rw [walkToLink_isLeaf (h.looksUp hlook) hentry' hl', walkToLink_isLeaf hlook hentry hl]
    · rw [walkToLink, if_neg hname, h.refusal?, hpass, walkToLink, if_neg hname, hpass]

/-- A path leads on in the same way. -/
theorem walk_open? (h : Grown t t') (links : Nat) : ∀ at_ rest,
    (t'.walk follow links at_ rest).toOption.bind Place.open? =
      (t.walk follow links at_ rest).toOption.bind Place.open? := by
  induction links with
  | zero => exact fun at_ rest => h.walkToLink_open? (fun _ _ _ => rfl) rest at_
  | succ links ih =>
    intro at_ rest
    apply h.walkToLink_open?
    intro target at_ rest
    split
    · rfl
    · exact ih _ _

end Walk

/-- **Paths lead to the same places** in trees that differ in files alone. -/
theorem target_iff (h : Grown t t') : t'.target p = .ok l ↔ t.target p = .ok l := by
  have hopen : ∀ t : Tree, t.target p = .ok l ↔
      ((t.find true p).toOption.bind Place.open?).map t.kept = some l := by
    intro t
    rw [target_ok_iff]
    rcases t.find true p with f | q <;> simp [Except.toOption]
  rw [hopen, hopen]
  have hfind : (t'.find true p).toOption.bind Place.open? =
      (t.find true p).toOption.bind Place.open? := by
    unfold find
    split
    · rfl
    split
    · rfl
    split
    · rfl
    rw [h.base]
    exact h.walk_open? maxLinks _ _
  have hkept : t'.kept = t.kept := funext h.kept
  rw [hfind, hkept]

theorem null_iff (h : Grown t t') : t'.node? l = some .null ↔ t.node? l = some .null := by
  rcases h.nodes l with hl | ⟨hfree, b, w, hfile⟩
  · rw [hl]
  · rw [hfile]
    constructor
    · intro hn
      cases hn
    · intro hn
      rw [hn] at hfree
      exact absurd hfree id

theorem bytes?_isSome (h : Grown t t') (hl : (t.bytes? l).isSome = true) :
    (t'.bytes? l).isSome = true := by
  rcases h.nodes l with heq | ⟨-, b, w, hfile⟩
  · rw [bytes?_eq heq]
    exact hl
  · simp [bytes?, hfile]

end Grown

end Tree

end Rollout
