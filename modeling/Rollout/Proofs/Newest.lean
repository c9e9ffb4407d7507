import Mathlib.Data.List.Sort
import Rollout.File.Selection
import Rollout.Proofs.Listing

/-!
# The newest files of a directory

The files of a directory are taken by age, the newest first, or all of them by name. Either way they
are put in order first, and the order leaves nothing open, since no two files of a directory have
the same name. So it does not matter in which order the directory was read, and with a higher limit
the same files are taken first.

* `Newer`: the order by age. `byAge_iff`: candidates are compared by it.
* `mergeSort_congr`: a sorted list does not depend on what was sorted, up to its order.
* `Taken`: what is taken with each limit. `files_taken`: these are the files of a directory.
-/

namespace Rollout

/-! ## Moments -/

namespace Moment

variable {a b d : Moment}

theorem le_total (a b : Moment) : (a.le b || b.le a) = true := by
  cases a <;> cases b <;> simp [le]
  · exact Int.le_total _ _
  · exact Nat.le_total _ _

theorem le_trans (h : a.le b = true) (h' : b.le d = true) : a.le d = true := by
  cases a <;> cases b <;> cases d <;> simp_all [le] <;> omega

theorem le_antisymm (h : a.le b = true) (h' : b.le a = true) : a = b := by
  cases a <;> cases b <;> simp only [le, decide_eq_true_eq, Bool.false_eq_true] at h h'
  · rw [Int.le_antisymm h h']
  · rw [Nat.le_antisymm h h']

end Moment

namespace Selection

variable {a b d : Candidate}

/-! ## Two orders of candidates -/

/-- Whether the name of a candidate comes before that of another one. -/
def NamedBefore (a b : Candidate) : Prop :=
  Text.inOrder a.name b.name = true ∧ a.name ≠ b.name

/-- Whether a candidate is newer than another one, or as old and its name comes first. -/
def Newer (a b : Candidate) : Prop :=
  b.written.le a.written = true ∧ b.written ≠ a.written ∨ a.written = b.written ∧ NamedBefore a b

theorem NamedBefore.asymm (h : NamedBefore a b) : ¬ NamedBefore b a := fun h' =>
  h.2 (Text.inOrder_antisymm h.1 h'.1)

theorem Newer.asymm (h : Newer a b) : ¬ Newer b a := by
  rintro (⟨hle', hne'⟩ | ⟨heq', hname'⟩)
  · rcases h with ⟨hle, hne⟩ | ⟨heq, -⟩
    · exact hne (Moment.le_antisymm hle hle')
    · exact hne' heq
  · rcases h with ⟨-, hne⟩ | ⟨-, hname⟩
    · exact hne heq'
    · exact hname.asymm hname'

theorem NamedBefore.trans (h : NamedBefore a b) (h' : NamedBefore b d) : NamedBefore a d := by
  refine ⟨Text.inOrder_trans h.1 h'.1, fun heq => ?_⟩
  rw [NamedBefore, heq] at h
  exact h.2 (Text.inOrder_antisymm h.1 h'.1)

theorem Newer.trans (h : Newer a b) (h' : Newer b d) : Newer a d := by
  rcases h with ⟨hle, hne⟩ | ⟨heq, hname⟩
  · rcases h' with ⟨hle', -⟩ | ⟨heq', -⟩
    · refine .inl ⟨Moment.le_trans hle' hle, fun heq => ?_⟩
      rw [heq] at hle'
      exact hne (Moment.le_antisymm hle hle')
    · rw [heq'] at hle hne
      exact .inl ⟨hle, hne⟩
  · rcases h' with ⟨hle', hne'⟩ | ⟨heq', hname'⟩
    · rw [← heq] at hle' hne'
      exact .inl ⟨hle', hne'⟩
    · exact .inr ⟨heq.trans heq', hname.trans hname'⟩

theorem byAge_iff : byAge a b = true ↔ Newer a b ∨ a = b := by
  unfold byAge
  by_cases h : a.written = b.written
  · rw [if_pos h]
    constructor
    · intro hname
      by_cases heq : a.name = b.name
      · cases a
        cases b
        exact .inr (by simp_all)
      · exact .inl (.inr ⟨h, hname, heq⟩)
    · rintro ((⟨-, hne⟩ | ⟨-, hname⟩) | rfl)
      · exact absurd h.symm hne
      · exact hname.1
      · simpa using Text.inOrder_total a.name a.name
  · rw [if_neg h]
    constructor
    · exact fun hle => .inl (.inl ⟨hle, Ne.symm h⟩)
    · rintro ((⟨hle, -⟩ | ⟨heq, -⟩) | rfl)
      · exact hle
      · exact absurd heq h
      · exact absurd rfl h

/-- A comparison that puts candidates into a strict order, if they have different names. -/
structure Orders (le : Candidate → Candidate → Bool) (lt : Candidate → Candidate → Prop) :
    Prop where
  trans : ∀ a b d, le a b = true → le b d = true → le a d = true
  total : ∀ a b, (le a b || le b a) = true
  strict : ∀ {a b}, le a b = true → a.name ≠ b.name → lt a b
  asymm : ∀ {a b}, lt a b → ¬ lt b a

theorem byName_orders : Orders byName NamedBefore where
  trans _ _ _ := Text.inOrder_trans
  total a b := Text.inOrder_total a.name b.name
  strict h hne := ⟨h, hne⟩
  asymm := NamedBefore.asymm

theorem byAge_orders : Orders byAge Newer where
  trans a b d h h' := by
    rw [byAge_iff] at h h' ⊢
    rcases h with h | rfl
    · rcases h' with h' | rfl
      · exact .inl (h.trans h')
      · exact .inl h
    · exact h'
  total a b := by
    unfold byAge
    by_cases h : a.written = b.written
    · rw [if_pos h, if_pos h.symm]
      exact Text.inOrder_total a.name b.name
    · rw [if_neg h, if_neg (Ne.symm h)]
      exact Moment.le_total b.written a.written
  strict h hne := (byAge_iff.1 h).resolve_right fun heq => hne (by rw [heq])
  asymm := Newer.asymm

namespace Orders

variable {le : Candidate → Candidate → Bool} {lt : Candidate → Candidate → Prop}
  {cs cs' : List Candidate} (h : Orders le lt)

include h

theorem pairwise (hnames : (cs.map (·.name)).Nodup) : (cs.mergeSort le).Pairwise lt := by
  have hne : (cs.mergeSort le).Pairwise fun a b => a.name ≠ b.name := by
    rw [← List.pairwise_map]
    exact ((List.mergeSort_perm cs le).map _).nodup_iff.2 hnames
  exact (List.pairwise_mergeSort h.trans h.total cs).imp₂ (fun a b hle hne => h.strict hle hne) hne

/-- **What is sorted comes in one order**, whatever order it was in before. -/
theorem mergeSort_congr (hnames : (cs.map (·.name)).Nodup) (hp : cs'.Perm cs) :
    cs'.mergeSort le = cs.mergeSort le := by
  -- Two lists with the same elements, both in one strict order, are equal.
  have hsorted : (cs'.mergeSort le).Perm (cs.mergeSort le) :=
    (List.mergeSort_perm cs' le).trans (hp.trans (List.mergeSort_perm cs le).symm)
  have hnames' : (cs'.map (·.name)).Nodup := (hp.map _).nodup_iff.2 hnames
  exact hsorted.eq_of_pairwise (fun a b _ _ hab hba => absurd hba (h.asymm hab))
    (h.pairwise hnames') (h.pairwise hnames)

/-- What is in order is what comes of it in any other order. -/
theorem mergeSort_eq (hnames : (cs.map (·.name)).Nodup) (hsorted : cs.Pairwise (le · ·))
    (hp : cs'.Perm cs) : cs'.mergeSort le = cs :=
  (h.mergeSort_congr hnames hp).trans (List.mergeSort_of_pairwise hsorted)

end Orders

/-! ## The files of a directory -/

variable {t t' : Tree} {directory name : List Char} {e : Candidate} {names : List (List Char)}
  {l : Location} {limit limit' : Nat}

/-- The path of a candidate of a directory. -/
def Candidate.path (directory : List Char) (e : Candidate) : String :=
  String.ofList (Path.child directory e.name)

theorem child_injective {name' : List Char}
    (h : Path.child directory name = Path.child directory name') : name = name' := by
  unfold Path.child at h
  split at h
  · exact List.append_cancel_left h
  · exact List.cons.inj (List.append_cancel_left h) |>.2

theorem candidate?_eq_some_iff : candidate? t directory name = some e ↔ e.name = name ∧
    ∃ content, t.stat (Path.child directory name) = .ok (.file content e.written) := by
  unfold candidate?
  split
  · rename_i content written hstat
    rw [hstat]
    constructor
    · rintro ⟨⟩
      exact ⟨rfl, content, rfl⟩
    · rintro ⟨rfl, content', h⟩
      cases h
      rfl
  · rename_i hstat
    constructor
    · nofun
    · rintro ⟨-, content, h⟩
      exact absurd h (hstat content e.written)

/-- The candidates among names in a directory. -/
def candidates (t : Tree) (directory : List Char) (names : List (List Char)) : List Candidate :=
  names.filterMap (candidate? t directory)

theorem mem_candidates_iff : e ∈ candidates t directory names ↔ e.name ∈ names ∧
    ∃ content, t.stat (Path.child directory e.name) = .ok (.file content e.written) := by
  simp only [candidates, List.mem_filterMap, candidate?_eq_some_iff]
  constructor
  · rintro ⟨name, hname, rfl, h⟩
    exact ⟨hname, h⟩
  · rintro ⟨hname, h⟩
    exact ⟨e.name, hname, rfl, h⟩

theorem candidates_nodup (h : names.Nodup) :
    ((candidates t directory names).map (·.name)).Nodup := by
  rw [candidates, List.map_filterMap]
  refine h.filterMap fun name name' b hb hb' => ?_
  obtain ⟨e, he, rfl⟩ := Option.map_eq_some_iff.1 hb
  obtain ⟨e', he', heq⟩ := Option.map_eq_some_iff.1 hb'
  rw [← (candidate?_eq_some_iff.1 he).1, ← (candidate?_eq_some_iff.1 he').1, heq]

theorem files_ok {directory : String} (h : t.Lists directory.toList l) :
    files t directory limit =
      .ok ((choose limit (candidates t directory.toList (t.namesIn l))).map
        (Candidate.path directory.toList)) := by
  have hlist : t.list directory.toList = .ok ⟨t.namesIn l, none⟩ := Tree.list_ok_iff.2 ⟨l, h, rfl⟩
  simp only [files, hlist]
  rfl

/-! ## What is chosen -/

section Choice

variable {cs cs' : List Candidate}

theorem choose_zero (cs : List Candidate) : choose 0 cs = cs.mergeSort byName := rfl

theorem choose_of_pos (h : 0 < limit) (cs : List Candidate) :
    choose limit cs = (cs.mergeSort byAge).take limit :=
  if_neg (Nat.pos_iff_ne_zero.1 h)

theorem choose_congr (hnames : (cs.map (·.name)).Nodup) (hp : cs'.Perm cs) (limit : Nat) :
    choose limit cs' = choose limit cs := by
  unfold choose
  rw [byName_orders.mergeSort_congr hnames hp, byAge_orders.mergeSort_congr hnames hp]

theorem choose_subperm (limit : Nat) (cs : List Candidate) :
    ∃ rest, (choose limit cs ++ rest).Perm cs := by
  unfold choose
  split
  · exact ⟨[], by rw [List.append_nil]; exact List.mergeSort_perm cs byName⟩
  · exact ⟨_, by rw [List.take_append_drop]; exact List.mergeSort_perm cs byAge⟩

theorem mem_of_mem_choose (h : e ∈ choose limit cs) : e ∈ cs := by
  obtain ⟨rest, hp⟩ := choose_subperm limit cs
  exact hp.mem_iff.1 (List.mem_append_left rest h)

theorem choose_names_nodup (hnames : (cs.map (·.name)).Nodup) (limit : Nat) :
    ((choose limit cs).map (·.name)).Nodup := by
  obtain ⟨rest, hp⟩ := choose_subperm limit cs
  have hall : ((choose limit cs ++ rest).map (·.name)).Nodup := (hp.map _).nodup_iff.2 hnames
  rw [List.map_append] at hall
  exact hall.of_append_left

/-- Files with different names have different paths. -/
theorem paths_nodup (hnames : (cs.map (·.name)).Nodup) :
    (cs.map (Candidate.path directory)).Nodup := by
  have hpaths : cs.map (Candidate.path directory) =
      (cs.map (·.name)).map fun name => String.ofList (Path.child directory name) := by
    rw [List.map_map]
    rfl
  rw [hpaths]
  exact hnames.map fun name name' h => child_injective (String.ofList_injective h)

end Choice

/-- What is taken of some files, with each limit. -/
structure Taken (isFile : Candidate → Prop) (taken : Nat → List Candidate) : Prop where
  /-- Only files are taken. -/
  sound : ∀ limit, ∀ e ∈ taken limit, isFile e
  /-- Without a limit all of them are, by name. -/
  all : ∀ e, isFile e → e ∈ taken 0
  byName : (taken 0).Pairwise NamedBefore
  /-- With a limit there are as many as that, if there are enough, the newest first. -/
  length : ∀ limit, 0 < limit → (taken limit).length = min limit (taken 0).length
  newest : ∀ limit, 0 < limit → (taken limit).Pairwise Newer
  /-- None that is passed over is newer than one that is taken. -/
  passed : ∀ limit, 0 < limit → ∀ a ∈ taken limit, ∀ b, isFile b → b ∉ taken limit → ¬ Newer b a
  /-- A higher limit adds files at the end. -/
  further : ∀ limit limit', 0 < limit → limit ≤ limit' → taken limit <+: taken limit'
  /-- A limit that is high enough leaves none out. -/
  whole : ∀ limit, (taken 0).length ≤ limit → (taken limit).Perm (taken 0)

theorem choose_taken {cs : List Candidate} (hnames : (cs.map (·.name)).Nodup) :
    Taken (· ∈ cs) (choose · cs) where
  sound _ _ := mem_of_mem_choose
  all e he := (List.mergeSort_perm cs byName).mem_iff.2 he
  byName := byName_orders.pairwise hnames
  length limit h := by
    rw [choose_of_pos h, choose_zero, List.length_take, List.length_mergeSort,
      List.length_mergeSort]
  newest limit h := by
    rw [choose_of_pos h]
    exact (byAge_orders.pairwise hnames).sublist (List.take_sublist _ _)
  passed limit h a ha b hb hpassed := by
    rw [choose_of_pos h] at ha hpassed
    -- What is not among the first ones is among the others, and these are all older.
    have hsplit : b ∈ (cs.mergeSort byAge).take limit ++ (cs.mergeSort byAge).drop limit := by
      rw [List.take_append_drop]
      exact (List.mergeSort_perm cs byAge).mem_iff.2 hb
    have hlater : b ∈ (cs.mergeSort byAge).drop limit :=
      (List.mem_append.1 hsplit).resolve_left hpassed
    have hsorted := byAge_orders.pairwise hnames
    rw [← List.take_append_drop limit (cs.mergeSort byAge), List.pairwise_append] at hsorted
    exact (hsorted.2.2 a ha b hlater).asymm
  further limit limit' h hle := by
    rw [choose_of_pos h, choose_of_pos (Nat.lt_of_lt_of_le h hle)]
    exact List.take_prefix_take_left hle
  whole limit h := by
    rcases Nat.eq_zero_or_pos limit with rfl | hpos
    · exact .refl _
    rw [choose_zero, List.length_mergeSort] at h
    rw [choose_of_pos hpos, choose_zero, List.take_of_length_le (by rwa [List.length_mergeSort])]
    exact (List.mergeSort_perm cs byAge).trans (List.mergeSort_perm cs byName).symm

/-- Files that are taken go by different names, which are names of something in the directory. -/
theorem exists_chosen (ht : t.WellFormed) {directory : String} {fs : List String}
    (h : files t directory limit = .ok fs) :
    ∃ chosen : List Candidate, fs = chosen.map (Candidate.path directory.toList) ∧
      (∀ e ∈ chosen, Path.IsFileName e.name) ∧ (chosen.map (·.name)).Nodup := by
  rcases hlist : t.list directory.toList with f | ⟨names, _ | f⟩
  · simp only [files, hlist] at h
    cases h
  · obtain ⟨l, hl, rfl⟩ := Tree.list_ok_iff.1 hlist
    rw [files_ok hl] at h
    exact ⟨_, (Except.ok.inj h).symm,
      fun e he => ht.isFileName (mem_candidates_iff.1 (mem_of_mem_choose he)).1,
      choose_names_nodup (candidates_nodup (Tree.namesIn_nodup ht.distinct l)) limit⟩
  · simp only [files, hlist] at h
    cases h

/-- Whether a candidate is a file of a directory: something is there by its name, which leads to a
regular file, if need be through links, and that was written when the candidate says. -/
def IsFileOf (t : Tree) (directory : List Char) (e : Candidate) : Prop :=
  (∃ l, t.get true directory = .ok (l, .directory) ∧ l ++ [e.name] ∈ t.places) ∧
    ∃ content, t.stat (Path.child directory e.name) = .ok (.file content e.written)

theorem mem_candidates (h : t.get true directory = .ok (l, .directory)) :
    e ∈ candidates t directory (t.namesIn l) ↔ IsFileOf t directory e := by
  rw [mem_candidates_iff, Tree.mem_namesIn_iff, IsFileOf, h]
  constructor
  · exact fun ⟨hname, hstat⟩ => ⟨⟨l, rfl, hname⟩, hstat⟩
  · rintro ⟨⟨l', heq, hname⟩, hstat⟩
    cases heq
    exact ⟨hname, hstat⟩

/-- **The files of a directory that are taken**, if it is listed to its end. They are its regular files,
through links and no others, each of them once: all by name without a limit, and else the newest ones,
the newest first and of equally old ones those whose names come first. Nothing depends on the order in
which the directory is read. -/
theorem files_taken (ht : t.places.Nodup) {directory : String} (hd : t.Lists directory.toList l) :
    ∃ taken : Nat → List Candidate, Taken (IsFileOf t directory.toList) taken ∧
      (∀ limit,
        files t directory limit = .ok ((taken limit).map (Candidate.path directory.toList)) ∧
        ((taken limit).map (Candidate.path directory.toList)).Nodup) ∧
      ∀ t', Tree.Reordered t t' → ∀ limit, files t' directory limit = files t directory limit := by
  have hnames : ((candidates t directory.toList (t.namesIn l)).map (·.name)).Nodup :=
    candidates_nodup (Tree.namesIn_nodup ht l)
  refine ⟨fun limit => choose limit (candidates t directory.toList (t.namesIn l)), ?_, ?_, ?_⟩
  · have hfiles : (· ∈ candidates t directory.toList (t.namesIn l)) = IsFileOf t directory.toList :=
      funext fun e => propext (mem_candidates hd.leads)
    rw [← hfiles]
    exact choose_taken hnames
  · exact fun limit => ⟨files_ok hd, paths_nodup (choose_names_nodup hnames limit)⟩
  · intro t' h limit
    have hd' : t'.Lists directory.toList l := h.lists ht hd
    have hcandidates : (candidates t' directory.toList (t'.namesIn l)).Perm
        (candidates t directory.toList (t.namesIn l)) := by
      have hsame : candidate? t' directory.toList = candidate? t directory.toList := by
        funext name
        simp only [candidate?, h.stat_eq ht]
      rw [candidates, candidates, hsame]
      exact (h.namesIn_perm l).filterMap _
    rw [files_ok hd', files_ok hd, choose_congr hnames hcandidates]

/-- A directory with a link to a file, a link to nothing and a directory in it: of two files that
are just as old, the link among them, the one whose name comes first is taken first. -/
theorem files_taken_two :
    let d : Location := ["d".toList]
    let t : Tree := { nodes := [(d, .directory), (d ++ ["c".toList], .file [] (.given 7)),
      (d ++ ["a".toList], .file [] (.given 5)), (d ++ ["b".toList], .link "../x".toList),
      (d ++ ["gone".toList], .link "nowhere".toList), (d ++ ["sub".toList], .directory),
      (["x".toList], .file [] (.given 7))] }
    t.places.Nodup ∧ t.Lists "d".toList d ∧
      ∀ t', Tree.Reordered t t' → files t' "d" 2 = .ok ["d/b", "d/c"] := by
  intro d t
  have ht : t.places.Nodup := by decide
  have hd : t.Lists "d".toList d := ⟨rfl, rfl, rfl⟩
  obtain ⟨taken, -, -, hreordered⟩ := files_taken ht hd
  have htwo : files t "d" 2 = .ok ["d/b", "d/c"] := by
    -- Sorting does not evaluate, so it is shown what the order is.
    have hp : (candidates t "d".toList (t.namesIn d)).Perm
        [⟨['b'], .given 7⟩, ⟨['c'], .given 7⟩, ⟨['a'], .given 5⟩] := by decide
    rw [files_ok hd, choose_of_pos (by decide), byAge_orders.mergeSort_eq (by decide) (by decide) hp]
    rfl
  exact ⟨ht, hd, fun t' h => (hreordered t' h 2).trans htwo⟩

end Selection

end Rollout
