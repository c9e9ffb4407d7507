import Mathlib.Data.List.Forall2
import Rollout.Proofs.Failure
import Rollout.Proofs.LocalCopy

/-!
# What local uploads do

Uploads to this machine are copies, one after another. Where they go is settled by the tree they
start from, as no copy changes where paths lead. A place is where a file is kept: to all names of one
file there is one place.

* `Move` is a copy by the places it is between; `Move.after` is what it makes of the contents of
  files.
* `moves_of_inTurn`: files that are sent in turn are as many moves, made in turn.
* `Apart` are moves that do not get in the way of each other, nor of themselves.
* `upload_spec`: what an upload of a file or of a directory makes of all files.
* `upload_onto_itself_empties` is an upload that gets in its own way, and succeeds.
-/

namespace Rollout

open Rollout.Tree

/-- The files that an operation sends, each with where it goes. -/
def Operation.sends (t : Tree) : Operation → List (String × String)
  | .upload source destination => [(source, destination)]
  | .uploadDir source destination limit =>
    match Selection.files t source limit.toNat with
    | .ok files => files.map fun file => (file, Engine.destinationOf destination file)
    | .error _ => []
  | _ => []

theorem Operation.sends_uploadDir {t : Tree} {source : String} {limit : UInt64}
    {files : List String} (destination : String)
    (h : Selection.files t source limit.toNat = .ok files) :
    (Operation.uploadDir source destination limit).sends t =
      files.map fun file => (file, Engine.destinationOf destination file) := by
  simp only [sends, h]

/-- Whether an operation sends files. -/
def Operation.isSend : Operation → Bool
  | .upload .. | .uploadDir .. => true
  | _ => false

namespace Local

/-- A copy by the places it is between. -/
structure Move where
  source : Location
  target : Location
  deriving Repr, DecidableEq

/-- The contents of files, by their places. -/
abbrev Contents := Location → Option (List UInt8)

namespace Move

/-- What a move makes of the contents of files: its target gets the content of its source, or none
if it is the source itself. What goes to the file that is always empty is lost. -/
def after (t : Tree) (a : Contents) (m : Move) : Contents :=
  if t.node? m.target = some .null then a
  else Function.update a m.target (if m.target = m.source then some [] else a m.source)

/-- Whether a move is between the places that two paths lead to. -/
def Joins (t : Tree) (paths : String × String) (m : Move) : Prop :=
  t.target paths.1.toList = .ok m.source ∧ t.target paths.2.toList = .ok m.target

variable {t : Tree} {a : Contents} {l : Location}

theorem after_of_ne {m : Move} (h : l ≠ m.target) : m.after t a l = a l := by
  unfold after
  split
  · rfl
  · exact Function.update_of_ne h _ a

theorem foldl_after_of_not_mem (moves : List Move) :
    ∀ a : Contents, l ∉ moves.map (·.target) → moves.foldl (after t) a l = a l := by
  induction moves with
  | nil => exact fun _ _ => rfl
  | cons m moves ih =>
    intro a hl
    rw [List.map_cons, List.mem_cons, not_or] at hl
    rw [List.foldl_cons, ih _ hl.2, after_of_ne hl.1]

end Move

/-- Moves that leave each other's files alone: no two go to the same place, none goes to a place
that one starts from, and none to the file that is always empty. -/
structure Apart (t : Tree) (moves : List Move) : Prop where
  targets : (moves.map (·.target)).Nodup
  sources : ∀ m ∈ moves, ∀ n ∈ moves, m.target ≠ n.source
  kept : ∀ m ∈ moves, t.node? m.target ≠ some .null

namespace Apart

variable {t : Tree} {moves : List Move} {m : Move}

theorem source_not_mem (h : Apart t moves) (hm : m ∈ moves) :
    m.source ∉ moves.map (·.target) := by
  intro hmem
  obtain ⟨n, hn, heq⟩ := List.mem_map.1 hmem
  exact h.sources n hn m hm heq

theorem tail {moves : List Move} (h : Apart t (m :: moves)) : Apart t moves where
  targets := (List.nodup_cons.1 h.targets).2
  sources k hk n hn := h.sources k (List.mem_cons_of_mem m hk) n (List.mem_cons_of_mem m hn)
  kept k hk := h.kept k (List.mem_cons_of_mem m hk)

/-- **Moves that are apart carry everything over.** -/
theorem carried_over (moves : List Move) : Apart t moves → ∀ (a : Contents), ∀ m ∈ moves,
    moves.foldl (Move.after t) a m.target = a m.source := by
  induction moves with
  | nil =>
    intro _ _ m hm
    cases hm
  | cons k moves ih =>
    intro h a m hm
    rw [List.foldl_cons]
    rcases List.mem_cons.1 hm with rfl | hm'
    · have hlast : m.target ∉ moves.map (·.target) := (List.nodup_cons.1 h.targets).1
      have hself : m.target ≠ m.source := h.sources m hm m hm
      rw [Move.foldl_after_of_not_mem moves _ hlast, Move.after, if_neg (h.kept m hm),
        Function.update_self, if_neg hself]
    · have hsource : m.source ≠ k.target := (h.sources k List.mem_cons_self m hm).symm
      rw [ih h.tail _ m hm', Move.after_of_ne hsource]

end Apart

/-! ## Sending files -/

theorem Carries.bytes?_eq {t₀ t t' : Tree} {b : List UInt8} {w : Moment} {m : Move}
    (h : Carries b m.source m.target t t') (hg : Grown t₀ t)
    (hb : t.node? m.source = some (.file b w)) : t'.bytes? = m.after t₀ t.bytes? := by
  funext l
  by_cases hl : l = m.target
  · subst hl
    by_cases hnull : t.node? m.target = some .null
    · rw [Move.after, if_pos (hg.null_iff.1 hnull)]
      exact Tree.bytes?_eq ((h.null hnull).trans hnull.symm)
    · have hnull' : t₀.node? m.target ≠ some .null := fun hn => hnull (hg.null_iff.2 hn)
      obtain ⟨w', hw'⟩ := h.file hnull
      rw [Move.after, if_neg hnull', Function.update_self]
      have hbytes : t'.bytes? m.target = some (if m.target = m.source then [] else b) := by
        unfold Tree.bytes?
        rw [hw']
      have hsource : t.bytes? m.source = some b := by
        unfold Tree.bytes?
        rw [hb]
      rw [hbytes, hsource]
      split <;> rfl
  · rw [Move.after_of_ne hl]
    exact Tree.bytes?_eq (h.others l hl)

variable {g : Settings} {x : Session} {target : Target}

theorem sent_carries {source destination : String} {s s' : State}
    (h : Conduct.Sent connector target source destination s none s') :
    ∃ p l b w, s.files.target source.toList = .ok p ∧ s.files.node? p = some (.file b w) ∧
      s.files.target destination.toList = .ok l ∧ Carries b p l s.files s'.files := by
  cases h with
  | whole hstat hopen hupload =>
    cases hopen
    obtain ⟨hreply, rfl⟩ := Prod.mk.inj hupload
    obtain ⟨p, l, hp, hnode, hl, hc⟩ := copy_carries hstat hreply
    exact ⟨p, l, _, _, hp, hnode, hl, hc⟩

/-- What moves, made in turn, make of a tree, where `t₀` is the tree that they all started from. -/
structure Moved (t₀ t t' : Tree) (moves : List Move) : Prop where
  grown : Grown t t'
  contents : t'.bytes? = moves.foldl (Move.after t₀) t.bytes?
  others : ∀ l, l ∉ moves.map (·.target) → t'.node? l = t.node? l
  sources : ∀ m ∈ moves, (t'.bytes? m.source).isSome = true

/-- **Files that are sent in turn** are as many moves between the places their paths lead to. -/
theorem moves_of_inTurn {α : Type} (f : α → String × String) (t₀ : Tree) (l : List α) :
    ∀ {s s' : State}, Grown t₀ s.files →
      Conduct.InTurn (fun a => Conduct.Sent connector target (f a).1 (f a).2) l s none s' →
      ∃ moves, List.Forall₂ (Move.Joins t₀) (l.map f) moves ∧
        Moved t₀ s.files s'.files moves := by
  induction l with
  | nil =>
    intro s s' hg h
    cases h
    refine ⟨[], .nil, .refl _, rfl, fun _ _ => rfl, ?_⟩
    intro m hm
    cases hm
  | cons a l ih =>
    intro s s' hg h
    cases h with
    | @cons _ _ _ s₁ _ _ hsent hrest =>
      obtain ⟨p, q, b, w, hp, hnode, hq, hc⟩ := sent_carries hsent
      have hg₁ : Grown t₀ s₁.files := hg.trans hc.grown
      obtain ⟨moves, hjoins, hmoved⟩ := ih hg₁ hrest
      have hcontents : s₁.files.bytes? = Move.after t₀ s.files.bytes? ⟨p, q⟩ :=
        Carries.bytes?_eq hc hg hnode
      refine ⟨⟨p, q⟩ :: moves, .cons ⟨hg.target_iff.1 hp, hg.target_iff.1 hq⟩ hjoins,
        hc.grown.trans hmoved.grown, ?_, ?_, ?_⟩
      · rw [List.foldl_cons, ← hcontents]
        exact hmoved.contents
      · intro m hm
        rw [List.map_cons, List.mem_cons, not_or] at hm
        rw [hmoved.others m hm.2, hc.others m hm.1]
      · intro m hm
        rcases List.mem_cons.1 hm with rfl | hm
        · have hsource : (s.files.bytes? p).isSome = true := by simp [Tree.bytes?, hnode]
          exact hmoved.grown.bytes?_isSome (hc.grown.bytes?_isSome hsource)
        · exact hmoved.sources m hm

/-- After moves that are apart, each target can be read as its source could, and still can. -/
theorem Moved.reads {t t' : Tree} {moves : List Move} (h : Moved t t t' moves)
    (ha : Apart t moves) {m : Move} (hm : m ∈ moves) {paths : String × String}
    (hj : m.Joins t paths) :
    ∃ b, t.read paths.1.toList = .ok b ∧ t'.read paths.1.toList = .ok b ∧
      t'.read paths.2.toList = .ok b := by
  obtain ⟨b, hb⟩ := Option.isSome_iff_exists.1 (h.sources m hm)
  have hsource : t'.bytes? m.source = t.bytes? m.source := by
    rw [h.contents]
    exact Move.foldl_after_of_not_mem moves t.bytes? (ha.source_not_mem hm)
  have htarget : t'.bytes? m.target = t.bytes? m.source := by
    rw [h.contents]
    exact ha.carried_over moves t.bytes? m hm
  have hb₀ : t.bytes? m.source = some b := by rw [← hsource, hb]
  exact ⟨b, read_eq hj.1 hb₀, read_eq (h.grown.target_iff.2 hj.1) hb,
    read_eq (h.grown.target_iff.2 hj.2) (htarget.trans hb₀)⟩

/-- An operation that sends files and succeeds has made as many moves as it had files to send. -/
theorem dispatch_moves {o : Operation} (ho : o.isSend = true) {v : Serving State}
    (hok : (Engine.dispatch connector g x target o v).result = .ok ()) :
    ∃ moves, List.Forall₂ (Move.Joins v.outside.files) (o.sends v.outside.files) moves ∧
      Moved v.outside.files v.outside.files
        (Engine.dispatch connector g x target o v).state.outside.files moves := by
  have hended : Conduct.Carried connector g x target o v.outside _ _ := Engine.dispatch_ended o v
  have hfailure : (Engine.dispatch connector g x target o v).failure? = none := by
    unfold Outcome.failure?
    rw [hok]
  rw [hfailure] at hended
  cases o with
  | raw command | backup path | zipBackup archive paths => cases ho
  | upload source destination =>
    cases hended with
    | upload hsent =>
      exact moves_of_inTurn id v.outside.files [(source, destination)] (.refl _)
        (.cons hsent .nil)
  | uploadDir source destination limit =>
    cases hended with
    | directory hnames hfiles hturn =>
      have hsends := Operation.sends_uploadDir (t := v.outside.files) destination hfiles
      rw [hsends]
      exact moves_of_inTurn (fun file => (file, Engine.destinationOf destination file))
        v.outside.files _ (.refl _) hturn

/-- **An upload of a file succeeds** if its destination leads to a place for a file, and nothing stands
in its way. -/
theorem dispatch_upload_ok {source destination : String} {p l : Location} {b : List UInt8}
    {w : Moment} {v : Serving State} (hp : v.outside.files.target source.toList = .ok p)
    (hnode : v.outside.files.node? p = some (.file b w))
    (hl : v.outside.files.target destination.toList = .ok l)
    (hfree : Unhindered v.outside.files p l) :
    let o := Engine.dispatch connector g x target (.upload source destination) v
    o.result = .ok () ∧ Carries b p l v.outside.files o.state.outside.files := by
  obtain ⟨hreply, hc⟩ := copy_ok target.host hp hnode hl hfree
  have hstat : v.outside.files.stat source.toList = .ok (.file b w) :=
    stat_ok_iff.2 ⟨p, get_file_iff.2 ⟨hp, hnode⟩⟩
  have hsize : Engine.sourceSize (connector.files v.outside) source = .ok b.length := by
    show Engine.sourceSize v.outside.files source = _
    simp [Engine.sourceSize, hstat]
  have hupload : connector.upload ⟨v.outside.opened, target.host⟩ source destination
      { v.outside with opened := v.outside.opened + 1 } =
        (.ok (), { v.outside with
          files := (copy target.host source destination v.outside.files).state
          opened := v.outside.opened + 1 }) := by
    show (replyOf (copy target.host source destination v.outside.files), _) = _
    rw [hreply]
  have hopen : connector.openTransfer target v.outside =
      (.ok ⟨v.outside.opened, target.host⟩,
        { v.outside with opened := v.outside.opened + 1 }) := rfl
  obtain ⟨record, ho⟩ := Engine.uploadFile_sent (g := g) hsize hopen hupload
  intro o
  have hcounted : o = _ := Engine.uploadCounted_ok (r := v.report) ho
  rw [hcounted]
  exact ⟨rfl, hc⟩

/-- **An upload of a file onto itself succeeds, and empties it**, by whatever paths and names the file
goes. -/
theorem dispatch_upload_onto_itself {source destination : String} {l : Location} {b : List UInt8}
    {w : Moment} {v : Serving State} (hs : v.outside.files.target source.toList = .ok l)
    (hl : v.outside.files.node? l = some (.file b w))
    (hd : v.outside.files.target destination.toList = .ok l)
    (hfree : Unhindered v.outside.files l l) :
    let o := Engine.dispatch connector g x target (.upload source destination) v
    o.result = .ok () ∧ o.state.outside.files.read source.toList = .ok [] := by
  intro o
  obtain ⟨hok, hc⟩ : o.result = .ok () ∧ Carries b l l v.outside.files o.state.outside.files :=
    dispatch_upload_ok hs hl hd hfree
  refine ⟨hok, ?_⟩
  have hne : v.outside.files.node? l ≠ some .null := by
    rw [hl]
    simp
  obtain ⟨w', hw'⟩ := hc.file hne
  rw [if_pos rfl] at hw'
  refine read_eq (hc.grown.target_iff.2 hs) ?_
  unfold bytes?
  rw [hw']

/-- **What uploads to this machine make of all files.** If an operation that sends files succeeds,
it has made as many moves as it had files to send, between the places that their paths led to at
first:

* every file holds what these moves, one after another, make of what all files held;
* nothing but the targets of the moves has changed;
* if the moves are apart, each destination can be read as its source could before, and so can each
  source. -/
theorem upload_spec {o : Operation} (ho : o.isSend = true) {v : Serving State}
    (hok : (Engine.dispatch connector g x target o v).result = .ok ()) :
    let t := v.outside.files
    let t' := (Engine.dispatch connector g x target o v).state.outside.files
    ∃ moves, List.Forall₂ (Move.Joins t) (o.sends t) moves ∧
      t'.bytes? = moves.foldl (Move.after t) t.bytes? ∧
      (∀ l, l ∉ moves.map (·.target) → t'.node? l = t.node? l) ∧
      (Apart t moves → ∀ paths ∈ o.sends t, ∃ b, t.read paths.1.toList = .ok b ∧
        t'.read paths.1.toList = .ok b ∧ t'.read paths.2.toList = .ok b) := by
  intro t t'
  obtain ⟨moves, hjoins, hmoved⟩ := dispatch_moves ho hok
  refine ⟨moves, hjoins, hmoved.contents, hmoved.others, ?_⟩
  intro ha paths hpaths
  obtain ⟨i, hi, rfl⟩ := List.getElem_of_mem hpaths
  have hi' : i < moves.length := by
    rw [← hjoins.length_eq]
    exact hi
  exact hmoved.reads ha (List.getElem_mem hi') (hjoins.get hi hi')

/-- A file that is sent to another path. -/
theorem upload_spec_two_paths :
    let t : Tree := { nodes := [([['a']], .file [104, 105] (.given 0))] }
    let v : Serving State := ⟨{ files := t }, { host := "localhost" }⟩
    let o := Engine.dispatch connector {} ⟨0, "localhost"⟩ ⟨"localhost", 22, "root", ""⟩
      (.upload "a" "b") v
    o.result = .ok () ∧ o.state.outside.files.read ['a'] = .ok [104, 105] ∧
      o.state.outside.files.read ['b'] = .ok [104, 105] := by
  intro t v o
  have ha : t.target "a".toList = .ok [['a']] := rfl
  have hb : t.target "b".toList = .ok [['b']] := rfl
  have hok : o.result = .ok () :=
    (dispatch_upload_ok (v := v) ha rfl hb ⟨rfl, rfl, rfl, rfl, rfl⟩).1
  obtain ⟨moves, hjoins, -, -, hreads⟩ := upload_spec (o := .upload "a" "b") rfl hok
  obtain ⟨m, ms, hj, hnil, rfl⟩ := List.forall₂_cons_left_iff.1 hjoins
  obtain rfl := List.forall₂_nil_left_iff.1 hnil
  have hsource : m.source = [['a']] := (Except.ok.inj (ha.symm.trans hj.1)).symm
  have htarget : m.target = [['b']] := (Except.ok.inj (hb.symm.trans hj.2)).symm
  have hvacant : t.node? [['b']] = none := rfl
  have hapart : Apart t [m] := by
    refine ⟨by simp, ?_, ?_⟩ <;> simp [hsource, htarget, hvacant]
  obtain ⟨b, hbefore, hafter, hdest⟩ := hreads hapart ("a", "b") List.mem_cons_self
  have hbytes : b = [104, 105] := Except.ok.inj (hbefore.symm.trans (read_eq ha rfl))
  rw [hbytes] at hafter hdest
  exact ⟨hok, hafter, hdest⟩

/-- A file that is sent to its own path is empty afterwards. -/
theorem upload_onto_itself_empties :
    let t : Tree := { nodes := [([['a']], .file [104, 105] (.given 0))] }
    let v : Serving State := ⟨{ files := t }, { host := "localhost" }⟩
    let o := Engine.dispatch connector {} ⟨0, "localhost"⟩ ⟨"localhost", 22, "root", ""⟩
      (.upload "a" "a") v
    t.read ['a'] = .ok [104, 105] ∧ o.result = .ok () ∧
      o.state.outside.files.read ['a'] = .ok [] := by
  intro t v o
  have htarget : t.target "a".toList = .ok [['a']] := rfl
  have hnode : t.node? [['a']] = some (.file [104, 105] (.given 0)) := rfl
  refine ⟨read_eq htarget rfl, ?_⟩
  exact dispatch_upload_onto_itself htarget hnode htarget ⟨rfl, rfl, rfl, rfl, rfl⟩

end Local

end Rollout
