import Mathlib.Data.List.TakeWhile
import Rollout.Proofs.Newest
import Rollout.Proofs.Outcome
import Rollout.Proofs.Words
import Rollout.Script

/-!
# Uploading a directory

The files of a directory are sent one after another, each in a session of its own and each to a
place of its own: its name in the directory of the other side. The first one that cannot be sent is
the last one that is tried, and those before it have arrived.

* `Path.remoteChild_child`: where a file of a directory goes. `Path.within_of_isTrimmed`: that is a
  name directly in the other directory.
* `Delivery`: what is done for one file, and how it ends; `Delivered`: files that all arrived.
* `Conducted`: files up to the first that fails. `uploadAll_conducted`: this is how files are sent.
* `uploadDir_conducted`: a directory is sent in this way.
-/

namespace Rollout

/-! ## Where files go -/

namespace Path

variable {directory name base : List Char}

/-- Whether a path leads to a name directly in a directory, as the two are written. -/
def Within (directory name path : List Char) : Prop :=
  isAbsolute path = isAbsolute directory ∧
    (components path).filter (· ≠ []) = (components directory).filter (· ≠ []) ++ [name]

/-- Whether a text is another one without the slashes at its end. -/
def IsTrimmed (directory base : List Char) : Prop :=
  base.getLast? ≠ some '/' ∧ ∃ k, directory = base ++ List.replicate k '/'

theorem isTrimmed (directory : List Char) :
    IsTrimmed directory (directory.reverse.dropWhile (· == '/')).reverse := by
  constructor
  · rw [List.getLast?_reverse]
    intro h
    have hhead := List.head?_dropWhile_not (· == '/') directory.reverse
    rw [h] at hhead
    cases hhead
  · obtain ⟨k, hk⟩ : ∃ k, directory.reverse.takeWhile (· == '/') = List.replicate k '/' :=
      ⟨_, List.eq_replicate_of_mem fun c hc => by simpa using List.mem_takeWhile_imp hc⟩
    refine ⟨k, ?_⟩
    rw [← List.reverse_replicate, ← hk, ← List.reverse_append, List.takeWhile_append_dropWhile,
      List.reverse_reverse]

theorem components_append (base name : List Char) :
    components (base ++ '/' :: name) = components base ++ components name :=
  Text.split_append_cons rfl base name

theorem components_fileName (h : IsFileName name) : components name = [name] :=
  Text.split_eq_singleton fun c hc => by
    rw [beq_eq_false_iff_ne]
    rintro rfl
    exact h.2.2.2 hc

theorem child_cases (directory name : List Char) :
    child directory name = name ∨ ∃ base, child directory name = base ++ '/' :: name := by
  unfold child
  split
  · rename_i h
    rcases h with rfl | h
    · exact .inl rfl
    · obtain ⟨base, rfl⟩ := List.getLast?_eq_some_iff.1 h
      exact .inr ⟨base, by simp⟩
  · exact .inr ⟨directory, rfl⟩

/-- A file in a directory goes by its name. -/
theorem fileName?_child (h : IsFileName name) (directory : List Char) :
    fileName? (child directory name) = some name := by
  obtain ⟨front, hfront⟩ : ∃ front, components (child directory name) = front ++ [name] := by
    rcases child_cases directory name with heq | ⟨base, heq⟩
    · exact ⟨[], by rw [heq, components_fileName h]; rfl⟩
    · exact ⟨components base, by rw [heq, components_append, components_fileName h]⟩
  obtain ⟨hne, hdot, hdots, -⟩ := h
  unfold fileName?
  rw [hfront, List.filter_append]
  simp [hne, hdot, hdots]

/-- **Where a file of a directory goes**: to its name, after the other directory and a slash. -/
theorem remoteChild_child (h : IsFileName name) (directory source : List Char) :
    remoteChild directory (child source name) =
      (directory.reverse.dropWhile (· == '/')).reverse ++ '/' :: name := by
  rw [remoteChild, fileName?_child h]
  rfl

theorem filter_components_slashes (base : List Char) (k : Nat) :
    (components (base ++ List.replicate k '/')).filter (· ≠ []) =
      (components base).filter (· ≠ []) := by
  induction k generalizing base with
  | zero => rw [List.replicate_zero, List.append_nil]
  | succ k ih =>
    have hempty : components [] = [[]] := rfl
    rw [List.replicate_succ, List.append_cons, ih, components_append, hempty]
    simp

theorem within_of_isTrimmed (h : IsFileName name) (hbase : IsTrimmed directory base)
    (hne : directory ≠ []) : Within directory name (base ++ '/' :: name) := by
  obtain ⟨-, k, rfl⟩ := hbase
  constructor
  · cases base with
    | cons c base => rfl
    | nil =>
      cases k with
      | zero => exact absurd rfl hne
      | succ k => rfl
  · rw [filter_components_slashes, components_append, components_fileName h, List.filter_append]
    simp [h.1]

end Path

/-! ## What is done for a file -/

/-- A local file, and the place it is to be sent to. -/
structure Sending where
  source : String
  destination : String

section

variable {σ : Type} (c : Connector σ) (g : Settings) (target : Target)

/-- What is done for one file, apart from the log, and the error if it fails: the file is looked at,
a session of its own is opened, and closed after the file was sent. That it was sent is shown at
last. -/
inductive Delivery (f : Sending) : σ → List Event → Option DeployError → σ → Prop
  | unreadable {s e} : Engine.sourceSize (c.files s) f.source = .error e →
      Delivery f s [.inspect f.source (.error e)] (some e) s
  | refused {s n e s₁} : Engine.sourceSize (c.files s) f.source = .ok n →
      c.openTransfer target s = (.error e, s₁) →
      Delivery f s [.inspect f.source (.ok n), .openTransfer target (.error e)] (some e) s₁
  | broken {s n y s₁ e s₂} : Engine.sourceSize (c.files s) f.source = .ok n →
      c.openTransfer target s = (.ok y, s₁) →
      c.upload y f.source f.destination s₁ = (.error e, s₂) →
      Delivery f s [.inspect f.source (.ok n), .openTransfer target (.ok y),
        .upload y f.source f.destination n (.error e), .closeTransfer y] (some e)
        (c.closeTransfer y s₂)
  | whole {s n y s₁ s₂} : Engine.sourceSize (c.files s) f.source = .ok n →
      c.openTransfer target s = (.ok y, s₁) →
      c.upload y f.source f.destination s₁ = (.ok (), s₂) →
      Delivery f s ([.inspect f.source (.ok n), .openTransfer target (.ok y),
        .upload y f.source f.destination n (.ok ()), .closeTransfer y] ++
        if g.terminal.quiet then [] else
          [.print [.plain "      ", Terminal.green "uploaded to", .plain (" " ++ f.destination)]])
        none (c.closeTransfer y s₂)

/-- Files that are all sent, one after another. -/
inductive Delivered : List Sending → σ → List Event → σ → Prop
  | nil (s) : Delivered [] s [] s
  | cons {f fs s l s₁ l' s₂} : Delivery c g target f s l none s₁ → Delivered fs s₁ l' s₂ →
      Delivered (f :: fs) s (l ++ l') s₂

/-- Files that are sent up to the first one that fails: how this ends, what is done apart from the
log, and how many files are counted. -/
inductive Conducted (files : List Sending) (v : Serving σ) :
    Except DeployError Unit → List Event → Serving σ → Prop
  | whole {l s'} : Delivered c g target files v.outside l s' →
      Conducted files v (.ok ()) l
        ⟨s', { v.report with uploaded := v.report.uploaded + files.length }⟩
  | stopped {before f after l s₁ l' e s'} : files = before ++ f :: after →
      Delivered c g target before v.outside l s₁ → Delivery c g target f s₁ l' (some e) s' →
      Conducted files v (.error e) (l ++ l')
        ⟨s', { v.report with uploaded := v.report.uploaded + before.length }⟩

end

variable {σ : Type} {c : Connector σ} {g : Settings} {target : Target} {v v' : Serving σ}

/-- One more file before others. -/
theorem Conducted.cons {f : Sending} {files : List Sending} {s₁ : σ} {l l' : List Event}
    {r : Except DeployError Unit} (hf : Delivery c g target f v.outside l none s₁)
    (h : Conducted c g target files
      ⟨s₁, { v.report with uploaded := v.report.uploaded + 1 }⟩ r l' v') :
    Conducted c g target (f :: files) v r (l ++ l') v' := by
  cases h with
  | whole hall =>
    -- The file counts as one more, and it is the first one of them.
    have hwhole := Conducted.whole (v := v) (.cons hf hall)
    rwa [List.length_cons, Nat.add_comm files.length, ← Nat.add_assoc] at hwhole
  | @stopped before f' after l₁ s₂ l₂ e s' hsplit hbefore hstop =>
    have hsplit' : f :: files = (f :: before) ++ f' :: after := by rw [hsplit, List.cons_append]
    have hstopped := Conducted.stopped (v := v) hsplit' (.cons hf hbefore) hstop
    rwa [List.length_cons, Nat.add_comm before.length, ← Nat.add_assoc, List.append_assoc]
      at hstopped

namespace Engine

theorem uploadFile_delivery (f : Sending) (s : σ) :
    Delivery c g target f s (unlogged (uploadFile c g target f.source f.destination s).trace)
      (uploadFile c g target f.source f.destination s).failure?
      (uploadFile c g target f.source f.destination s).state := by
  rcases hn : sourceSize (c.files s) f.source with e | n
  · rw [uploadFile_unreadable hn]
    exact .unreadable hn
  rcases hy : c.openTransfer target s with ⟨e | y, s₁⟩
  · rw [uploadFile_refused hn hy]
    exact .refused hn hy
  rcases hu : c.upload y f.source f.destination s₁ with ⟨e | _, s₂⟩
  · rw [uploadFile_broken hn hy hu]
    simpa [Event.isLog, Outcome.failure?] using Delivery.broken hn hy hu
  · obtain ⟨record, h⟩ := uploadFile_sent (g := g) hn hy hu
    have hshown : (g.terminal.uploaded f.destination).map Event.print =
        if g.terminal.quiet then [] else [.print [.plain "      ", Terminal.green "uploaded to",
          .plain (" " ++ f.destination)]] := by
      unfold Terminal.uploaded Terminal.unlessQuiet
      split <;> rfl
    rw [h, hshown]
    have hwhole := Delivery.whole (g := g) hn hy hu
    cases hq : g.terminal.quiet <;> simpa [Event.isLog, Outcome.failure?, hq] using hwhole

/-- **Files are sent one after another**, up to the first that fails. -/
theorem uploadAll_conducted (directory : String) (files : List String) : ∀ v : Serving σ,
    Conducted c g target (files.map fun f => ⟨f, destinationOf directory f⟩) v
      (uploadAll c g target directory files v).result
      (unlogged (uploadAll c g target directory files v).trace)
      (uploadAll c g target directory files v).state := by
  induction files with
  | nil => exact fun v => .whole (.nil v.outside)
  | cons f files ih =>
    intro v
    have hfirst : Delivery c g target ⟨f, destinationOf directory f⟩ v.outside _ _ _ :=
      uploadFile_delivery ⟨f, destinationOf directory f⟩ v.outside
    rcases h : uploadFile c g target f (destinationOf directory f) v.outside with ⟨e | _, s₁, l⟩
    · rw [h] at hfirst
      have hall : uploadAll c g target directory (f :: files) v = ⟨.error e, ⟨s₁, v.report⟩, l⟩ :=
        Step.bind_error (uploadCounted_error h)
      rw [hall]
      exact Conducted.stopped (List.nil_append _).symm (.nil v.outside) hfirst
    · rw [h] at hfirst
      have hall : uploadAll c g target directory (f :: files) v =
          (uploadAll c g target directory files
            ⟨s₁, { v.report with uploaded := v.report.uploaded + 1 }⟩).after l :=
        Step.bind_ok (uploadCounted_ok h)
      rw [hall]
      simpa [Outcome.after] using
        Conducted.cons hfirst (ih ⟨s₁, { v.report with uploaded := v.report.uploaded + 1 }⟩)

/-- **A directory is sent file by file**, in the order its files are taken, each of them to its own
name directly in the other directory, and no two to one place. The first that fails ends it: those
before it have been sent, shown and counted, and none of those after it is so much as looked at. -/
theorem uploadDir_conducted (c : Connector σ) (g : Settings) (x : Session) (target : Target)
    (source destination : String) (limit : UInt64) {v : Serving σ} {files : List String}
    (ht : (c.files v.outside).WellFormed)
    (hf : Selection.files (c.files v.outside) source limit.toNat = .ok files) :
    (∃ base, Path.IsTrimmed destination.toList base ∧ ∀ f ∈ files, ∃ name, Path.IsFileName name ∧
      f = String.ofList (Path.child source.toList name) ∧
      destinationOf destination f = String.ofList (base ++ '/' :: name) ∧
      (destination ≠ "" → Path.Within destination.toList name (base ++ '/' :: name))) ∧
    (files.map (destinationOf destination)).Nodup ∧
    ∃ trace,
      unlogged (dispatch c g x target (.uploadDir source destination limit) v).trace =
        .choose source (.ok files) :: trace ∧
      Conducted c g target (files.map fun f => ⟨f, destinationOf destination f⟩) v
        (dispatch c g x target (.uploadDir source destination limit) v).result trace
        (dispatch c g x target (.uploadDir source destination limit) v).state := by
  obtain ⟨chosen, hfiles, hname, hdistinct⟩ := Selection.exists_chosen ht hf
  have hbase := Path.isTrimmed destination.toList
  set base := (destination.toList.reverse.dropWhile (· == '/')).reverse
  have hplace : ∀ e ∈ chosen, destinationOf destination (e.path source.toList) =
      String.ofList (base ++ '/' :: e.name) := fun e he => by
    rw [destinationOf, Selection.Candidate.path, String.toList_ofList,
      Path.remoteChild_child (hname e he)]
  refine ⟨⟨base, hbase, fun f hfile => ?_⟩, ?_, ?_⟩
  · rw [hfiles] at hfile
    obtain ⟨e, he, rfl⟩ := List.mem_map.1 hfile
    exact ⟨e.name, hname e he, rfl, hplace e he, fun hne =>
      Path.within_of_isTrimmed (hname e he) hbase (by simpa using hne)⟩
  · -- Different files have different names, and the places end in these.
    have hplaces : files.map (destinationOf destination) =
        (chosen.map (·.name)).map fun name => String.ofList (base ++ '/' :: name) := by
      rw [hfiles, List.map_map, List.map_map]
      exact List.map_congr_left hplace
    rw [hplaces]
    exact hdistinct.map fun name name' h =>
      (List.cons.inj (List.append_cancel_left (String.ofList_injective h))).2
  · obtain ⟨record, ho⟩ :=
      dispatch_uploadDir_ok (g := g) (x := x) (r := v.report) target destination hf
    refine ⟨unlogged (uploadAll c g target destination files v).trace, ?_, ?_⟩
    · rw [ho]
      simp [Outcome.after, Event.isLog]
    · rw [ho]
      exact uploadAll_conducted destination files v

/-- Two files, of which the second cannot be written. -/
theorem uploadDir_conducted_two :
    let d : Location := ["d".toList]
    let t : Tree := { nodes := [(d, .directory), (d ++ ["b".toList], .file [1] (.given 7)),
      (d ++ ["a".toList], .file [] (.given 5))] }
    let c := Script.connector { uploadFailures := [("/srv/b", "disk full")] }
    let v : Serving Script.State := ⟨Script.start {} t, { host := "web1" }⟩
    let target : Target := ⟨"web1", 22, "root", ""⟩
    let o := dispatch c {} ⟨0, "web1"⟩ target (.uploadDir "d" "/srv//" 0) v
    t.WellFormed ∧ Selection.files t "d" 0 = .ok ["d/a", "d/b"] ∧ o.state.report.uploaded = 1 ∧
      ∃ trace, Conducted c {} target [⟨"d/a", "/srv/a"⟩, ⟨"d/b", "/srv/b"⟩] v o.result trace
        o.state := by
  intro d t c v target o
  have ht : t.WellFormed := ⟨by decide, by decide, by decide⟩
  have hf : Selection.files t "d" 0 = .ok ["d/a", "d/b"] := by
    have hd : t.Lists "d".toList d := ⟨rfl, rfl, rfl⟩
    have hp : (Selection.candidates t "d".toList (t.namesIn d)).Perm
        [⟨['a'], .given 5⟩, ⟨['b'], .given 7⟩] := by decide
    rw [Selection.files_ok hd, Selection.choose_zero,
      Selection.byName_orders.mergeSort_eq (by decide) (by decide) hp]
    rfl
  have hone : o.state.report.uploaded = 1 := by
    have hchosen : Selection.files (c.files v.outside) "d" (0 : UInt64).toNat = .ok ["d/a", "d/b"] := hf
    obtain ⟨record, ho⟩ :=
      dispatch_uploadDir_ok (g := {}) (x := ⟨0, "web1"⟩) (r := v.report) target "/srv//" hchosen
    show (dispatch c {} ⟨0, "web1"⟩ target (.uploadDir "d" "/srv//" 0) v).state.report.uploaded = 1
    rw [ho]
    rfl
  obtain ⟨-, -, trace, -, h⟩ :=
    uploadDir_conducted c {} ⟨0, "web1"⟩ target "d" "/srv//" 0 (v := v) ht hf
  exact ⟨ht, hf, hone, trace, h⟩

end Engine

end Rollout
