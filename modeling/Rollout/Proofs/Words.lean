import Rollout.Backup
import Rollout.Operation
import Rollout.Text.Blank

/-!
# Words

A word is a text that is not empty and has no blank in it. Put side by side with blanks between
them, words can be read back, and the paths that commands give to backups are words, those with a
date on them included.

* `words_append`: the first word of a text is what stands before its first blank.
* `Date.stamp_not_isBlank`: a date has no blanks in it, so that a path stays a word when it gets a date.
* `Operation.ofCommand_paths_isWord`: the paths of a backup are words.
-/

namespace Rollout

namespace Text

variable {w rest : List Char}

theorem split_eq_singleton {p : Char → Bool} (h : ∀ c ∈ w, p c = false) : split p w = [w] := by
  induction w with
  | nil => rfl
  | cons c w ih =>
    have hc : p c = false := h c List.mem_cons_self
    have hw : ∀ d ∈ w, p d = false := fun d hd => h d (List.mem_cons_of_mem c hd)
    rw [split, hc, ih hw]
    rfl

/-- The pieces before a place of cutting, and those after it. -/
theorem split_append_cons {p : Char → Bool} {d : Char} (hd : p d = true) (s t : List Char) :
    split p (s ++ d :: t) = split p s ++ split p t := by
  induction s with
  | nil => simp [split, hd]
  | cons c s ih =>
    rw [List.cons_append, split, split, ih]
    by_cases hc : p c = true
    · simp [hc]
    · rw [if_neg hc, if_neg hc]
      cases hs : split p s with
      | nil => exact absurd hs (split_ne_nil p s)
      | cons w ws => rfl

theorem split_append {p : Char → Bool} {d : Char} (h : ∀ c ∈ w, p c = false) (hd : p d = true) :
    split p (w ++ d :: rest) = w :: split p rest := by
  rw [split_append_cons hd, split_eq_singleton h]
  rfl

theorem words_append_cons {d : Char} (hd : isBlank d = true) (s t : List Char) :
    words (s ++ d :: t) = words s ++ words t := by
  rw [words, split_append_cons hd, List.filter_append, ← words, ← words]

theorem words_singleton (hne : w ≠ []) (h : ∀ c ∈ w, isBlank c = false) : words w = [w] := by
  simp [words, split_eq_singleton h, hne]

theorem words_append {d : Char} (hne : w ≠ []) (h : ∀ c ∈ w, isBlank c = false)
    (hd : isBlank d = true) : words (w ++ d :: rest) = w :: words rest := by
  simp [words, split_append h hd, hne]

end Text

/-- A text that is not empty and has no blank in it. -/
def IsWord (s : String) : Prop := s ≠ "" ∧ s.toList.any Text.isBlank = false

instance (s : String) : Decidable (IsWord s) := inferInstanceAs (Decidable (_ ∧ _))

namespace IsWord

variable {s t : String}

theorem toList_ne_nil (h : IsWord s) : s.toList ≠ [] := by
  intro hs
  exact h.1 (String.toList_eq_nil_iff.1 hs)

theorem not_isBlank (h : IsWord s) : ∀ c ∈ s.toList, Text.isBlank c = false := by
  simpa using h.2

/-- A word with more at its end. -/
theorem append (h : IsWord s) (ht : t.toList.any Text.isBlank = false) : IsWord (s ++ t) := by
  refine ⟨by simp [h.1], ?_⟩
  rw [String.toList_append, List.any_append, h.2, ht]
  rfl

theorem ofList_of_mem_words {w l : List Char} (h : w ∈ Text.words l) :
    IsWord (String.ofList w) := by
  refine ⟨?_, ?_⟩
  · intro hw
    exact Text.ne_nil_of_mem_words h (by simpa using congrArg String.toList hw)
  · rw [String.toList_ofList]
    simpa using Text.not_isBlank_of_mem_words h

theorem isAllBlank_eq_false (h : IsWord s) : s.isAllBlank = false := by
  obtain ⟨c, l, hs⟩ := List.exists_cons_of_ne_nil h.toList_ne_nil
  have hc : Text.isBlank c = false := h.not_isBlank c (by simp [hs])
  simp [String.isAllBlank, hs, hc]

theorem words_toList (h : IsWord s) : Text.words s.toList = [s.toList] :=
  Text.words_singleton h.toList_ne_nil h.not_isBlank

theorem words_append (h : IsWord s) (t : String) :
    Text.words (s ++ " " ++ t).toList = s.toList :: Text.words t.toList := by
  rw [String.append_assoc, String.toList_append, String.toList_append]
  exact Text.words_append h.toList_ne_nil h.not_isBlank (by decide : Text.isBlank ' ' = true)

end IsWord

/-! ## Dates -/

namespace Date

theorem not_isBlank_of_isDigit {c : Char} (h : c.isDigit = true) : Text.isBlank c = false := by
  rw [Char.isDigit_iff_toNat] at h
  have h0 : '0'.toNat = 48 := rfl
  have h9 : '9'.toNat = 57 := rfl
  simp only [Text.isBlank, Bool.or_eq_false_iff, Bool.and_eq_false_iff, decide_eq_false_iff_not,
    beq_eq_false_iff_ne]
  omega

theorem padded_not_isBlank (width n : Nat) :
    ∀ c ∈ (padded width n).toList, Text.isBlank c = false := by
  intro c hc
  simp only [padded, String.toList_append, List.mem_append, String.toList_ofList] at hc
  rcases hc with hc | hc
  · rw [List.eq_of_mem_replicate hc]
    rfl
  · rw [Nat.toString_eq_ofList_toDigits, String.toList_ofList] at hc
    exact not_isBlank_of_isDigit (Nat.isDigit_of_mem_toDigits (by decide) (by decide) hc)

theorem yearText_not_isBlank (year : Int) :
    ∀ c ∈ (yearText year).toList, Text.isBlank c = false := by
  unfold yearText
  split
  · exact padded_not_isBlank 4 year.toNat
  · intro c hc
    rw [String.toList_append, List.mem_append] at hc
    rcases hc with hc | hc
    · split at hc <;> simp at hc <;> subst hc <;> rfl
    · exact padded_not_isBlank 4 year.natAbs c hc

theorem stamp_not_isBlank (d : Date) : d.stamp.toList.any Text.isBlank = false := by
  rw [List.any_eq_false]
  intro c hc
  rw [Bool.not_eq_true]
  simp only [stamp, String.toList_append, List.mem_append] at hc
  rcases hc with (hc | hc) | hc
  · exact yearText_not_isBlank d.year c hc
  · exact padded_not_isBlank 2 d.month c hc
  · exact padded_not_isBlank 2 d.day c hc

end Date

namespace Backup

theorem renamePath_isWord {path : String} (h : IsWord path) (d : Date) :
    IsWord (renamePath path d) := by
  have hdash : IsWord (path ++ "-") := h.append (by decide)
  exact hdash.append d.stamp_not_isBlank

theorem length_renamePath (path : String) (d : Date) :
    (renamePath path d).length = path.length + 1 + d.stamp.length := by
  simp only [renamePath, String.length_append]
  rfl

theorem renamePath_ne (path : String) (d : Date) : renamePath path d ≠ path := by
  intro h
  have hlength := congrArg String.length h
  rw [length_renamePath] at hlength
  omega

theorem archivePath_isWord {name : String} (h : IsWord name) (d : Date) :
    IsWord (archivePath name d) := by
  have hdot : IsWord (name ++ ".") := h.append (by decide)
  exact (hdot.append d.stamp_not_isBlank).append (by decide)

end Backup

/-! ## Commands -/

/-- The paths that an operation gives to the shell. -/
def Operation.shellPaths : Operation → List String
  | .backup path => [path]
  | .zipBackup archive paths => archive :: paths
  | _ => []

theorem Operation.ofWords_shellPaths {word : List Char} {args : List (List Char)} {o : Operation}
    (h : ofWords word args = some o) : ∀ p ∈ o.shellPaths, ∃ w ∈ args, p = String.ofList w := by
  rcases args with _ | ⟨a, _ | ⟨b, rest⟩⟩ <;> simp only [ofWords] at h
  · cases h
  · split at h
    · cases h
      simp [shellPaths]
    · cases h
  split at h
  · cases h
    intro p hp
    have hmap : p ∈ (a :: b :: rest).map String.ofList := hp
    obtain ⟨w, hw, rfl⟩ := List.mem_map.1 hmap
    exact ⟨w, hw, rfl⟩
  -- Of all other operations, none gives a path to the shell.
  · split at h
    · cases h
    · split at h
      · cases h
        simp [shellPaths]
      · split at h
        · rw [Option.map_eq_some_iff] at h
          obtain ⟨n, -, rfl⟩ := h
          simp [shellPaths]
        · cases h

/-- **The paths of a backup are words**, as they come from the words of a command. -/
theorem Operation.ofCommand_paths_isWord (command : String) :
    ∀ p ∈ (ofCommand command).shellPaths, IsWord p := by
  intro p hp
  unfold ofCommand at hp
  split at hp
  · simp [shellPaths] at hp
  · rename_i word args hw
    rcases ho : ofWords (word.map Char.toLower) args with _ | o
    · rw [ho] at hp
      simp [shellPaths] at hp
    · rw [ho] at hp
      obtain ⟨w, hmem, rfl⟩ := ofWords_shellPaths ho p hp
      have hwords : w ∈ Text.words command.toList := by
        rw [hw]
        exact List.mem_cons_of_mem word hmem
      exact IsWord.ofList_of_mem_words hwords

end Rollout
