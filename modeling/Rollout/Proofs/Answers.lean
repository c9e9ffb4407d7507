import Rollout.Password
import Rollout.Plan
import Rollout.Proofs.Failure
import Rollout.Proofs.Utf8

/-!
# What is typed before a run

Two things may be typed: an answer to the question under the plan, and a password. What each means is
told here without the functions that read them.

* `Plan.SaysYes`: the texts that say yes. `Plan.FirstLine`: the line of the input that is the answer.
* `Plan.answer_eq_some_iff`, `Plan.answer_eq_none_iff`: an answer is a line that is UTF-8, and it is
  taken for yes exactly if it says so.
* `Password.ask_eq_ok_iff`, `Password.ask_eq_error_iff`: a password is a line that is not blank.
-/

namespace Rollout

namespace Text

variable {s before word after : List Char} {c : Char}

theorem toLower_of_isBlank (h : isBlank c = true) : c.toLower = c := by
  unfold Char.toLower
  by_cases hc : c.val ≥ 'A'.val ∧ c.val ≤ 'Z'.val
  · obtain ⟨h₁, h₂⟩ : 65 ≤ c.toNat ∧ c.toNat ≤ 90 := hc
    simp only [isBlank, Bool.or_eq_true, Bool.and_eq_true, decide_eq_true_eq, beq_iff_eq] at h
    omega
  · rw [dif_neg hc]

/-- A text is its trimmed self between blanks. -/
theorem trim_between (s : List Char) : ∃ before after, s = before ++ trim s ++ after ∧
    (∀ c ∈ before, isBlank c = true) ∧ ∀ c ∈ after, isBlank c = true := by
  have hstart : s.takeWhile isBlank ++ trimStart s = s := List.takeWhile_append_dropWhile
  have hend : trim s ++ (trimStart s).rtakeWhile isBlank = trimStart s :=
    List.rdropWhile_append_rtakeWhile
  refine ⟨s.takeWhile isBlank, (trimStart s).rtakeWhile isBlank, ?_, ?_, ?_⟩
  · rw [List.append_assoc, hend, hstart]
  · exact fun c => List.mem_takeWhile_imp
  · exact fun c => List.mem_rtakeWhile_imp

/-- Words without blanks are what is left. -/
theorem trim_append (hb : ∀ c ∈ before, isBlank c = true) (ha : ∀ c ∈ after, isBlank c = true)
    (hw : ∀ c ∈ word, isBlank c = false) : trim (before ++ word ++ after) = word := by
  have hstays (w : List Char) (h : ∀ c ∈ w, isBlank c = false) : w.dropWhile isBlank = w := by
    cases w with
    | nil => rfl
    | cons c w => exact List.dropWhile_cons_of_neg (by simp [h c])
  cases word with
  | nil => exact Backup.trim_eq_nil.mpr (by simpa [or_imp, forall_and] using ⟨hb, ha⟩)
  | cons c word =>
    have hc : ¬ isBlank c = true := by simp [hw c]
    unfold trim trimEnd trimStart
    rw [List.append_assoc, List.dropWhile_append_of_pos hb, List.cons_append,
      List.dropWhile_cons_of_neg hc, ← List.cons_append, List.reverse_append,
      List.dropWhile_append_of_pos (by simpa using ha), hstays _ fun d hd => hw d (List.mem_reverse.mp hd),
      List.reverse_reverse]

end Text

namespace Plan

/-- A text that says yes: `y` or `yes` in letters of either case, with blanks around. -/
inductive SaysYes : List Char → Prop
  | intro {before word after : List Char} : (∀ c ∈ before, Text.isBlank c = true) →
      (∀ c ∈ after, Text.isBlank c = true) →
      word.map Char.toLower = ['y'] ∨ word.map Char.toLower = ['y', 'e', 's'] →
      SaysYes (before ++ word ++ after)

theorem isBlank_of_toLower {word : List Char}
    (hw : word.map Char.toLower = ['y'] ∨ word.map Char.toLower = ['y', 'e', 's']) :
    ∀ c ∈ word, Text.isBlank c = false := by
  intro c hc
  by_contra hblank
  rw [Bool.not_eq_false] at hblank
  have hmem : c ∈ word.map Char.toLower :=
    List.mem_map.mpr ⟨c, hc, Text.toLower_of_isBlank hblank⟩
  rcases hw with hw | hw <;> rw [hw] at hmem <;> simp at hmem
  · subst hmem; exact absurd hblank (by decide)
  · rcases hmem with rfl | rfl | rfl <;> exact absurd hblank (by decide)

theorem isYes_iff {line : List Char} : isYes line = true ↔ SaysYes line := by
  unfold isYes
  simp only [Bool.or_eq_true, decide_eq_true_eq]
  constructor
  · intro h
    obtain ⟨before, after, hline, hb, ha⟩ := Text.trim_between line
    rw [hline]
    exact .intro hb ha h
  · rintro ⟨hb, ha, hw⟩
    rwa [Text.trim_append hb ha (isBlank_of_toLower hw)]

/-- The first line of an input, with the line feed that ends it if there is one. -/
inductive FirstLine : List UInt8 → List UInt8 → Prop
  | ended {line rest : List UInt8} : 10 ∉ line → FirstLine (line ++ 10 :: rest) (line ++ [10])
  | last {line : List UInt8} : 10 ∉ line → FirstLine line line

variable {input line : List UInt8}

theorem firstLine_isFirst (input : List UInt8) : FirstLine input (firstLine input).1 := by
  induction input with
  | nil => exact .last (by simp)
  | cons a input ih =>
    unfold firstLine
    by_cases ha : a = 10
    · rw [if_pos ha, ha]
      exact @FirstLine.ended [] _ (by simp)
    · rw [if_neg ha]
      simp only
      generalize (firstLine input).1 = line at ih
      cases ih with
      | ended h => exact @FirstLine.ended (a :: _) _ (by simp [h, Ne.symm ha])
      | last h => exact .last (by simp [h, Ne.symm ha])

theorem firstLine_ended {rest : List UInt8} (h : 10 ∉ line) :
    firstLine (line ++ 10 :: rest) = (line ++ [10], rest) := by
  induction line with
  | nil => rfl
  | cons a line ih =>
    obtain ⟨ha, hline⟩ : a ≠ 10 ∧ 10 ∉ line := by simpa [eq_comm] using h
    rw [List.cons_append, firstLine, if_neg ha, ih hline]
    rfl

theorem firstLine_last (h : 10 ∉ line) : firstLine line = (line, []) := by
  induction line with
  | nil => rfl
  | cons a line ih =>
    obtain ⟨ha, hline⟩ : a ≠ 10 ∧ 10 ∉ line := by simpa [eq_comm] using h
    rw [firstLine, if_neg ha, ih hline]

theorem firstLine_eq_iff : (firstLine input).1 = line ↔ FirstLine input line := by
  constructor
  · rintro rfl
    exact firstLine_isFirst input
  · rintro (h | h)
    · rw [firstLine_ended h]
    · rw [firstLine_last h]

/-- An answer is a first line that is UTF-8, and it is yes exactly if it says so. -/
theorem answer_eq_some_iff {b : Bool} : (answer input).1 = some b ↔
    ∃ line text, FirstLine input line ∧ line = Utf8.encode text ∧ (b = true ↔ SaysYes text) := by
  have hanswer : (answer input).1 = (Utf8.decode? (firstLine input).1).map isYes := rfl
  rw [hanswer, Option.map_eq_some_iff]
  constructor
  · rintro ⟨text, htext, rfl⟩
    exact ⟨_, text, firstLine_isFirst input, Utf8.decode?_eq_some_iff.mp htext, isYes_iff⟩
  · rintro ⟨line, text, hfirst, hline, hb⟩
    refine ⟨text, ?_, ?_⟩
    · rw [firstLine_eq_iff.mpr hfirst]
      exact Utf8.decode?_eq_some_iff.mpr hline
    · rw [Bool.eq_iff_iff, isYes_iff, hb]

theorem answer_eq_none_iff : (answer input).1 = none ↔
    ∃ line, FirstLine input line ∧ ∀ text, line ≠ Utf8.encode text := by
  have hanswer : (answer input).1 = (Utf8.decode? (firstLine input).1).map isYes := rfl
  rw [hanswer, Option.map_eq_none_iff]
  constructor
  · intro h
    refine ⟨_, firstLine_isFirst input, fun text htext => ?_⟩
    rw [Utf8.decode?_eq_some_iff.mpr htext] at h
    cases h
  · rintro ⟨line, hfirst, hline⟩
    rw [firstLine_eq_iff.mpr hfirst, Option.eq_none_iff_forall_ne_some]
    exact fun text htext => hline text (Utf8.decode?_eq_some_iff.mp htext)

end Plan

namespace Password

variable {keys : Option (List Char)}

theorem trim_eq_nil_iff {line : List Char} :
    Text.trim line = [] ↔ ∀ c ∈ line, Text.isBlank c = true := by
  rw [Backup.trim_eq_nil, List.all_eq_true]

theorem ask_line {k line : List Char} (h : typed k = .line line) :
    ask (some k) =
      if Text.trim line = [] then
        some (.error (.runtime "Password cannot be empty" (some "Enter a password when prompted")))
      else some (.ok (String.ofList (Text.trim line))) := by
  simp only [ask, Option.map_some, h]

/-- A password is a typed line that is not blank, without the blanks around it. -/
theorem ask_eq_ok_iff {password : String} : ask keys = some (.ok password) ↔
    ∃ k line, keys = some k ∧ typed k = .line line ∧ ¬(∀ c ∈ line, Text.isBlank c = true) ∧
      password = String.ofList (Text.trim line) := by
  rcases keys with _ | k
  · simp [ask]
  rcases h : typed k with line | _ | _
  · rw [ask_line h]
    by_cases hline : ∀ c ∈ line, Text.isBlank c = true
    · rw [if_pos (trim_eq_nil_iff.mpr hline)]
      simp only [Option.some.injEq, reduceCtorEq, false_iff]
      rintro ⟨k', line', rfl, h', hline', -⟩
      rw [h] at h'
      cases h'
      exact hline' hline
    · rw [if_neg (mt trim_eq_nil_iff.mp hline)]
      constructor
      · intro hp
        cases hp
        exact ⟨k, line, rfl, h, hline, rfl⟩
      · rintro ⟨k', line', hk, h', -, rfl⟩
        cases hk
        rw [h] at h'
        cases h'
        rfl
  · simp [ask, h]
  · simp [ask, h]

/-- No password can be read if there is no terminal, the keys end too soon, or the line is blank. -/
theorem ask_eq_error_iff : (∃ e, ask keys = some (.error e)) ↔
    keys = none ∨ ∃ k, keys = some k ∧
      (typed k = .endOfInput ∨ ∃ line, typed k = .line line ∧ ∀ c ∈ line, Text.isBlank c = true) := by
  rcases keys with _ | k
  · simp [ask]
  rcases h : typed k with line | _ | _
  · rw [ask_line h]
    by_cases hline : ∀ c ∈ line, Text.isBlank c = true
    · rw [if_pos (trim_eq_nil_iff.mpr hline)]
      exact iff_of_true ⟨_, rfl⟩ (.inr ⟨k, rfl, .inr ⟨line, h, hline⟩⟩)
    · rw [if_neg (mt trim_eq_nil_iff.mp hline)]
      refine iff_of_false (by simp) ?_
      rintro (hk | ⟨k', hk, h' | ⟨line', h', hline'⟩⟩) <;> cases hk <;> rw [h] at h' <;> cases h'
      exact hline hline'
  · simp [ask, h]
  · simp [ask, h]

end Password

end Rollout
