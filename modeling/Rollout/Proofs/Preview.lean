import Mathlib.Data.List.Forall2
import Rollout.Plan

/-!
# The plan can be read back

Without color, what the plan shows is told apart by its line feeds and blank lines alone: a blank line
comes before every task and before the rule at the end, and nothing else that is shown is blank. So the
plan is one text for each list of labels and commands, whatever the commands look like.

* `lines_texts`: the lines of a plan are blocks with blank lines between them.
* `block_eq_iff`: a block tells the label and the commands of its task.
* `renderAll_lines_eq_iff`: two plans are the same text exactly if they show the same.
-/

namespace Rollout

/-! ## Pieces with one separator -/

section Separated

variable {α : Type} {x : α}

theorem intercalate_cons (x : α) (l : List α) (ls : List (List α)) :
    [x].intercalate (l :: ls) = l ++ ls.flatMap (x :: ·) := by
  induction ls generalizing l with
  | nil => simp
  | cons k ls ih => rw [List.intercalate_cons_cons, ih]; simp

theorem intercalate_concat_nil (x : α) (ls : List (List α)) :
    [x].intercalate (ls ++ [[]]) = ls.flatMap (· ++ [x]) := by
  induction ls with
  | nil => simp
  | cons l ls ih =>
    rw [List.cons_append, intercalate_cons, List.flatMap_cons, ← ih]
    cases ls <;> simp [intercalate_cons]

/-- Pieces in which the separator does not occur can be told from what they make together. -/
theorem intercalate_inj [BEq α] [LawfulBEq α] {ls ks : List (List α)} (hl : ∀ l ∈ ls, x ∉ l)
    (hk : ∀ k ∈ ks, x ∉ k) (hl₀ : ls ≠ []) (hk₀ : ks ≠ [])
    (h : [x].intercalate ls = [x].intercalate ks) : ls = ks := by
  rw [← List.splitOn_intercalate x hl hl₀, h, List.splitOn_intercalate x hk hk₀]

end Separated

namespace Line

theorem toList_renderAll (ls : List Line) : (renderAll false ls).toList =
    ['\n'].intercalate (ls.map (chars false) ++ [[]]) := by
  rw [renderAll, String.toList_ofList, intercalate_concat_nil, List.flatMap_map]

/-- Lines that are written without color are told apart by their ends. -/
theorem renderAll_inj {ls ks : List Line} (hl : ∀ l ∈ ls, '\n' ∉ chars false l)
    (hk : ∀ k ∈ ks, '\n' ∉ chars false k) (h : renderAll false ls = renderAll false ks) :
    ls.map (chars false) = ks.map (chars false) := by
  have hpieces {ls : List Line} (hl : ∀ l ∈ ls, '\n' ∉ chars false l) :
      ∀ l ∈ ls.map (chars false) ++ [[]], '\n' ∉ l := by
    simpa [or_imp, forall_and] using hl
  have hjoined := congrArg String.toList h
  rw [toList_renderAll, toList_renderAll] at hjoined
  have hboth := intercalate_inj (hpieces hl) (hpieces hk) (by simp) (by simp) hjoined
  exact List.append_cancel_right hboth

end Line

/-! ## What is shown of a task -/

/-- A task of which nothing that is shown has a line feed in it. -/
structure Task.FitsLines (t : Task) : Prop where
  username : '\n' ∉ t.username.toList
  host : '\n' ∉ t.host.toList
  commands : ∀ c ∈ t.commands, '\n' ∉ c.toList

namespace Plan

variable {t t' : Task} {ts ts' : List Task}

/-- The line with the label of a task. -/
def labelText (label : String) : List Char := ' ' :: ' ' :: (label.toList ++ [':'])

/-- The character that marks an operation. -/
def markChar : Operation → Char
  | .raw _ => '$'
  | .upload .. | .uploadDir .. => '↑'
  | .backup _ => '~'
  | .zipBackup .. => '+'

/-- The line of a command. -/
def commandText (command : String) : List Char :=
  ' ' :: ' ' :: ' ' :: ' ' :: markChar (.ofCommand command) :: ' ' :: command.toList

/-- The lines of a task, after the blank one. -/
def block (t : Task) : List (List Char) := labelText t.label :: t.commands.map commandText

/-- The line that counts the commands and the servers. -/
def countsText (ts : List Task) : List Char := Line.chars false <|
  [{ text := "Plan:", style := { bold := true, color := some .cyan } },
    .plain (" " ++ toString (Task.totalCommands ts) ++ " commands across " ++
      toString ts.length ++ " servers")]

theorem chars_commandLine (command : String) :
    Line.chars false (commandLine command) = commandText command := by
  unfold commandLine commandText
  cases Operation.ofCommand command <;>
    simp [Line.chars, Piece.chars, Piece.plain, Piece.pad, mark, markChar]

theorem chars_taskLines (t : Task) : (taskLines t).map (Line.chars false) = [] :: block t := by
  simp only [taskLines, block, List.map_cons, List.map_map, Function.comp_def, chars_commandLine]
  simp [Line.chars, Piece.chars, Piece.plain, Piece.pad, labelText]

/-- What the blank lines of a plan leave: nothing before the first, the counts, the tasks, the rule. -/
def blocks (ts : List Task) : List (List (List Char)) :=
  [] :: [countsText ts] :: (ts.map block ++ [[Line.chars false (Line.rule 80)]])

/-- **The lines of a plan are blocks with blank lines between them.** -/
theorem lines_texts (ts : List Task) :
    (lines ts).map (Line.chars false) = [[]].intercalate (blocks ts) := by
  have htasks : (ts.flatMap taskLines).map (Line.chars false) = ts.flatMap ([] :: block ·) := by
    simp only [List.map_flatMap, chars_taskLines]
  have hblank : Line.chars false [] = [] := rfl
  rw [blocks, intercalate_cons, lines, List.map_append, List.map_append, htasks]
  simp [List.flatMap_map, countsText, hblank]

theorem chars_rule (n : Nat) : Line.chars false (Line.rule n) = List.replicate n '─' := by
  simp [Line.chars, Line.rule, Piece.chars, Piece.pad]

theorem blank_not_mem_blocks (ts : List Task) : ∀ b ∈ blocks ts, [] ∉ b := by
  have hcounts : countsText ts ≠ [] := by
    simp [countsText, Line.chars, Piece.chars, Piece.pad]
  simp [blocks, or_imp, forall_and, block, labelText, commandText, chars_rule, hcounts.symm]

theorem commandText_injective : Function.Injective commandText := by
  intro c c' h
  simp only [commandText, List.cons.injEq, true_and] at h
  exact String.toList_inj.1 h.2

/-- **A block tells the label and the commands of its task.** -/
theorem block_eq_iff : block t = block t' ↔ t.label = t'.label ∧ t.commands = t'.commands := by
  simp [block, labelText, (List.map_injective_iff.2 commandText_injective).eq_iff, String.toList_inj]

/-! ## The whole plan -/

theorem toDigits_noLineFeed (n : Nat) : '\n' ∉ Nat.toDigits 10 n := by
  intro h
  exact absurd (Nat.isDigit_of_mem_toDigits (by decide) (by decide) h) (by decide)

theorem block_noLineFeed (h : t.FitsLines) : ∀ l ∈ block t, '\n' ∉ l := by
  have hmark (o : Operation) : '\n' ≠ markChar o := by cases o <;> simp [markChar]
  have hlabel : '\n' ∉ t.label.toList := by
    simp [Task.label, h.username, h.host, toDigits_noLineFeed]
  simpa [block, labelText, commandText, hlabel, hmark] using h.commands

theorem lines_noLineFeed (h : ∀ t ∈ ts, t.FitsLines) : ∀ l ∈ lines ts, '\n' ∉ Line.chars false l := by
  have hcounts : '\n' ∉ countsText ts := by
    simp [countsText, Line.chars, Piece.chars, Piece.plain, Piece.pad, toDigits_noLineFeed]
  have hall : ∀ l ∈ (lines ts).map (Line.chars false), '\n' ∉ l := by
    rw [lines_texts, blocks, intercalate_cons]
    intro l hl
    simp only [List.nil_append, List.mem_flatMap, List.mem_cons, List.mem_append, List.mem_map,
      List.not_mem_nil, or_false] at hl
    obtain ⟨b, rfl | ⟨t, ht, rfl⟩ | rfl, rfl | hl⟩ := hl
    · simp
    · rw [List.mem_singleton.1 hl]; exact hcounts
    · simp
    · exact block_noLineFeed (h t ht) l hl
    · simp
    · rw [List.mem_singleton.1 hl, chars_rule]; simp
  simpa using hall

theorem map_block_eq_iff : ts.map block = ts'.map block ↔
    List.Forall₂ (fun t t' => t.label = t'.label ∧ t.commands = t'.commands) ts ts' := by
  rw [← List.forall₂_eq_eq_eq, List.forall₂_map_left_iff, List.forall₂_map_right_iff]
  simp only [block_eq_iff]

/-- Tasks that are shown in the same way are as many, and have as many commands. -/
theorem countsText_eq (h : ts.map block = ts'.map block) : countsText ts = countsText ts' := by
  have hlength : ts.length = ts'.length := by simpa using congrArg List.length h
  have hcommands : ts.map (·.commands.length) = ts'.map (·.commands.length) := by
    -- A block has one line more than there are commands.
    have hcount : (fun t : Task => t.commands.length) = fun t => (block t).length - 1 := by
      simp [block]
    simpa [hcount, Function.comp_def] using congrArg (List.map fun b => b.length - 1) h
  rw [countsText, countsText, Task.totalCommands, Task.totalCommands, hlength, hcommands]

/-- **The plan shows exactly what will run.** Where nothing shown has a line feed in it, two plans are
the same text without color exactly if they have the same labels in the same order, and under each of
them the same commands in the same order. -/
theorem renderAll_lines_eq_iff (h : ∀ t ∈ ts, t.FitsLines) (h' : ∀ t ∈ ts', t.FitsLines) :
    Line.renderAll false (lines ts) = Line.renderAll false (lines ts') ↔
      List.Forall₂ (fun t t' => t.label = t'.label ∧ t.commands = t'.commands) ts ts' := by
  rw [← map_block_eq_iff]
  constructor
  · intro htext
    have hlines := Line.renderAll_inj (lines_noLineFeed h) (lines_noLineFeed h') htext
    rw [lines_texts, lines_texts] at hlines
    have hblocks : blocks ts = blocks ts' :=
      intercalate_inj (blank_not_mem_blocks ts) (blank_not_mem_blocks ts') (by simp [blocks])
        (by simp [blocks]) hlines
    rw [blocks, blocks, List.cons.injEq, List.cons.injEq] at hblocks
    exact List.append_cancel_right hblocks.2.2
  · intro hblocks
    rw [← String.toList_inj, Line.toList_renderAll, Line.toList_renderAll, lines_texts, lines_texts,
      blocks, blocks, hblocks, countsText_eq hblocks]

/-- The label of a user with a sign in the name is that of another user on another host, and a command
may look like a label, like a blank line or like a rule. -/
theorem renderAll_lines_eq_iff_lookalikes :
    let commands := ["bak a", "", "  root@10.0.0.2:22:", "────", "Upload  a b"]
    let ts : List Task := [⟨"10.0.0.1", 22, "root@a", "secret", commands⟩, ⟨"b", 1, " $", "", []⟩]
    let ts' : List Task := [⟨"a@10.0.0.1", 22, "root", "", commands⟩, ⟨"b", 1, " $", "pw", []⟩]
    Line.renderAll false (lines ts) = Line.renderAll false (lines ts') ∧
      List.Forall₂ (fun t t' => t.label = t'.label ∧ t.commands = t'.commands) ts ts' := by
  intro commands ts ts'
  have hcommands : ∀ c ∈ commands, '\n' ∉ c.toList := by decide
  have h : ∀ t ∈ ts, t.FitsLines := by
    simp only [ts, List.forall_mem_cons, List.not_mem_nil, false_imp_iff, implies_true, and_true]
    exact ⟨⟨by decide, by decide, hcommands⟩, ⟨by decide, by decide, by decide⟩⟩
  have h' : ∀ t ∈ ts', t.FitsLines := by
    simp only [ts', List.forall_mem_cons, List.not_mem_nil, false_imp_iff, implies_true, and_true]
    exact ⟨⟨by decide, by decide, hcommands⟩, ⟨by decide, by decide, by decide⟩⟩
  have htext : Line.renderAll false (lines ts) = Line.renderAll false (lines ts') := by rfl
  exact ⟨htext, (renderAll_lines_eq_iff h h').1 htext⟩

end Plan

end Rollout
