import Rollout.Error
import Rollout.Plan
import Rollout.Terminal

/-!
# Colors are only decoration

Everything that is shown is written piece by piece, in colors or not. If the sequences that set styles
are taken out of the one, the other one is left, with every space that makes columns of it. This holds
as long as no text that is shown has an escape character of its own.

* `Text.unstyled` takes the sequences out; `Text.unstyled_sequence`, `Text.unstyled_plain`: what
  becomes of one sequence, and of a text without escape characters.
* `Piece.unstyled_chars`, `Line.unstyled_chars`: pieces and lines, with whatever is written after them.
* `Notice` is what can be shown, with the texts in it; `Notice.isPlain_lines`: no line of it has an
  escape character that these texts do not have.
* `colors_only_decorate`: all of it, line by line and as a whole.
-/

namespace Rollout

/-! ## Taking out sequences -/

namespace Text

/-- Whether a text has no escape character. -/
def IsPlain (s : List Char) : Prop := '\x1b' ∉ s

instance (s : List Char) : Decidable (IsPlain s) := inferInstanceAs (Decidable ('\x1b' ∉ s))

@[simp] theorem isPlain_nil : IsPlain [] := List.not_mem_nil

@[simp] theorem isPlain_cons {c : Char} {s : List Char} :
    IsPlain (c :: s) ↔ c ≠ '\x1b' ∧ IsPlain s := by
  unfold IsPlain
  rw [List.mem_cons, not_or, eq_comm]

@[simp] theorem isPlain_append {s s' : List Char} : IsPlain (s ++ s') ↔ IsPlain s ∧ IsPlain s' := by
  unfold IsPlain
  rw [List.mem_append, not_or]

/-- What follows the codes of a sequence and its end, if a text goes on with them. -/
def afterCodes? : List Char → Option (List Char)
  | [] => none
  | c :: s =>
    if c = 'm' then some s else if c.isDigit ∨ c = ';' then afterCodes? s else none

theorem length_afterCodes? {r : List Char} : ∀ {s : List Char}, afterCodes? s = some r →
    r.length < s.length := by
  intro s
  induction s with
  | nil =>
    intro h
    cases h
  | cons c s ih =>
    intro h
    unfold afterCodes? at h
    split at h
    · cases h
      exact Nat.lt_succ_self _
    · split at h
      · exact Nat.lt_succ_of_lt (ih h)
      · cases h

/-- A text without the sequences that set styles. Such a sequence is an escape character and a
bracket, numbers between semicolons, and an `m`. -/
def unstyled : List Char → List Char
  | '\x1b' :: '[' :: s =>
    match h : afterCodes? s with
    | some r =>
      have := length_afterCodes? h
      unstyled r
    | none => '\x1b' :: '[' :: unstyled s
  | c :: s => c :: unstyled s
  | [] => []
termination_by s => s.length

theorem unstyled_cons {c : Char} (h : c ≠ '\x1b') (s : List Char) :
    unstyled (c :: s) = c :: unstyled s := by
  rw [unstyled]
  intro s' hc
  exact absurd hc h

/-- **A text without escape characters stays as it is.** -/
theorem unstyled_plain {w : List Char} (h : IsPlain w) (s : List Char) :
    unstyled (w ++ s) = w ++ unstyled s := by
  induction w with
  | nil => rfl
  | cons c w ih =>
    obtain ⟨hc, hw⟩ := isPlain_cons.1 h
    rw [List.cons_append, unstyled_cons hc, ih hw, List.cons_append]

theorem isPlain_replicate {c : Char} (h : c ≠ '\x1b') (n : Nat) : IsPlain (List.replicate n c) :=
  fun hmem => h (List.eq_of_mem_replicate hmem).symm

theorem afterCodes?_append {w : List Char} (h : ∀ c ∈ w, c.isDigit = true ∨ c = ';') (s : List Char) :
    afterCodes? (w ++ 'm' :: s) = some s := by
  induction w with
  | nil => rfl
  | cons c w ih =>
    have hc := h c List.mem_cons_self
    have hm : c ≠ 'm' := by
      rintro rfl
      exact absurd hc (by decide)
    rw [List.cons_append, afterCodes?, if_neg hm, if_pos hc]
    exact ih fun c' hc' => h c' (List.mem_cons_of_mem c hc')

theorem isDigit_of_mem_toString {n : Nat} {c : Char} (h : c ∈ (toString n).toList) :
    c.isDigit = true := by
  have hdigits : (toString n).toList = Nat.toDigits 10 n := by simp
  rw [hdigits] at h
  exact Nat.isDigit_of_mem_toDigits (by decide) (by decide) h

theorem mem_join {sep : List Char} {c : Char} : ∀ {ws : List (List Char)}, c ∈ join sep ws →
    c ∈ sep ∨ ∃ w ∈ ws, c ∈ w := by
  intro ws
  induction ws with
  | nil =>
    intro h
    cases h
  | cons w ws ih =>
    intro h
    cases ws with
    | nil => exact .inr ⟨w, List.mem_cons_self, h⟩
    | cons w' ws =>
      rcases List.mem_append.1 h with h | h
      · rcases List.mem_append.1 h with h | h
        · exact .inr ⟨w, List.mem_cons_self, h⟩
        · exact .inl h
      · rcases ih h with h | ⟨v, hv, h⟩
        · exact .inl h
        · exact .inr ⟨v, List.mem_cons_of_mem w hv, h⟩

/-- **A sequence that sets styles is taken out.** -/
theorem unstyled_sequence (codes : List Nat) (s : List Char) :
    unstyled (Style.sequenceOf codes ++ s) = unstyled s := by
  have hcodes : ∀ c ∈ join [';'] (codes.map fun n => (toString n).toList),
      c.isDigit = true ∨ c = ';' := by
    intro c hc
    rcases mem_join hc with hc | ⟨w, hw, hc⟩
    · exact .inr (List.mem_singleton.1 hc)
    · obtain ⟨n, -, rfl⟩ := List.mem_map.1 hw
      exact .inl (isDigit_of_mem_toString hc)
  have hsequence : Style.sequenceOf codes ++ s = '\x1b' :: '[' ::
      (join [';'] (codes.map fun n => (toString n).toList) ++ 'm' :: s) := by
    simp [Style.sequenceOf]
  rw [hsequence, unstyled]
  split
  · rename_i r h
    rw [afterCodes?_append hcodes] at h
    cases h
    rfl
  · rename_i h
    rw [afterCodes?_append hcodes] at h
    cases h

end Text

open Text

/-! ## Pieces and lines -/

namespace Piece

/-- No style is begun again inside a text that ends none. -/
theorem reopen_plain (again : List Char) {s : List Char} (h : IsPlain s) : reopen again s = s := by
  induction s with
  | nil => rfl
  | cons c s ih =>
    obtain ⟨hc, hs⟩ := isPlain_cons.1 h
    rw [reopen, ih hs]
    intro s' hc'
    exact absurd hc' hc

theorem isPlain_pad {s : List Char} (h : IsPlain s) (width : Nat) : IsPlain (pad width s) :=
  isPlain_append.2 ⟨h, isPlain_replicate (by decide) _⟩

/-- **A piece in color is the same piece** without its sequences, padding included. -/
theorem unstyled_chars {p : Piece} (h : IsPlain p.text.toList) (s : List Char) :
    unstyled (p.chars true ++ s) = p.chars false ++ unstyled s := by
  have hplain : p.chars false = pad p.width p.text.toList := if_neg (by simp)
  rw [hplain]
  unfold chars
  split
  · rw [reopen_plain _ h, Style.opening, Style.closing, List.append_assoc, List.append_assoc,
      unstyled_sequence, unstyled_plain (isPlain_pad h _), unstyled_sequence]
  · exact unstyled_plain (isPlain_pad h _) s

end Piece

namespace Line

/-- Whether no piece of a line has an escape character. -/
def IsPlain (l : Line) : Prop := ∀ p ∈ l, Text.IsPlain p.text.toList

@[simp] theorem isPlain_nil : IsPlain [] := List.forall_mem_nil _

@[simp] theorem isPlain_cons {p : Piece} {l : Line} :
    IsPlain (p :: l) ↔ Text.IsPlain p.text.toList ∧ IsPlain l := List.forall_mem_cons

/-- A line in color is the same line without its sequences. -/
theorem unstyled_chars {l : Line} (h : IsPlain l) (s : List Char) :
    unstyled (chars true l ++ s) = chars false l ++ unstyled s := by
  induction l with
  | nil => rfl
  | cons p l ih =>
    obtain ⟨hp, hl⟩ := isPlain_cons.1 h
    have hcons : ∀ colored, chars colored (p :: l) = p.chars colored ++ chars colored l :=
      fun _ => List.flatMap_cons
    rw [hcons, hcons, List.append_assoc, Piece.unstyled_chars hp, ih hl, List.append_assoc]

theorem isPlain_chars {l : Line} (h : IsPlain l) : Text.IsPlain (chars false l) := by
  intro hmem
  obtain ⟨p, hp, hmem⟩ := List.mem_flatMap.1 hmem
  have hplain : p.chars false = Piece.pad p.width p.text.toList := if_neg (by simp)
  rw [hplain] at hmem
  exact Piece.isPlain_pad (h p hp) _ hmem

theorem unstyled_renderAll {ls : List Line} (h : ∀ l ∈ ls, IsPlain l) :
    unstyled (renderAll true ls).toList = (renderAll false ls).toList := by
  unfold renderAll
  rw [String.toList_ofList, String.toList_ofList]
  induction ls with
  | nil =>
    show unstyled [] = []
    rw [unstyled]
  | cons l ls ih =>
    obtain ⟨hl, hls⟩ := List.forall_mem_cons.1 h
    have hend : Text.IsPlain ['\n'] := by decide
    rw [List.flatMap_cons, List.flatMap_cons, List.append_assoc, unstyled_chars hl,
      unstyled_plain hend, ih hls, List.append_assoc]

theorem isPlain_renderAll {ls : List Line} (h : ∀ l ∈ ls, IsPlain l) :
    Text.IsPlain (renderAll false ls).toList := by
  unfold renderAll
  rw [String.toList_ofList]
  intro hmem
  obtain ⟨l, hl, hmem⟩ := List.mem_flatMap.1 hmem
  rcases List.mem_append.1 hmem with hmem | hmem
  · exact isPlain_chars (h l hl) hmem
  · exact absurd hmem (by decide)

end Line

/-! ## Texts without escape characters -/

namespace Text

@[simp] theorem isPlain_toDigits (n : Nat) : IsPlain (Nat.toDigits 10 n) := by
  intro hmem
  exact absurd (Nat.isDigit_of_mem_toDigits (by decide) (by decide) hmem) (by decide)

theorem mem_of_mem_split {p : Char → Bool} {c : Char} : ∀ {s w : List Char}, w ∈ split p s → c ∈ w →
    c ∈ s := by
  intro s
  induction s with
  | nil =>
    intro w hw hc
    rw [List.mem_singleton.1 hw] at hc
    exact hc
  | cons d s ih =>
    intro w hw hc
    unfold split at hw
    split at hw
    · rcases List.mem_cons.1 hw with rfl | hw
      · cases hc
      · exact List.mem_cons_of_mem d (ih hw hc)
    · split at hw
      · rename_i hnil
        exact absurd hnil (split_ne_nil p s)
      · rename_i v vs hsplit
        rw [hsplit] at ih
        rcases List.mem_cons.1 hw with rfl | hw
        · rcases List.mem_cons.1 hc with rfl | hc
          · exact List.mem_cons_self
          · exact List.mem_cons_of_mem d (ih List.mem_cons_self hc)
        · exact List.mem_cons_of_mem d (ih (List.mem_cons_of_mem v hw) hc)

/-- The lines of a text are made of its characters. -/
theorem mem_of_mem_lines {s w : List Char} {c : Char} (hw : w ∈ lines s) (hc : c ∈ w) : c ∈ s := by
  unfold lines at hw
  simp only at hw
  split at hw
  · cases hw
  · rename_i last hlast
    rcases List.mem_append.1 hw with hw | hw
    · obtain ⟨v, hv, rfl⟩ := List.mem_map.1 hw
      have hcv : c ∈ v := by
        unfold dropReturn at hc
        split at hc
        · exact (List.dropLast_sublist v).subset hc
        · exact hc
      exact mem_of_mem_split ((List.dropLast_sublist _).subset hv) hcv
    · split at hw
      · cases hw
      · rw [List.mem_singleton.1 hw] at hc
        exact mem_of_mem_split (List.mem_of_getLast? hlast) hc

theorem isPlain_of_mem_lines {s w : List Char} (h : IsPlain s) (hw : w ∈ lines s) : IsPlain w :=
  fun hmem => h (mem_of_mem_lines hw hmem)

end Text

theorem Binary64.isPlain_fixed (places : Nat) (x : Binary64) : IsPlain (x.fixed places).toList := by
  have hzeros : ∀ n, IsPlain (zeros n).toList := by
    intro n
    unfold zeros
    rw [String.toList_ofList]
    exact isPlain_replicate (by decide) n
  unfold fixed
  simp [hzeros]

/-! ## What can be shown -/

/-- The texts in a mistake of a package. -/
def PackageFault.strings : PackageFault → List String
  | .malformedGlobal entry => [entry]
  | .globalOutOfRange .. => []
  | .placeholderOutOfRange command placeholder _ => [command, placeholder]

/-- The texts in a failure. -/
def DeployError.strings : DeployError → List String
  | .compile cause => cause.host :: cause.fault.strings
  | .descriptor message suggestion => message :: suggestion.toList
  | .io message path => message :: path.toList
  | .connection host message suggestion => host :: message :: suggestion.toList
  | .remote host command message _ stderr => host :: command :: message :: stderr.toList
  | .filesystem message path => [message, path]
  | .runtime message suggestion => message :: suggestion.toList

/-- What is shown in one go. -/
inductive Notice where
  | plan (ts : List Task)
  | question
  | header (target : Target) (index total : Nat)
  | connected (host : String)
  | command (text : String) (o : Operation)
  | output (r : CommandResult)
  | backup (o : BackupOutcome)
  | uploaded (path : String)
  | recap (r : RunRecap)
  | failure (e : DeployError)

namespace Notice

/-- The lines that a terminal shows. -/
def lines (t : Terminal) : Notice → List Line
  | .plan ts => Plan.lines ts
  | .question => [Plan.question]
  | .header target index total => t.header target index total
  | .connected host => t.connected host
  | .command text o => t.command text o
  | .output r => t.output r
  | .backup o => t.backup o
  | .uploaded path => t.uploaded path
  | .recap r => t.recap r
  | .failure e => e.lines

/-- The texts that are shown; passwords are not. -/
def strings : Notice → List String
  | .plan ts => ts.flatMap fun t => t.username :: t.host :: t.commands
  | .question => []
  | .header target _ _ => [target.username, target.host]
  | .connected host => [host]
  | .command text _ => [text]
  | .output r => [r.stdout, r.stderr]
  | .backup (.created path) => [path]
  | .backup (.alreadyExists path) => [path]
  | .uploaded path => [path]
  | .recap r => r.servers.map (·.host)
  | .failure e => e.strings

end Notice

@[simp] theorem Piece.isPlain_plain {text : String} :
    IsPlain (Piece.plain text).text.toList ↔ IsPlain text.toList := Iff.rfl

@[simp] theorem Line.isPlain_rule (n : Nat) : (Line.rule n).IsPlain := by
  have hdash : Text.IsPlain (List.replicate n '─') := isPlain_replicate (by decide) n
  unfold Line.rule
  rw [isPlain_cons, String.toList_ofList]
  exact ⟨hdash, isPlain_nil⟩

namespace Plan

theorem isPlain_commandLine {command : String} (h : IsPlain command.toList) :
    (commandLine command).IsPlain := by
  have hmarks : ∀ text ∈ ["$", "↑", "~", "+"], IsPlain text.toList := by decide
  have hmark : ∀ o, IsPlain (mark o).text.toList := by
    intro o
    apply hmarks
    cases o <;> simp [mark]
  simp [commandLine, hmark, h]

theorem isPlain_taskLines {t : Task}
    (h : ∀ s ∈ t.username :: t.host :: t.commands, IsPlain s.toList) :
    ∀ l ∈ taskLines t, l.IsPlain := by
  simp only [List.forall_mem_cons] at h
  obtain ⟨husername, hhost, hcommands⟩ := h
  have hcommand : ∀ c ∈ t.commands, (commandLine c).IsPlain :=
    fun c hc => isPlain_commandLine (hcommands c hc)
  simpa [taskLines, Task.label, husername, hhost] using hcommand

theorem isPlain_lines {ts : List Task}
    (h : ∀ s ∈ (Notice.plan ts).strings, IsPlain s.toList) : ∀ l ∈ lines ts, l.IsPlain := by
  have htasks : ∀ l ∈ ts.flatMap taskLines, l.IsPlain := by
    intro l hl
    obtain ⟨t, ht, hl⟩ := List.mem_flatMap.1 hl
    exact isPlain_taskLines (fun s hs => h s (List.mem_flatMap.2 ⟨t, ht, hs⟩)) l hl
  unfold lines
  rw [List.forall_mem_append, List.forall_mem_append]
  refine ⟨⟨?_, htasks⟩, ?_⟩
  · simp
  · simp

end Plan

namespace Terminal

variable {t : Terminal}

theorem isPlain_unlessQuiet {ls : List Line} (h : ∀ l ∈ ls, l.IsPlain) :
    ∀ l ∈ t.unlessQuiet ls, l.IsPlain := by
  unfold unlessQuiet
  split
  · exact List.forall_mem_nil _
  · exact h

theorem isPlain_header {target : Target} (husername : IsPlain target.username.toList)
    (hhost : IsPlain target.host.toList) (index total : Nat) :
    ∀ l ∈ t.header target index total, l.IsPlain := by
  apply isPlain_unlessQuiet
  simp [boldGreen, cyan, Target.label, husername, hhost]

theorem isPlain_command {command : String} (h : IsPlain command.toList) (o : Operation) :
    ∀ l ∈ t.command command o, l.IsPlain := by
  have hkinds : ∀ kind ∈ ["command", "upload", "uploaddir", "bak", "zipbak"],
      IsPlain (Piece.pad kindWidth (kind.toList.map Char.toUpper)) := by decide
  have hkind : IsPlain (kindLabel o).toList := by
    unfold kindLabel
    rw [String.toList_ofList]
    apply hkinds
    cases o <;> simp [Operation.kind]
  apply isPlain_unlessQuiet
  simp [hkind, h]

theorem isPlain_outputLines (style : Style) {text : String} (h : IsPlain text.toList) :
    ∀ l ∈ outputLines style text, l.IsPlain := by
  intro l hl
  obtain ⟨w, hw, rfl⟩ := List.mem_map.1 hl
  simp [isPlain_of_mem_lines h hw]

theorem isPlain_output {r : CommandResult} (hstdout : IsPlain r.stdout.toList)
    (hstderr : IsPlain r.stderr.toList) : ∀ l ∈ t.output r, l.IsPlain := by
  apply isPlain_unlessQuiet
  rw [List.forall_mem_append]
  refine ⟨isPlain_outputLines _ hstdout, ?_⟩
  split
  · exact isPlain_outputLines _ hstderr
  · exact List.forall_mem_nil _

theorem isPlain_backup {o : BackupOutcome}
    (h : ∀ s ∈ (Notice.backup o).strings, IsPlain s.toList) : ∀ l ∈ t.backup o, l.IsPlain := by
  apply isPlain_unlessQuiet
  cases o with
  | created path =>
    have hpath := h path List.mem_cons_self
    simp [green, hpath]
  | alreadyExists path =>
    have hpath := h path List.mem_cons_self
    simp [cyan, hpath]

theorem isPlain_recapLine {r : ServerReport} (h : IsPlain r.host.toList) :
    (recapLine r).IsPlain := by
  unfold recapLine
  simp only [Line.isPlain_cons, Line.isPlain_nil, and_true]
  refine ⟨h, by simp, by simp [green], by simp, ?_⟩
  split
  · simp [cyan]
  · simp

theorem isPlain_recap {r : RunRecap} (h : ∀ p ∈ r.servers, IsPlain p.host.toList) :
    ∀ l ∈ t.recap r, l.IsPlain := by
  have hservers : ∀ l ∈ r.servers.map recapLine, l.IsPlain := by
    intro l hl
    obtain ⟨p, hp, rfl⟩ := List.mem_map.1 hl
    exact isPlain_recapLine (h p hp)
  have hseconds : IsPlain (seconds r.nanoseconds).toList := Binary64.isPlain_fixed 2 _
  apply isPlain_unlessQuiet
  rw [List.forall_mem_append, List.forall_mem_append]
  refine ⟨⟨?_, hservers⟩, ?_⟩
  · simp [boldGreen]
  · simp [hseconds]

end Terminal

namespace DeployError

variable {name text : String}

@[simp] theorem isPlain_title :
    (title name text).IsPlain ↔ IsPlain name.toList ∧ IsPlain text.toList := by
  simp [title]

@[simp] theorem isPlain_detail :
    (detail name text).IsPlain ↔ IsPlain name.toList ∧ IsPlain text.toList := by
  simp [detail]

@[simp] theorem isPlain_hint : (hint text).IsPlain ↔ IsPlain text.toList := by
  simp [hint]

theorem isPlain_suggested {suggestion : Option String}
    (h : ∀ s ∈ suggestion.toList, IsPlain s.toList) : ∀ l ∈ suggested suggestion, l.IsPlain := by
  cases suggestion with
  | none => exact List.forall_mem_nil _
  | some text => simpa [suggested] using h

theorem isPlain_stderrLines {stderr : Option String}
    (h : ∀ s ∈ stderr.toList, IsPlain s.toList) : ∀ l ∈ stderrLines stderr, l.IsPlain := by
  cases stderr with
  | none => exact List.forall_mem_nil _
  | some text =>
    unfold stderrLines
    simp only
    split
    · exact List.forall_mem_nil _
    · have hlines : ∀ w ∈ (Text.lines text.toList).take shownStderr, IsPlain w := by
        intro w hw
        exact isPlain_of_mem_lines (h text (by simp)) (List.mem_of_mem_take hw)
      simpa [← List.map_take] using hlines

theorem isPlain_message {f : PackageFault} (h : ∀ s ∈ f.strings, IsPlain s.toList) :
    IsPlain f.message.toList := by
  unfold PackageFault.message
  cases f with
  | malformedGlobal entry =>
    have hentry := h entry List.mem_cons_self
    simp [hentry]
  | globalOutOfRange index count => simp
  | placeholderOutOfRange command placeholder count =>
    simp only [PackageFault.strings, List.forall_mem_cons] at h
    obtain ⟨hcommand, hplaceholder, -⟩ := h
    simp [hcommand, hplaceholder]

theorem isPlain_lines {e : DeployError} (h : ∀ s ∈ e.strings, IsPlain s.toList) :
    ∀ l ∈ e.lines, l.IsPlain := by
  cases e with
  | compile cause =>
    obtain ⟨hhost, hfault⟩ := List.forall_mem_cons.1 h
    have hmessage : IsPlain cause.message.toList := isPlain_message hfault
    simp [lines, hhost, hmessage]
  | descriptor message suggestion =>
    obtain ⟨hmessage, hsuggestion⟩ := List.forall_mem_cons.1 h
    simpa [lines, hmessage] using isPlain_suggested hsuggestion
  | io message path =>
    obtain ⟨hmessage, hpath⟩ := List.forall_mem_cons.1 h
    simpa [lines, hmessage] using hpath
  | connection host message suggestion =>
    simp only [strings, List.forall_mem_cons] at h
    obtain ⟨hhost, hmessage, hsuggestion⟩ := h
    simpa [lines, hhost, hmessage] using isPlain_suggested hsuggestion
  | remote host command message exitCode stderr =>
    simp only [strings, List.forall_mem_cons] at h
    obtain ⟨hhost, hcommand, hmessage, hstderr⟩ := h
    simpa [lines, hhost, hcommand, hmessage] using isPlain_stderrLines hstderr
  | filesystem message path =>
    simp only [strings, List.forall_mem_cons] at h
    simp [lines, h.1, h.2.1]
  | runtime message suggestion =>
    obtain ⟨hmessage, hsuggestion⟩ := List.forall_mem_cons.1 h
    simpa [lines, hmessage] using isPlain_suggested hsuggestion

end DeployError

/-- **Escape characters come in with the texts that are shown**, and from nowhere else. -/
theorem Notice.isPlain_lines {x : Notice} (h : ∀ s ∈ x.strings, IsPlain s.toList) (t : Terminal) :
    ∀ l ∈ x.lines t, l.IsPlain := by
  cases x with
  | plan ts => exact Plan.isPlain_lines h
  | question => simp [lines, Plan.question]
  | header target index total =>
    simp only [strings, List.forall_mem_cons] at h
    exact Terminal.isPlain_header h.1 h.2.1 index total
  | connected host =>
    have hhost := h host List.mem_cons_self
    apply Terminal.isPlain_unlessQuiet
    simp [Terminal.green, hhost]
  | command text o => exact Terminal.isPlain_command (h text List.mem_cons_self) o
  | output r =>
    simp only [strings, List.forall_mem_cons] at h
    exact Terminal.isPlain_output h.1 h.2.1
  | backup o => exact Terminal.isPlain_backup h
  | uploaded path =>
    have hpath := h path List.mem_cons_self
    apply Terminal.isPlain_unlessQuiet
    simp [Terminal.green, hpath]
  | recap r => exact Terminal.isPlain_recap fun p hp => h p.host (List.mem_map_of_mem hp)
  | failure e => exact DeployError.isPlain_lines h

/-- **Colors are only decoration.** Whatever is shown, taking out the sequences that set styles leaves
what is shown without colors, every line of it and all of them with their ends; and without colors
there are no escape characters at all. -/
theorem colors_only_decorate (t : Terminal) (x : Notice)
    (h : ∀ s ∈ x.strings, '\x1b' ∉ s.toList) :
    (∀ l ∈ x.lines t, unstyled (l.render true).toList = (l.render false).toList ∧
      '\x1b' ∉ (l.render false).toList) ∧
    unstyled (Line.renderAll true (x.lines t)).toList = (Line.renderAll false (x.lines t)).toList ∧
    '\x1b' ∉ (Line.renderAll false (x.lines t)).toList := by
  have hplain : ∀ l ∈ x.lines t, l.IsPlain := Notice.isPlain_lines h t
  refine ⟨?_, Line.unstyled_renderAll hplain, Line.isPlain_renderAll hplain⟩
  intro l hl
  unfold Line.render
  rw [String.toList_ofList, String.toList_ofList]
  refine ⟨?_, Line.isPlain_chars (hplain l hl)⟩
  have hnil : unstyled [] = [] := by rw [unstyled]
  have hline := Line.unstyled_chars (hplain l hl) []
  rwa [List.append_nil, hnil, List.append_nil] at hline

/-- A recap of one server, whose name is shorter than its column. -/
theorem colors_only_decorate_recap :
    let x : Notice := .recap { servers := [{ host := "web", executed := 2, backupsSkipped := 1 }] }
    (∀ s ∈ x.strings, '\x1b' ∉ s.toList) ∧
      '\x1b' ∈ (Line.renderAll true (x.lines {})).toList ∧
      unstyled (Line.renderAll true (x.lines {})).toList =
        (Line.renderAll false (x.lines {})).toList := by
  intro x
  have hplain : ∀ s ∈ x.strings, '\x1b' ∉ s.toList := by decide
  have hcolored : '\x1b' ∈ (Line.renderAll true (x.lines {})).toList := by
    rw [Line.renderAll, String.toList_ofList, List.mem_flatMap]
    exact ⟨_, List.mem_cons_of_mem _ List.mem_cons_self, by decide⟩
  exact ⟨hplain, hcolored, (colors_only_decorate {} x hplain).2.1⟩

end Rollout
