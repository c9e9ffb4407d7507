import Rollout.Proofs.Classification
import Rollout.Proofs.Substitution

/-!
# Filling a template word by word

A placeholder has no blank in it, so it stands within one word of its template. If no value has a
blank in it either, and none is empty, then the words of the command are the words of the template,
each of them filled. A command is known by its first word and by how many words it has, so it is
filled into a command of the same kind.

* `segments_append`: the reader of templates starts anew at every blank.
* `Filled.words`, `exists_filled`: filling a text and filling its words come to the same.
* `Operation.Pointwise`: operations of one kind, whose arguments are related one by one.
* `fillCommand_words`: filling commutes with cutting into words, and with classification.
-/

namespace Rollout

variable {values : List String} {s t w text : List Char} {ws : List (List Char)} {c : Char}

/-! ## Blanks and placeholders -/

namespace Text

/-- The code points of the blanks. -/
def blanks : List Nat :=
  [9, 10, 11, 12, 13, 0x20, 0x85, 0xA0, 0x1680, 0x2000, 0x2001, 0x2002, 0x2003, 0x2004, 0x2005,
    0x2006, 0x2007, 0x2008, 0x2009, 0x200A, 0x2028, 0x2029, 0x202F, 0x205F, 0x3000]

theorem mem_blanks (h : isBlank c = true) : c.toNat ∈ blanks := by
  simp only [isBlank, Bool.or_eq_true, Bool.and_eq_true, decide_eq_true_eq, beq_iff_eq] at h
  simp only [blanks, List.mem_cons, List.not_mem_nil, or_false]
  omega

/-- A blank is no digit and no brace. -/
theorem blank_breaks (h : isBlank c = true) : isDigit c = false ∧ c ≠ '{' ∧ c ≠ '}' := by
  have hdigits : ∀ n ∈ blanks, (zeros.any fun z => z ≤ n && n < z + 10) = false := by decide
  refine ⟨hdigits c.toNat (mem_blanks h), ?_, ?_⟩ <;> rintro rfl <;> exact absurd h (by decide)

end Text

namespace Template

/-- **The reader starts anew at every blank.** What it holds back before it is text. -/
theorem segmentsFrom_append_blank (hc : Text.isBlank c = true) (s t : List Char) :
    ∀ held, segmentsFrom held (s ++ c :: t) =
      segmentsFrom held s ++ .literal c :: segmentsFrom none t := by
  obtain ⟨hdigit, hopen, hclose⟩ := Text.blank_breaks hc
  -- At the blank itself: what was held back is given up, since no placeholder goes over a blank.
  have hbreak : ∀ held, segmentsFrom held (c :: t) =
      segmentsFrom held [] ++ .literal c :: segmentsFrom none t := by
    intro held
    cases held <;> simp [segmentsFrom, hdigit, hopen, hclose]
  induction s with
  | nil => exact hbreak
  | cons d s ih =>
    intro held
    cases held with
    | none =>
      rw [List.cons_append, segmentsFrom, segmentsFrom]
      split <;> simp [ih]
    | some ds =>
      rw [List.cons_append, segmentsFrom, segmentsFrom]
      split_ifs <;> simp [ih]

/-- Text that begins with a blank, if it is not empty, is read as if it stood alone. -/
theorem segments_append (h : ∀ c, t.head? = some c → Text.isBlank c = true) (s : List Char) :
    segments (s ++ t) = segments s ++ segments t := by
  cases t with
  | nil => simp [segments, segmentsFrom]
  | cons c t =>
    have hc : Text.isBlank c = true := h c rfl
    have halone := segmentsFrom_append_blank hc [] t none
    rw [segments, segmentsFrom_append_blank hc, ← List.nil_append (c :: t), segments, segments,
      halone]
    rfl

/-- Blanks stand for themselves. -/
theorem segments_blanks (h : ∀ c ∈ s, Text.isBlank c = true) (t : List Char) :
    segments (s ++ t) = s.map .literal ++ segments t := by
  induction s with
  | nil => rfl
  | cons c s ih =>
    obtain ⟨hc, hs⟩ := List.forall_mem_cons.1 h
    have hopen : c ≠ '{' := (Text.blank_breaks hc).2.1
    rw [List.cons_append, segments, segmentsFrom, if_neg hopen, ← segments, ih hs]
    rfl

/-- A text without a placeholder is its characters. -/
theorem segments_plain (h : Plain s) : segments s = s.map .literal := by
  simpa [segments, segmentsFrom, heldText] using segmentsFrom_plain breaks_nil s none (by simp) h

/-! ## Filling piece by piece -/

theorem filled_append {a b : List Segment} :
    Filled values (a ++ b) text ↔
      ∃ first second, text = first ++ second ∧ Filled values a first ∧ Filled values b second := by
  induction a generalizing text with
  | nil =>
    constructor
    · exact fun h => ⟨[], text, rfl, .nil, h⟩
    · rintro ⟨_, _, rfl, ⟨⟩, h⟩
      exact h
  | cons segment a ih =>
    constructor
    · rintro (_ | h | ⟨hd, hv, h⟩)
      · obtain ⟨first, second, rfl, hfirst, hsecond⟩ := ih.1 h
        exact ⟨_, second, rfl, .literal hfirst, hsecond⟩
      · obtain ⟨first, second, rfl, hfirst, hsecond⟩ := ih.1 h
        exact ⟨_, second, (List.append_assoc _ _ _).symm, .slot hd hv hfirst, hsecond⟩
    · rintro ⟨_, second, rfl, _ | hfirst | ⟨hd, hv, hfirst⟩, hsecond⟩
      · exact .literal (ih.2 ⟨_, second, rfl, hfirst, hsecond⟩)
      · rw [List.append_assoc]
        exact .slot hd hv (ih.2 ⟨_, second, rfl, hfirst, hsecond⟩)

/-- Characters are filled with themselves. -/
theorem filled_literals : Filled values (s.map .literal) text ↔ text = s := by
  rw [← List.append_nil (s.map Segment.literal), Division.filled_literals_iff]
  constructor
  · rintro ⟨_, rfl, ⟨⟩⟩
    exact List.append_nil s
  · rintro rfl
    exact ⟨[], (List.append_nil text).symm, .nil⟩

/-- What is put in place of segments has no blank in it, if no character among them is one. -/
theorem Filled.not_isBlank (hv : ∀ v ∈ values, IsWord v) {segments : List Segment}
    (h : Filled values segments text)
    (hs : ∀ c, .literal c ∈ segments → Text.isBlank c = false) :
    ∀ c ∈ text, Text.isBlank c = false := by
  induction h with
  | nil => simp
  | literal _ ih =>
    refine List.forall_mem_cons.2 ⟨hs _ List.mem_cons_self, ih fun c hc => ?_⟩
    exact hs c (List.mem_cons_of_mem _ hc)
  | slot hd hvalue _ ih =>
    refine List.forall_mem_append.2 ⟨?_, ih fun c hc => hs c (List.mem_cons_of_mem _ hc)⟩
    exact (hv _ (List.mem_of_getElem? hvalue)).not_isBlank

theorem Filled.ne_nil (hv : ∀ v ∈ values, IsWord v) {segments : List Segment}
    (h : Filled values segments text) (hs : segments ≠ []) : text ≠ [] := by
  cases h with
  | nil => exact absurd rfl hs
  | literal _ => exact List.cons_ne_nil _ _
  | slot hd hvalue _ =>
    have hne := (hv _ (List.mem_of_getElem? hvalue)).toList_ne_nil
    exact List.append_ne_nil_of_left_ne_nil hne _

theorem mem_of_literal_mem_segments (h : .literal c ∈ segments s) : c ∈ s := by
  have hwrite : c ∈ write (segments s) :=
    List.mem_flatMap.2 ⟨.literal c, h, List.mem_singleton_self c⟩
  rwa [write_segments] at hwrite

theorem segments_ne_nil (h : s ≠ []) : segments s ≠ [] := by
  intro hnil
  have hwrite := write_segments s
  rw [hnil] at hwrite
  exact h hwrite.symm

/-- **A word is filled into a word.** -/
theorem Filled.word (hv : ∀ v ∈ values, IsWord v) (h : Filled values (segments w) text)
    (hne : w ≠ []) (hw : ∀ c ∈ w, Text.isBlank c = false) :
    text ≠ [] ∧ ∀ c ∈ text, Text.isBlank c = false :=
  ⟨h.ne_nil hv (segments_ne_nil hne),
    h.not_isBlank hv fun c hc => hw c (mem_of_literal_mem_segments hc)⟩

/-- The parts of a text with words are filled each for itself: the blanks with themselves. -/
theorem filled_word_iff {before w rest : List Char} (hbefore : ∀ c ∈ before, Text.isBlank c = true)
    (hrest : ∀ c, rest.head? = some c → Text.isBlank c = true) :
    Filled values (segments (before ++ w ++ rest)) text ↔
      ∃ word after, text = before ++ word ++ after ∧ Filled values (segments w) word ∧
        Filled values (segments rest) after := by
  rw [List.append_assoc, segments_blanks hbefore, segments_append hrest, filled_append]
  constructor
  · rintro ⟨_, _, rfl, hfirst, hsecond⟩
    obtain rfl := filled_literals.1 hfirst
    obtain ⟨word, after, rfl, hword, hafter⟩ := filled_append.1 hsecond
    exact ⟨word, after, (List.append_assoc _ _ _).symm, hword, hafter⟩
  · rintro ⟨word, after, rfl, hword, hafter⟩
    exact ⟨before, word ++ after, List.append_assoc _ _ _, filled_literals.2 rfl,
      filled_append.2 ⟨word, after, rfl, hword, hafter⟩⟩

/-- Text that is filled begins with a blank if it did so before. -/
theorem Filled.head_isBlank (h : Filled values (segments s) text)
    (hs : ∀ c, s.head? = some c → Text.isBlank c = true) :
    ∀ c, text.head? = some c → Text.isBlank c = true := by
  cases s with
  | nil =>
    cases h
    simp
  | cons c s =>
    have hc : Text.isBlank c = true := hs c rfl
    have hsegments : segments (c :: s) = .literal c :: segments s :=
      segments_blanks (List.forall_mem_singleton.2 hc) s
    rw [hsegments] at h
    cases h
    simpa using hc

/-- **The words of a filled text** are the words of the text, each of them filled. -/
theorem Filled.words (hv : ∀ v ∈ values, IsWord v) (hs : Text.Spaced s ws) :
    ∀ {text}, Filled values (segments s) text → ∃ ws', Text.Spaced text ws' ∧
      List.Forall₂ (fun w w' => Filled values (segments w) w') ws ws' := by
  induction hs with
  | @blank s hs =>
    intro text h
    have hsegments := segments_blanks hs []
    rw [List.append_nil] at hsegments
    rw [hsegments] at h
    obtain rfl : text = s := by simpa [segments, segmentsFrom, filled_literals] using h
    exact ⟨[], .blank hs, .nil⟩
  | @word before w rest ws hbefore hne hw hrest _ ih =>
    intro text h
    -- What follows the word begins with a blank also after it was filled, so the word ends there.
    obtain ⟨word, after, rfl, hword, hafter⟩ := (filled_word_iff hbefore hrest).1 h
    obtain ⟨ws', hspaced, hws⟩ := ih hafter
    obtain ⟨hne', hword'⟩ := hword.word hv hne hw
    exact ⟨word :: ws', .word hbefore hne' hword' (hafter.head_isBlank hrest) hspaced,
      .cons hword hws⟩

/-- A text can be filled if all its words can. -/
theorem exists_filled (hs : Text.Spaced s ws)
    (h : ∀ w ∈ ws, ∃ text, Filled values (segments w) text) :
    ∃ text, Filled values (segments s) text := by
  induction hs with
  | @blank s hs =>
    have hsegments := segments_blanks hs []
    rw [List.append_nil] at hsegments
    rw [hsegments]
    exact ⟨s, by simp [segments, segmentsFrom, filled_literals]⟩
  | @word before w rest ws hbefore hne hw hrest _ ih =>
    obtain ⟨⟨word, hword⟩, hws⟩ := List.forall_mem_cons.1 h
    obtain ⟨after, hafter⟩ := ih hws
    exact ⟨_, (filled_word_iff hbefore hrest).2 ⟨word, after, rfl, hword, hafter⟩⟩

end Template

/-! ## Operations of one kind -/

namespace Operation

/-- Operations of one kind, whose arguments are related one by one; of commands for the shell, the
commands are. -/
inductive Pointwise (r : String → String → Prop) : Operation → Operation → Prop
  | raw {a b} : r a b → Pointwise r (.raw a) (.raw b)
  | upload {a b a' b'} : r a a' → r b b' → Pointwise r (.upload a b) (.upload a' b')
  | uploadDir {a b a' b'} (limit : UInt64) : r a a' → r b b' →
      Pointwise r (.uploadDir a b limit) (.uploadDir a' b' limit)
  | backup {a b} : r a b → Pointwise r (.backup a) (.backup b)
  | zipBackup {a b as bs} : r a b → List.Forall₂ r as bs →
      Pointwise r (.zipBackup a as) (.zipBackup b bs)

variable {r : String → String → Prop} {o o' : Operation} {word : List Char}
  {args args' : List (List Char)}

theorem Pointwise.kind_eq (h : Pointwise r o o') : o'.kind = o.kind := by
  cases h <;> rfl

/-- Words with the same first one name operations of one kind, if any. -/
theorem Names.pointwise (h : Names (word :: args) o)
    (hargs : List.Forall₂ (fun a a' => r (.ofList a) (.ofList a')) args args') :
    ∃ o', Names (word :: args') o' ∧ Pointwise r o o' := by
  generalize hws : word :: args = ws at h
  cases h with
  | upload hword =>
    cases hws
    obtain _ | ⟨ha, _ | ⟨hb, ⟨⟩⟩⟩ := hargs
    exact ⟨_, .upload hword, .upload ha hb⟩
  | uploadDir hword hlimit =>
    cases hws
    obtain _ | ⟨ha, _ | ⟨hb, ⟨⟩⟩⟩ := hargs
    exact ⟨_, .uploadDir hword hlimit, .uploadDir _ ha hb⟩
  | backup hword =>
    cases hws
    obtain _ | ⟨ha, ⟨⟩⟩ := hargs
    exact ⟨_, .backup hword, .backup ha⟩
  | zipBackup hword =>
    cases hws
    obtain _ | ⟨ha, _ | ⟨hb, hrest⟩⟩ := hargs
    refine ⟨_, .zipBackup hword, .zipBackup ha ?_⟩
    rw [List.forall₂_map_left_iff, List.forall₂_map_right_iff]
    exact .cons hb hrest

/-- **Commands whose words are related one by one are of one kind**, if the first ones are equal. -/
theorem ofCommand_pointwise {a b : String} (hab : r a b)
    (hwords : List.Forall₂ (fun w w' => r (.ofList w) (.ofList w')) (Text.words a.toList)
      (Text.words b.toList))
    (hfirst : (Text.words b.toList).head? = (Text.words a.toList).head?) :
    Pointwise r (ofCommand a) (ofCommand b) := by
  have hraw : ∀ {command : String}, (∀ o, ¬Names (Text.words command.toList) o) →
      ofCommand command = .raw command := fun hnone =>
    (ofCommand_eq_iff (Text.spaced_iff.2 rfl)).2 (.inr ⟨rfl, hnone⟩)
  have hnamed : ∀ {command : String} {o}, Names (Text.words command.toList) o →
      ofCommand command = o := fun h => (ofCommand_eq_iff (Text.spaced_iff.2 rfl)).2 (.inl h)
  rcases ha : Text.words a.toList with _ | ⟨word, args⟩
  · rw [ha, List.forall₂_nil_left_iff] at hwords
    have hnone : ∀ o, ¬Names [] o := fun o h => by cases h
    rw [hraw (ha ▸ hnone), hraw (hwords ▸ hnone)]
    exact .raw hab
  · rw [ha] at hwords hfirst
    obtain ⟨first, args', -, hargs, hb⟩ := List.forall₂_cons_left_iff.1 hwords
    obtain rfl : word = first := by simpa [hb, eq_comm] using hfirst
    by_cases hnames : ∃ o, Names (word :: args) o
    · obtain ⟨o, ho⟩ := hnames
      obtain ⟨o', ho', hpointwise⟩ := ho.pointwise hargs
      rw [hnamed (ha ▸ ho), hnamed (hb ▸ ho')]
      exact hpointwise
    · -- If the other command named an operation, then so would this one.
      have hnone' : ∀ o, ¬Names (word :: args') o := by
        intro o ho
        obtain ⟨o', ho', -⟩ := ho.pointwise (r := fun x y => r y x) hargs.flip
        exact hnames ⟨o', ho'⟩
      rw [hraw (ha ▸ not_exists.1 hnames), hraw (hb ▸ hnone')]
      exact .raw hab

end Operation

/-! ## Commands -/

namespace Template

/-- The first word of a template, if there is one, has no placeholder in it. -/
def PlainStart (template : String) : Prop :=
  ∀ w, (Text.words template.toList).head? = some w → Plain w

theorem plain_of_not_mem (h : '{' ∉ s) : Plain s := by
  rintro digits - hslot
  exact h (hslot.subset List.mem_cons_self)

end Template

namespace Package

open Template

variable {template command : String}

/-- A template is filled word by word. -/
theorem fillCommand_words_pointwise (hv : ∀ v ∈ values, IsWord v)
    (h : fillCommand values template = .ok command) :
    List.Forall₂ (fun w w' => fillCommand values (.ofList w) = .ok (.ofList w'))
      (Text.words template.toList) (Text.words command.toList) := by
  obtain ⟨ws', hspaced, hws⟩ := Filled.words hv (Text.spaced_iff.2 rfl) (fillCommand_ok.1 h)
  rw [hspaced.words_eq]
  refine hws.imp fun w w' hw => ?_
  rw [fillCommand_ok, String.toList_ofList, String.toList_ofList]
  exact hw

/-- A template with a plain first word is filled into a command of the same kind. -/
theorem fillCommand_pointwise (hv : ∀ v ∈ values, IsWord v) (hplain : PlainStart template)
    (h : fillCommand values template = .ok command) :
    Operation.Pointwise (fun a b => fillCommand values a = .ok b) (.ofCommand template)
      (.ofCommand command) := by
  have hwords := fillCommand_words_pointwise hv h
  refine Operation.ofCommand_pointwise h hwords ?_
  rcases ht : Text.words template.toList with _ | ⟨word, args⟩
  · rw [ht, List.forall₂_nil_left_iff] at hwords
    rw [hwords]
  · rw [ht] at hwords
    -- A word without a placeholder is filled with itself.
    obtain ⟨word', args', hword, -, hc⟩ := List.forall₂_cons_left_iff.1 hwords
    have hsegments : segments word = word.map .literal :=
      segments_plain (hplain word (by rw [ht]; rfl))
    rw [fillCommand_ok, String.toList_ofList, String.toList_ofList, hsegments,
      filled_literals] at hword
    rw [hc, hword]
    rfl

/-- **Filling commutes with cutting into words, and with classification.** Let no value be empty or
have a blank in it. Then a template can be filled exactly if each of its words can, and the words of
the command are those of the template, each of them filled. If there is no placeholder in the first
word, the command is an operation of the kind that the template is, with the same limit, and with
each argument filled; or both are for the shell. So what a package is compiled to has, one after
another, the kinds of its templates. -/
theorem fillCommand_words (hv : ∀ v ∈ values, IsWord v) :
    (∀ template, (∃ command, fillCommand values template = .ok command) ↔
      ∀ w ∈ Text.words template.toList, ∃ word, fillCommand values (.ofList w) = .ok word) ∧
    (∀ template command, fillCommand values template = .ok command →
      List.Forall₂ (fun w w' => fillCommand values (.ofList w) = .ok (.ofList w'))
        (Text.words template.toList) (Text.words command.toList) ∧
      (PlainStart template → Operation.Pointwise (fun a b => fillCommand values a = .ok b)
        (.ofCommand template) (.ofCommand command))) ∧
    ∀ globals (p : Package) commands, p.resolve globals = .ok values →
      (∀ template ∈ p.commands, PlainStart template) → p.compile globals = .ok commands →
      List.Forall₂ (fun template command =>
        Operation.Pointwise (fun a b => fillCommand values a = .ok b) (.ofCommand template)
          (.ofCommand command) ∧
        (Operation.ofCommand command).kind = (Operation.ofCommand template).kind)
        p.commands commands := by
  refine ⟨fun template => ⟨?_, fun h => ?_⟩, fun template command h => ?_, ?_⟩
  · rintro ⟨command, h⟩ w hw
    have hwords := fillCommand_words_pointwise hv h
    obtain ⟨i, hi, rfl⟩ := List.getElem_of_mem hw
    exact ⟨_, hwords.get hi (hwords.length_eq ▸ hi)⟩
  · have hfilled : ∀ w ∈ Text.words template.toList, ∃ text, Filled values (segments w) text := by
      intro w hw
      obtain ⟨word, hword⟩ := h w hw
      rw [fillCommand_ok, String.toList_ofList] at hword
      exact ⟨_, hword⟩
    obtain ⟨text, htext⟩ := exists_filled (Text.spaced_iff.2 rfl) hfilled
    refine ⟨.ofList text, ?_⟩
    rw [fillCommand_ok, String.toList_ofList]
    exact htext
  · exact ⟨fillCommand_words_pointwise hv h, fun hplain => fillCommand_pointwise hv hplain h⟩
  · intro globals p commands hvalues hplain hcommands
    have hmap : p.commands.mapM (fillCommand values) = .ok commands := by
      simpa [Package.compile, hvalues, Bind.bind, Except.bind] using hcommands
    rw [mapM_ok] at hmap
    rw [List.forall₂_iff_get] at hmap ⊢
    refine ⟨hmap.1, fun i hi hi' => ?_⟩
    have hkind := fillCommand_pointwise hv (hplain _ (List.get_mem _ _)) (hmap.2 i hi hi')
    exact ⟨hkind, hkind.kind_eq⟩

/-- A template for an upload with a tab in it, and placeholders in both arguments. -/
theorem fillCommand_words_upload :
    let template := "Upload \x7b0\x7d/a.jar\t\x7b1\x7d\x7b1\x7d"
    (∀ v ∈ ["dist", "/srv"], IsWord v) ∧ PlainStart template ∧
      Operation.ofCommand template = .upload "\x7b0\x7d/a.jar" "\x7b1\x7d\x7b1\x7d" ∧
      fillCommand ["dist", "/srv"] template = .ok "Upload dist/a.jar\t/srv/srv" ∧
      Operation.Pointwise (fun a b => fillCommand ["dist", "/srv"] a = .ok b)
        (.ofCommand template) (.ofCommand "Upload dist/a.jar\t/srv/srv") := by
  intro template
  have hv : ∀ v ∈ ["dist", "/srv"], IsWord v := by decide
  have hplain : PlainStart template := by
    intro w hw
    have hfirst : (Text.words template.toList).head? = some "Upload".toList := by decide
    obtain rfl := Option.some.inj (hfirst.symm.trans hw)
    exact plain_of_not_mem (by decide)
  have hfill : fillCommand ["dist", "/srv"] template = .ok "Upload dist/a.jar\t/srv/srv" := by
    decide
  exact ⟨hv, hplain, by decide, hfill, ((fillCommand_words hv).2.1 _ _ hfill).2 hplain⟩

end Package

end Rollout
