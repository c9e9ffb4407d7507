import Mathlib.Tactic.Push
import Rollout.Template

/-!
# The placeholders of a template

A placeholder is a piece of text of a certain form, wherever it stands: one or more decimal digits in
braces. Its only opening brace is its first character, so no two placeholders overlap, and every text is
literal pieces and placeholders in one way only.

* `Division.Divides`: what it is to divide a text into literal pieces and placeholders.
* `exists_divides`: every text can be divided, at its first placeholder to begin with.
* `Divides.segments_eq`: the reader of templates finds the placeholders of any division there is.
* `divides_iff`: a text has one division, and it is the one that is read.
-/

namespace Rollout.Template

/-- One or more decimal digits of any script. -/
def IsSlot (digits : List Char) : Prop := digits ≠ [] ∧ ∀ ch ∈ digits, Text.isDigit ch = true

/-- A text in which no placeholder stands. -/
def Plain (s : List Char) : Prop := ∀ digits, IsSlot digits → ¬(Segment.slot digits).write <:+: s

/-- Literal pieces with the digits of the placeholder after each of them, and the last piece. -/
structure Division where
  parts : List (List Char × List Char)
  rest : List Char
  deriving Repr, DecidableEq

namespace Division

def write (d : Division) : List Char :=
  d.parts.flatMap (fun part => part.1 ++ (Segment.slot part.2).write) ++ d.rest

/-- The characters and placeholders of a division. -/
def segments (d : Division) : List Segment :=
  d.parts.flatMap (fun part => part.1.map .literal ++ [.slot part.2]) ++ d.rest.map .literal

/-- A division of a text: put together again it is the text, there are digits in its placeholders, and
no placeholder stands in its literal pieces. -/
structure Divides (d : Division) (s : List Char) : Prop where
  write : d.write = s
  slot : ∀ part ∈ d.parts, IsSlot part.2
  plain : ∀ part ∈ d.parts, Plain part.1
  rest : Plain d.rest

/-- A division with one more segment at its beginning. -/
def cons : Segment → Division → Division
  | .literal ch, ⟨[], rest⟩ => ⟨[], ch :: rest⟩
  | .literal ch, ⟨(piece, digits) :: parts, rest⟩ => ⟨(ch :: piece, digits) :: parts, rest⟩
  | .slot digits, ⟨parts, rest⟩ => ⟨([], digits) :: parts, rest⟩

/-- The division that segments make. -/
def ofSegments (s : List Segment) : Division := s.foldr cons ⟨[], []⟩

end Division

/-- The division of a text that its segments make. -/
def division (s : List Char) : Division := .ofSegments (segments s)

variable {s t before after piece digits : List Char} {d d' : Division}

/-! ## Literal text -/

theorem Plain.infix (h : Plain s) (ht : t <:+: s) : Plain t :=
  fun digits hd hp => h digits hd (hp.trans ht)

theorem brace_not_isDigit : Text.isDigit '{' = false ∧ Text.isDigit '}' = false := by decide

/-- A text is literal, or it has a first placeholder. -/
theorem plain_or_first (s : List Char) :
    Plain s ∨ ∃ before digits after, Plain before ∧ IsSlot digits ∧
      s = before ++ (Segment.slot digits).write ++ after := by
  induction hn : s.length using Nat.strongRecOn generalizing s with
  | ind n ih =>
    by_cases hs : Plain s
    · exact .inl hs
    · refine .inr ?_
      unfold Plain at hs
      push Not at hs
      obtain ⟨digits, hd, before, after, rfl⟩ := hs
      -- What stands before some placeholder is shorter, so its own first placeholder is known.
      have hlt : before.length < n := by
        simp only [← hn, Segment.write, List.length_append, List.length_cons]
        omega
      rcases ih _ hlt before rfl with hb | ⟨before', digits', after', hb, hd', rfl⟩
      · exact ⟨before, digits, after, hb, hd, rfl⟩
      · refine ⟨before', digits', after' ++ (Segment.slot digits).write ++ after, hb, hd', ?_⟩
        simp only [List.append_assoc]

/-! ## Divisions -/

namespace Division

theorem write_cons (piece digits : List Char) (parts : List (List Char × List Char))
    (rest : List Char) :
    write ⟨(piece, digits) :: parts, rest⟩ =
      piece ++ (Segment.slot digits).write ++ write ⟨parts, rest⟩ := by
  simp [write]

theorem segments_cons (piece digits : List Char) (parts : List (List Char × List Char))
    (rest : List Char) :
    segments ⟨(piece, digits) :: parts, rest⟩ =
      piece.map .literal ++ .slot digits :: segments ⟨parts, rest⟩ := by
  simp [segments]

theorem Divides.cons (hp : Plain piece) (hd : IsSlot digits) (h : d.Divides s) :
    Divides ⟨(piece, digits) :: d.parts, d.rest⟩ (piece ++ (Segment.slot digits).write ++ s) where
  write := by rw [write_cons, ← h.write]
  slot := List.forall_mem_cons.2 ⟨hd, h.slot⟩
  plain := List.forall_mem_cons.2 ⟨hp, h.plain⟩
  rest := h.rest

theorem Divides.tail {parts : List (List Char × List Char)} {rest : List Char}
    (h : Divides ⟨(piece, digits) :: parts, rest⟩ s) :
    Divides ⟨parts, rest⟩ (Division.write ⟨parts, rest⟩) where
  write := rfl
  slot := (List.forall_mem_cons.1 h.slot).2
  plain := (List.forall_mem_cons.1 h.plain).2
  rest := h.rest

/-- Every text can be divided. -/
theorem exists_divides (s : List Char) : ∃ d : Division, d.Divides s := by
  induction hn : s.length using Nat.strongRecOn generalizing s with
  | ind n ih =>
    rcases plain_or_first s with hs | ⟨before, digits, after, hb, hd, rfl⟩
    · exact ⟨⟨[], s⟩, rfl, by simp, by simp, hs⟩
    · have hlt : after.length < n := by
        simp only [← hn, Segment.write, List.length_append, List.length_cons]
        omega
      obtain ⟨d, h⟩ := ih _ hlt after rfl
      exact ⟨_, h.cons hb hd⟩

/-- Divisions of two texts, with a placeholder between the texts, are one of the whole. -/
theorem Divides.around (h : d.Divides before) (hd : IsSlot digits) (h' : d'.Divides after) :
    Divides ⟨d.parts ++ (d.rest, digits) :: d'.parts, d'.rest⟩
      (before ++ (Segment.slot digits).write ++ after) where
  write := by simp [← h.write, ← h'.write, Division.write]
  slot := List.forall_mem_append.2 ⟨h.slot, List.forall_mem_cons.2 ⟨hd, h'.slot⟩⟩
  plain := List.forall_mem_append.2 ⟨h.plain, List.forall_mem_cons.2 ⟨h.rest, h'.plain⟩⟩
  rest := h'.rest

theorem foldr_literals (piece : List Char) (parts : List (List Char × List Char))
    (digits rest t : List Char) :
    (piece.map Segment.literal).foldr cons ⟨(t, digits) :: parts, rest⟩ =
      ⟨(piece ++ t, digits) :: parts, rest⟩ := by
  induction piece with
  | nil => rfl
  | cons ch piece ih => rw [List.map_cons, List.foldr_cons, ih]; rfl

theorem ofSegments_segments (d : Division) : ofSegments d.segments = d := by
  obtain ⟨parts, rest⟩ := d
  induction parts with
  | nil =>
    have h : segments ⟨[], rest⟩ = rest.map .literal := rfl
    rw [h, ofSegments]
    induction rest with
    | nil => rfl
    | cons ch rest ih => rw [List.map_cons, List.foldr_cons, ih rfl]; rfl
  | cons part parts ih =>
    obtain ⟨piece, digits⟩ := part
    have hrest : (segments ⟨parts, rest⟩).foldr cons ⟨[], []⟩ = ⟨parts, rest⟩ := ih
    rw [ofSegments, segments_cons, List.foldr_append, List.foldr_cons, hrest, cons,
      foldr_literals, List.append_nil]

end Division

/-! ## What the reader finds -/

/-- The characters that the reader holds back. -/
def heldText (held : Option (List Char)) : List Char := held.elim [] ('{' :: ·)

/-- Text that cannot go on with a placeholder: whatever is held back before it is literal. -/
def Breaks (t : List Char) : Prop :=
  ∀ ds, segmentsFrom (some ds) t = ('{' :: ds).map .literal ++ segmentsFrom none t

theorem breaks_nil : Breaks [] := by
  intro ds
  simp [segmentsFrom]

theorem breaks_brace (t : List Char) : Breaks ('{' :: t) := by
  intro ds
  simp [segmentsFrom, brace_not_isDigit]

theorem segmentsFrom_digits (hd : ∀ ch ∈ digits, Text.isDigit ch = true) :
    ∀ ds, segmentsFrom (some ds) (digits ++ t) = segmentsFrom (some (ds ++ digits)) t := by
  induction digits with
  | nil => simp
  | cons ch digits ih =>
    intro ds
    obtain ⟨hch, hdigits⟩ := List.forall_mem_cons.1 hd
    rw [List.cons_append, segmentsFrom, if_pos hch, ih hdigits, List.append_assoc,
      List.singleton_append]

theorem segmentsFrom_slot (hd : IsSlot digits) (t : List Char) :
    segmentsFrom none ((Segment.slot digits).write ++ t) = .slot digits :: segmentsFrom none t := by
  have hwrite : (Segment.slot digits).write ++ t = '{' :: (digits ++ '}' :: t) := by
    simp [Segment.write]
  rw [hwrite, segmentsFrom, if_pos rfl, segmentsFrom_digits hd.2, List.nil_append, segmentsFrom,
    if_neg (by simp [brace_not_isDigit]), if_pos ⟨rfl, hd.1⟩]

/-- **Text without a placeholder is read as it stands**, with whatever is held back before it. -/
theorem segmentsFrom_plain (ht : Breaks t) (s : List Char) : ∀ held : Option (List Char),
    (∀ ds ∈ held, ∀ ch ∈ ds, Text.isDigit ch = true) → Plain (heldText held ++ s) →
    segmentsFrom held (s ++ t) = (heldText held ++ s).map .literal ++ segmentsFrom none t := by
  induction s with
  | nil =>
    intro held _ _
    cases held with
    | none => rfl
    | some ds => simpa [heldText] using ht ds
  | cons ch s ih =>
    intro held hheld hplain
    -- The rest of the text is plain as well, also with the brace that it may begin with.
    have hlater : ∀ {held' : Option (List Char)}, heldText held' ++ s <:+ heldText held ++ ch :: s →
        Plain (heldText held' ++ s) := fun hsuffix => hplain.infix hsuffix.isInfix
    cases held with
    | none =>
      have hnone := ih none (by simp) (hlater ⟨[ch], by simp [heldText]⟩)
      rw [List.cons_append, segmentsFrom]
      by_cases hbrace : ch = '{'
      · have hsome := ih (some []) (by simp) (hlater ⟨[], by simp [heldText, hbrace]⟩)
        rw [if_pos hbrace, hsome]
        simp [heldText, hbrace]
      · rw [if_neg hbrace, hnone]
        simp [heldText]
    | some ds =>
      have hds : ∀ c ∈ ds, Text.isDigit c = true := hheld ds rfl
      have hnone := ih none (by simp) (hlater ⟨'{' :: ds ++ [ch], by simp [heldText]⟩)
      rw [List.cons_append, segmentsFrom]
      by_cases hdigit : Text.isDigit ch = true
      · have hmore : ∀ c ∈ ds ++ [ch], Text.isDigit c = true := by
          simpa [or_imp, forall_and] using ⟨hds, hdigit⟩
        have hsome := ih (some (ds ++ [ch])) (by simpa using hmore)
          (hlater ⟨[], by simp [heldText]⟩)
        rw [if_pos hdigit, hsome]
        simp [heldText]
      rw [if_neg hdigit]
      by_cases hclose : ch = '}' ∧ ds ≠ []
      · -- Otherwise the digits held back would make a placeholder.
        obtain ⟨rfl, hne⟩ := hclose
        refine absurd ?_ (hplain ds ⟨hne, hds⟩)
        exact ⟨[], s, by simp [heldText, Segment.write]⟩
      rw [if_neg hclose]
      by_cases hbrace : ch = '{'
      · have hsome := ih (some []) (by simp) (hlater ⟨'{' :: ds, by simp [heldText, hbrace]⟩)
        rw [if_pos hbrace, hsome]
        simp [heldText, hbrace]
      · rw [if_neg hbrace, hnone]
        simp [heldText]

namespace Division

/-- The reader finds the literal pieces and the placeholders of any division. -/
theorem Divides.segments_eq (h : d.Divides s) : Template.segments s = d.segments := by
  rw [← h.write, Template.segments]
  obtain ⟨parts, rest⟩ := d
  induction parts generalizing s with
  | nil =>
    have hrest := segmentsFrom_plain breaks_nil rest none (by simp) h.rest
    simpa [Division.write, Division.segments, heldText, segmentsFrom] using hrest
  | cons part parts ih =>
    obtain ⟨piece, digits⟩ := part
    obtain ⟨hslot, -⟩ := List.forall_mem_cons.1 h.slot
    obtain ⟨hplain, -⟩ := List.forall_mem_cons.1 h.plain
    have hbreaks : Breaks ((Segment.slot digits).write ++ Division.write ⟨parts, rest⟩) := breaks_brace _
    have hpiece := segmentsFrom_plain hbreaks piece none (by simp) hplain
    simp only [heldText, Option.elim_none, List.nil_append] at hpiece
    rw [write_cons, List.append_assoc, hpiece, segmentsFrom_slot hslot, ih h.tail, segments_cons]

/-- **A text has one division**, and it is the one that is read. -/
theorem divides_iff : d.Divides s ↔ d = division s := by
  have hread : ∀ {d : Division}, d.Divides s → d = division s := by
    intro d h
    rw [division, h.segments_eq, ofSegments_segments]
  constructor
  · exact hread
  · rintro rfl
    obtain ⟨d, h⟩ := exists_divides s
    exact hread h ▸ h

/-- Braces that stand around a placeholder are text. -/
example : division "\x7b\x7b0\x7d\x7d, \x7b1\x7b23\x7d".toList =
    ⟨[(['{'], ['0']), (['}', ',', ' ', '{', '1'], ['2', '3'])], []⟩ := by decide

theorem segments_division (s : List Char) : (division s).segments = Template.segments s :=
  (divides_iff.2 rfl).segments_eq.symm

end Division

end Rollout.Template
