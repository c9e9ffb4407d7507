import Mathlib.Data.List.Infix
import Rollout.Proofs.Compilation
import Rollout.Proofs.Placeholders
import Rollout.Proofs.Utf8

/-!
# Filling templates

A template is filled in one pass: its literal pieces stay, and each placeholder becomes the value of its
number. Nothing that is put in is read again. The same is done with a cursor on the bytes of the
template, from one placeholder to the next, and every piece that is cut out on the way lies between two
ends of characters.

* `fillCommand_ok_iff` and `fillCommand_error_iff`: what filling gives, by the division of a template.
* `Division.mem_places_iff`: the places that the cursor visits are those where placeholders stand.
* `slice?_eq`, `splice_eq`: what is cut out at them, and that filling by places comes to the same.
* `fillCommand_exact`: all of it, for every template.
-/

namespace Rollout

variable {values : List String} {template : String} {s before after piece digits : List Char}

namespace Template

/-! ## Filling a division -/

namespace Division

/-- The literal pieces of a division, each but the last with a text after it. -/
def filled (d : Division) (texts : List String) : List Char :=
  (d.parts.zipWith (fun part text => part.1 ++ text.toList) texts).flatten ++ d.rest

/-- A value with the number that is in the placeholder. -/
def HasValue (values : List String) (part : List Char × List Char) (value : String) : Prop :=
  ∃ n, Text.Denotes part.2 n ∧ values[n]? = some value

/-- No value has the number that is in the placeholder, or no number is. -/
def Unfilled (values : List String) (part : List Char × List Char) : Prop :=
  ∀ n, Text.Denotes part.2 n → values.length ≤ n

theorem filled_cons {parts : List (List Char × List Char)} {rest : List Char} (value : String)
    (texts : List String) :
    filled ⟨(piece, digits) :: parts, rest⟩ (value :: texts) =
      piece ++ value.toList ++ filled ⟨parts, rest⟩ texts := by
  simp [filled]

/-- Literal pieces stay as they are. -/
theorem filled_literals_iff (values : List String) (piece : List Char) (segments : List Segment)
    {text : List Char} :
    Filled values (piece.map .literal ++ segments) text ↔
      ∃ rest, text = piece ++ rest ∧ Filled values segments rest := by
  induction piece generalizing text with
  | nil => simp
  | cons ch piece ih =>
    rw [List.map_cons, List.cons_append]
    constructor
    · rintro (_ | hf)
      obtain ⟨rest, rfl, hrest⟩ := ih.1 hf
      exact ⟨rest, rfl, hrest⟩
    · rintro ⟨rest, rfl, hrest⟩
      exact .literal (ih.2 ⟨rest, rfl, hrest⟩)

theorem filled_iff {d : Division} {text : List Char} :
    Filled values d.segments text ↔
      ∃ texts, List.Forall₂ (HasValue values) d.parts texts ∧ text = d.filled texts := by
  obtain ⟨parts, rest⟩ := d
  induction parts generalizing text with
  | nil =>
    have hsegments : segments ⟨[], rest⟩ = rest.map .literal ++ [] := by simp [segments]
    rw [hsegments, filled_literals_iff]
    constructor
    · rintro ⟨_, rfl, ⟨⟩⟩
      exact ⟨[], .nil, List.append_nil _⟩
    · rintro ⟨_, ⟨⟩, rfl⟩
      exact ⟨[], (List.append_nil _).symm, .nil⟩
  | cons part parts ih =>
    obtain ⟨piece, digits⟩ := part
    rw [segments_cons, filled_literals_iff]
    constructor
    · rintro ⟨_, rfl, _ | _ | ⟨hd, hv, hf⟩⟩
      obtain ⟨texts, htexts, rfl⟩ := ih.1 hf
      exact ⟨_ :: texts, .cons ⟨_, hd, hv⟩ htexts, by rw [filled_cons, List.append_assoc]⟩
    · rintro ⟨_, _ | ⟨⟨n, hd, hv⟩, htexts⟩, rfl⟩
      exact ⟨_, by simp [filled_cons], .slot hd hv (ih.2 ⟨_, htexts, rfl⟩)⟩

theorem slots_segments (d : Division) : slots d.segments = d.parts.map Prod.snd := by
  have hliterals : ∀ piece : List Char, slots (piece.map .literal) = [] := by
    intro piece
    simp [slots]
  obtain ⟨parts, rest⟩ := d
  induction parts with
  | nil =>
    have hsegments : segments ⟨[], rest⟩ = rest.map .literal := rfl
    rw [hsegments, hliterals]
    rfl
  | cons part parts ih =>
    have happend : ∀ a b : List Segment, slots (a ++ b) = slots a ++ slots b := by
      intro a b
      simp [slots]
    have hslot : slots (.slot part.2 :: segments ⟨parts, rest⟩) =
        part.2 :: slots (segments ⟨parts, rest⟩) := rfl
    rw [segments_cons, happend, hliterals, hslot, ih]
    rfl

end Division

/-! ## Places -/

/-- The number of bytes of a text. -/
def size (s : List Char) : Nat := (Utf8.encode s).length

/-- Whether a number of bytes leads to the end of a character, or to the beginning of the text. -/
def isBoundary (s : List Char) (place : Nat) : Bool := s.inits.any fun t => size t == place

/-- The text between two places; there is none unless they are in order, and both at boundaries. -/
def slice? (s : List Char) (start stop : Nat) : Option (List Char) :=
  if start ≤ stop ∧ isBoundary s start ∧ isBoundary s stop then
    Utf8.decode? (((Utf8.encode s).drop start).take (stop - start))
  else none

@[simp] theorem size_append (s t : List Char) : size (s ++ t) = size s + size t := by
  simp [size, Utf8.encode]

theorem size_brace (t : List Char) : size ('{' :: t) = 1 + size t ∧ size ['}'] = 1 := by
  have hopen : size ['{'] = 1 := by decide
  have hclose : size ['}'] = 1 := by decide
  have hsplit : size (['{'] ++ t) = size ['{'] + size t := size_append _ _
  exact ⟨by rw [← hopen, ← hsplit]; rfl, hclose⟩

theorem isBoundary_size (s t : List Char) : isBoundary (s ++ t) (size s) = true := by
  unfold isBoundary
  rw [List.any_eq_true]
  exact ⟨s, (List.mem_inits _ _).2 ⟨t, rfl⟩, by simp⟩

/-- What is cut out between the ends of two texts is what lies between them. -/
theorem slice?_eq (before t after : List Char) :
    slice? (before ++ t ++ after) (size before) (size before + size t) = some t := by
  have hstart : isBoundary (before ++ t ++ after) (size before) = true := by
    rw [List.append_assoc]
    exact isBoundary_size before _
  have hstop : isBoundary (before ++ t ++ after) (size before + size t) = true := by
    rw [← size_append]
    exact isBoundary_size (before ++ t) after
  have hbytes : ((Utf8.encode (before ++ t ++ after)).drop (size before)).take (size t) =
      Utf8.encode t := by
    simp [Utf8.encode, size]
  unfold slice?
  rw [if_pos ⟨by omega, hstart, hstop⟩, Nat.add_sub_cancel_left, hbytes,
    Utf8.decode?_eq_some_iff.2 rfl]

/-- Where a placeholder begins and ends. -/
structure Place where
  start : Nat
  stop : Nat
  deriving Repr, DecidableEq

namespace Division

/-- The places of placeholders, if the first piece begins at a place. -/
def placesFrom (start : Nat) : List (List Char × List Char) → List Place
  | [] => []
  | (piece, digits) :: parts =>
    let first := start + size piece
    let stop := first + size (Segment.slot digits).write
    ⟨first, stop⟩ :: placesFrom stop parts

/-- The places of the placeholders of a division. -/
def places (d : Division) : List Place := placesFrom 0 d.parts

/-- A placeholder stands between two places of a text. -/
def StandsAt (s : List Char) (p : Place) : Prop :=
  ∃ before digits after, IsSlot digits ∧ s = before ++ (Segment.slot digits).write ++ after ∧
    p.start = size before ∧ p.stop = size (before ++ (Segment.slot digits).write)

theorem placesFrom_append (parts parts' : List (List Char × List Char)) : ∀ start : Nat,
    placesFrom start (parts ++ parts') =
      placesFrom start parts ++ placesFrom (start + size (write ⟨parts, []⟩)) parts' := by
  induction parts with
  | nil =>
    intro start
    have hzero : size (write ⟨[], []⟩) = 0 := rfl
    rw [hzero]
    rfl
  | cons part parts ih =>
    intro start
    obtain ⟨piece, digits⟩ := part
    simp only [List.cons_append, placesFrom, ih, write_cons, size_append, Nat.add_assoc]

theorem size_write (parts : List (List Char × List Char)) (rest : List Char) :
    size (write ⟨parts, rest⟩) = size (write ⟨parts, []⟩) + size rest := by
  rw [← size_append]
  simp [write]

/-- Every place is that of a placeholder. -/
theorem standsAt_of_mem {d : Division} (h : d.Divides s) {p : Place} (hp : p ∈ d.places) :
    StandsAt s p := by
  obtain ⟨parts, rest⟩ := d
  -- Of the parts up to the place, the last one is cut off.
  have key : ∀ (later : List (List Char × List Char)) (before : List Char),
      p ∈ placesFrom (size before) later → (∀ part ∈ later, IsSlot part.2) →
      StandsAt (before ++ write ⟨later, rest⟩) p := by
    intro later
    induction later with
    | nil => intro before hmem; cases hmem
    | cons part later ih =>
      intro before hmem hslot
      obtain ⟨piece, digits⟩ := part
      obtain ⟨hd, hslot⟩ := List.forall_mem_cons.1 hslot
      rw [write_cons, ← List.append_assoc, ← List.append_assoc]
      rcases List.mem_cons.1 hmem with rfl | hmem
      · exact ⟨before ++ piece, digits, _, hd, rfl, by simp, by simp [Nat.add_assoc]⟩
      · refine ih _ ?_ hslot
        simpa only [size_append, Nat.add_assoc] using hmem
  have hwrite : s = [] ++ write ⟨parts, rest⟩ := h.write.symm
  rw [hwrite]
  exact key parts [] hp h.slot

/-- **The places are those at which a placeholder stands**, every one of them. -/
theorem mem_places_iff {d : Division} (h : d.Divides s) {p : Place} :
    p ∈ d.places ↔ StandsAt s p := by
  constructor
  · exact standsAt_of_mem h
  · rintro ⟨before, digits, after, hd, rfl, hstart, hstop⟩
    -- The text is divided at this placeholder, and there is no other way to divide it.
    obtain ⟨b, hb⟩ := exists_divides before
    obtain ⟨a, ha⟩ := exists_divides after
    have hd' := hb.around hd ha
    rw [divides_iff] at h hd'
    have hstart' : size (write ⟨b.parts, []⟩) + size b.rest = size before := by
      rw [← size_write, hb.write]
    obtain ⟨start, stop⟩ := p
    obtain rfl : start = size before := hstart
    obtain rfl : stop = size before + size (Segment.slot digits).write := by
      rw [← size_append]
      exact hstop
    rw [h, ← hd', places, placesFrom_append]
    refine List.mem_append_right _ ?_
    simp only [placesFrom, Nat.zero_add, hstart']
    exact List.mem_cons_self

end Division

/-! ## Filling with a cursor -/

/-- A template filled from a place on: what lies before each placeholder, and the value of its number,
go to the text that is there already. There is no answer if a piece could not be cut out. -/
def spliceFrom (values : List String) (template : String) (text : List Char) (last : Nat) :
    List Place → Option (Except PackageFault String)
  | [] => do
    let piece ← slice? template.toList last (size template.toList)
    return .ok (String.ofList (text ++ piece))
  | place :: places => do
    let piece ← slice? template.toList last place.start
    let digits ← slice? template.toList (place.start + 1) (place.stop - 1)
    match value? values digits with
    | some value =>
      spliceFrom values template (text ++ piece ++ value.toList) place.stop places
    | none =>
      let placeholder ← slice? template.toList place.start place.stop
      return .error (.placeholderOutOfRange template (String.ofList placeholder) values.length)

/-- A template filled from its first place on. -/
def splice (values : List String) (template : String) : Option (Except PackageFault String) :=
  spliceFrom values template [] 0 (division template.toList).places

/-- The answer for a template whose first part gave a text. -/
def answer (values : List String) (template : String) (text : List Char)
    (r : Except (List Char) (List Char)) : Except PackageFault String :=
  match r with
  | .ok more => .ok (String.ofList (text ++ more))
  | .error placeholder =>
    .error (.placeholderOutOfRange template (String.ofList placeholder) values.length)

theorem fillSegments_literals (values : List String) (piece : List Char)
    (segments : List Segment) :
    fillSegments values (piece.map .literal ++ segments) =
      (fillSegments values segments).map (piece ++ ·) := by
  induction piece with
  | nil => cases h : fillSegments values segments <;> simp [h, Except.map]
  | cons ch piece ih =>
    rw [List.map_cons, List.cons_append, fillSegments, ih]
    cases fillSegments values segments <;> rfl

theorem fillSegments_slot (digits : List Char) (segments : List Segment) :
    fillSegments values (.slot digits :: segments) = match value? values digits with
      | some value => (fillSegments values segments).map (value.toList ++ ·)
      | none => .error (Segment.slot digits).write := by
  rw [fillSegments, Segment.fill]
  cases value? values digits with
  | none => rfl
  | some value => cases fillSegments values segments <;> rfl

/-- The pieces that are cut out for a part: what lies before the placeholder, the placeholder, and its
digits. -/
theorem slices (h : s = before ++ piece ++ (Segment.slot digits).write ++ after) :
    let start := size before + size piece
    let stop := start + size (Segment.slot digits).write
    slice? s (size before) start = some piece ∧
      slice? s start stop = some (Segment.slot digits).write ∧
      slice? s (start + 1) (stop - 1) = some digits := by
  intro start stop
  have hwrite : (Segment.slot digits).write = '{' :: (digits ++ ['}']) := rfl
  have hstart : start = size (before ++ piece) := (size_append _ _).symm
  -- The braces are one byte each, so that the digits begin and end one byte inside.
  have hopen : start + 1 = size (before ++ piece ++ ['{']) := by
    rw [size_append, ← hstart, (size_brace []).1]
    rfl
  have hclose : stop - 1 = start + 1 + size digits := by
    have hslot : size (Segment.slot digits).write = 1 + (size digits + 1) := by
      rw [hwrite, (size_brace _).1, size_append, (size_brace []).2]
    omega
  refine ⟨?_, ?_, ?_⟩
  · have hs : s = before ++ piece ++ ((Segment.slot digits).write ++ after) := by
      rw [h, List.append_assoc]
    rw [hs]
    exact slice?_eq before piece _
  · have hslot := slice?_eq (before ++ piece) (Segment.slot digits).write after
    rwa [← hstart, ← h] at hslot
  · have hs : s = before ++ piece ++ ['{'] ++ digits ++ ('}' :: after) := by
      rw [h, hwrite]
      simp
    rw [hclose, hopen, hs]
    exact slice?_eq (before ++ piece ++ ['{']) digits _

/-- **The cursor keeps to the ends of characters.** It stands at the end of what has been filled, and
what it cuts out from there is the next literal piece and the next placeholder. -/
theorem spliceFrom_eq (values : List String) {template : String} {rest : List Char}
    (parts : List (List Char × List Char)) :
    ∀ before text : List Char, template.toList = before ++ Division.write ⟨parts, rest⟩ →
      spliceFrom values template text (size before) (Division.placesFrom (size before) parts) =
        some (answer values template text
          (fillSegments values (Division.segments ⟨parts, rest⟩))) := by
  induction parts with
  | nil =>
    intro before text h
    have hs : template.toList = before ++ rest ++ [] := by simpa [Division.write] using h
    have hslice := slice?_eq before rest []
    have hfill := fillSegments_literals values rest []
    rw [← hs] at hslice
    have hsize : size template.toList = size before + size rest := by
      rw [hs, List.append_nil, size_append]
    have hsegments : Division.segments ⟨[], rest⟩ = rest.map .literal ++ [] := by
      simp [Division.segments]
    rw [Division.placesFrom, spliceFrom, hsize, hslice, hsegments, hfill]
    simp [fillSegments, answer, Except.map, Pure.pure]
  | cons part parts ih =>
    intro before text h
    obtain ⟨piece, digits⟩ := part
    rw [Division.write_cons, ← List.append_assoc, ← List.append_assoc] at h
    obtain ⟨hpiece, hslot, hdigits⟩ := slices h
    rw [Division.placesFrom, spliceFrom, Division.segments_cons, fillSegments_literals,
      fillSegments_slot]
    simp only [hpiece, hdigits, Option.bind_eq_bind, Option.bind_some]
    cases hv : value? values digits with
    | none =>
      simp only [hslot, Option.bind_some]
      rfl
    | some value =>
      have hnext := ih (before ++ piece ++ (Segment.slot digits).write)
        (text ++ piece ++ value.toList) h
      simp only [size_append] at hnext
      simp only [hnext]
      cases fillSegments values (Division.segments ⟨parts, rest⟩) <;>
        simp [answer, Except.map]

end Template

namespace Package

open Template

/-- **Filling with a cursor never fails to cut out a piece**, and comes to the same. -/
theorem splice_eq (values : List String) (template : String) :
    splice values template = some (fillCommand values template) := by
  have hwrite : template.toList = [] ++ (division template.toList).write :=
    (Division.divides_iff.2 rfl).write.symm
  have h : splice values template =
      some (answer values template [] (fillSegments values (division template.toList).segments)) :=
    spliceFrom_eq values (division template.toList).parts [] [] hwrite
  rw [h, fillCommand_eq, ← Division.segments_division]
  cases fillSegments values (division template.toList).segments <;> rfl

variable {d : Division} {command : String} {f : PackageFault}

/-- A command is the literal pieces of its template, with the values in between. -/
theorem fillCommand_ok_iff (h : d.Divides template.toList) :
    fillCommand values template = .ok command ↔
      ∃ texts, List.Forall₂ (Division.HasValue values) d.parts texts ∧
        command.toList = d.filled texts := by
  rw [fillCommand_ok, h.segments_eq, Division.filled_iff]

/-- What is wrong with a template is the first placeholder without a value. -/
theorem fillCommand_error_iff (h : d.Divides template.toList) :
    fillCommand values template = .error f ↔
      First (fun part f => Division.Unfilled values part ∧
        f = .placeholderOutOfRange template (String.ofList (Segment.slot part.2).write)
          values.length) d.parts f := by
  rw [fillCommand_error [], spotsOf, h.segments_eq, Division.slots_segments, List.map_map,
    first_map]
  refine first_congr fun part _ f => ?_
  rw [Function.comp_apply, faulty_slot]
  constructor
  · rintro ⟨_, ⟨hn, rfl⟩, rfl⟩
    exact ⟨hn, rfl⟩
  · rintro ⟨hn, rfl⟩
    exact ⟨_, ⟨hn, rfl⟩, rfl⟩

/-- A template can be filled exactly if each of its placeholders has the number of a value. -/
theorem fillCommand_isOk_iff (h : d.Divides template.toList) :
    (∃ command, fillCommand values template = .ok command) ↔
      ∀ part ∈ d.parts, ∃ n, Text.Denotes part.2 n ∧ n < values.length := by
  rw [← Except.not_error_iff]
  simp only [Ne, fillCommand_error_iff h]
  rw [not_first_iff]
  refine forall₂_congr fun part _ => ?_
  constructor
  · intro hn
    by_contra hnone
    refine hn _ ⟨fun n hd => ?_, rfl⟩
    by_contra hlt
    exact hnone ⟨n, hd, by omega⟩
  · rintro ⟨n, hd, hlt⟩ f ⟨hn, -⟩
    have hle := hn n hd
    omega

/-- **Templates are filled exactly, and in one pass.** A template is literal pieces and placeholders in
one way only. It can be filled exactly if the digits of every placeholder are ASCII and have the number
of a value, and the command is then its literal pieces as they are, with the values as they are between
them. Otherwise the answer is the first placeholder that has no such number, with the whole template and
the number of values. With a cursor that goes from one placeholder to the next by bytes, the same comes
out, and whatever is cut out lies between boundaries that are in order. -/
theorem fillCommand_exact (values : List String) (template : String) :
    ∃ d : Division, (∀ d', d'.Divides template.toList ↔ d' = d) ∧
      ((∃ command, fillCommand values template = .ok command) ↔
        ∀ part ∈ d.parts, ∃ n, Text.Denotes part.2 n ∧ n < values.length) ∧
      (∀ command, fillCommand values template = .ok command ↔
        ∃ texts, List.Forall₂ (Division.HasValue values) d.parts texts ∧
          command.toList = d.filled texts) ∧
      (∀ f, fillCommand values template = .error f ↔
        First (fun part f => Division.Unfilled values part ∧
          f = .placeholderOutOfRange template (String.ofList (Segment.slot part.2).write)
            values.length) d.parts f) ∧
      (∀ p, p ∈ d.places ↔ Division.StandsAt template.toList p) ∧
      spliceFrom values template [] 0 d.places = some (fillCommand values template) := by
  have h : (division template.toList).Divides template.toList := Division.divides_iff.2 rfl
  exact ⟨division template.toList, fun _ => Division.divides_iff, fillCommand_isOk_iff h,
    fun _ => fillCommand_ok_iff h, fun _ => fillCommand_error_iff h,
    fun _ => Division.mem_places_iff h, splice_eq values template⟩

end Package

end Rollout
