import Rollout.Descriptor.Load
import Rollout.Proofs.Scanning

/-!
# What is written in JSON is read back

Every text that a descriptor may be written as is read as that descriptor, whatever was left out.

* `Decodes`: a decoder reads back what may be written. It holds of single values, and it is passed on to
  lists and records.
* `Fills`: the fields of an object, read one after another into a record. Fields that were left out read
  nothing, and the record ends up with the usual values.
* `Descriptor.parseJson_written`: the theorem for descriptors.
-/

namespace Rollout.Json

open Cursor (Ends)

variable {α β γ : Type} {d : Decoder α} {w : Writing α} {x y z : β} {s rest : List Char} {c : Cursor}

/-- A decoder reads a value from a text, and leaves what comes after it. -/
def Reads {α : Type} (d : Decoder α) (s : List Char) (x : α) : Prop :=
  ∀ (c : Cursor) (rest : List Char), c.rest = s ++ rest → Ends rest →
    ∃ c', d c = .ok (x, c') ∧ c'.rest = rest

/-- A text that begins a value: neither with a blank nor with the end of a list. -/
def Begins (s : List Char) : Prop := ∃ a s', s = a :: s' ∧ Cursor.isBlank a = false ∧ a ≠ ']'

/-- A decoder reads back what may be written. -/
structure Decodes (d : Decoder α) (w : Writing α) : Prop where
  begins {x : α} {s : List Char} : w x s → Begins s
  reads {x : α} {s : List Char} : w x s → Reads d s x

theorem atValue_cons {f : Char → Decoder α} {a : Char} (h : c.rest = a :: s)
    (ha : Cursor.isBlank a = false) : atValue f c = f a c := by
  simp only [atValue, Cursor.skipBlanks_cons h ha, Cursor.peek_cons h]

/-! ## Single values -/

theorem text_decodes : Decodes text Writing.text where
  begins h := ⟨'\"', _, h, rfl, by decide⟩
  reads {x s} h := by
    intro c rest hc _
    obtain rfl : s = quoted x.toList := h
    have hquote : c.rest = '\"' :: (x.toList.flatMap escaped ++ '\"' :: rest) := by
      simpa [quoted] using hc
    obtain ⟨c', hstring, hrest⟩ := Cursor.string_escaped (Cursor.advance_rest hquote)
    refine ⟨c', ?_, hrest⟩
    rw [text, atValue_cons hquote rfl, if_pos rfl, hstring]
    simp [bind, Except.bind]

theorem bool_decodes : Decodes bool Writing.bool where
  begins {x s} h := by
    cases x with
    | true => exact ⟨'t', ['r', 'u', 'e'], h, rfl, by decide⟩
    | false => exact ⟨'f', ['a', 'l', 's', 'e'], h, rfl, by decide⟩
  reads {x s} h := by
    intro c rest hc _
    cases x with
    | true =>
      obtain rfl : s = ['t', 'r', 'u', 'e'] := h
      obtain ⟨c', hword, hrest⟩ := Cursor.word_advance hc
      refine ⟨c', ?_, hrest⟩
      rw [bool, atValue_cons hc rfl, if_pos rfl, hword]
      rfl
    | false =>
      obtain rfl : s = ['f', 'a', 'l', 's', 'e'] := h
      obtain ⟨c', hword, hrest⟩ := Cursor.word_advance hc
      refine ⟨c', ?_, hrest⟩
      rw [bool, atValue_cons hc rfl, if_neg (by decide), if_pos rfl, hword]
      rfl

/-- The digits of a number begin with a digit. -/
theorem toDigits_cons (n : Nat) : ∃ a s, Nat.toDigits 10 n = a :: s ∧ a.isDigit = true := by
  obtain ⟨a, s, hs⟩ := List.exists_cons_of_ne_nil (Nat.toDigits_ne_nil (n := n) (b := 10))
  have ha : a ∈ Nat.toDigits 10 n := by rw [hs]; exact List.mem_cons_self
  exact ⟨a, s, hs, Nat.isDigit_of_mem_toDigits (by decide) (by decide) ha⟩

theorem not_isBlank_of_isDigit {a : Char} (ha : a.isDigit = true) : Cursor.isBlank a = false := by
  by_contra h
  simp only [Cursor.isBlank, Bool.not_eq_false, Bool.or_eq_true, decide_eq_true_eq] at h
  rcases h with ((rfl | rfl) | rfl) | rfl <;> exact absurd ha (by decide)

theorem begins_digits (n : Nat) : Begins (Nat.toDigits 10 n) := by
  obtain ⟨a, s, hs, ha⟩ := toDigits_cons n
  refine ⟨a, s, hs, not_isBlank_of_isDigit ha, ?_⟩
  rintro rfl
  exact absurd ha (by decide)

variable {wanted : String} {read : Number → Option α} {v : α}

theorem numeric_unsigned {n : Nat} (hn : n ≤ Word.greatest64) (hread : read (.unsigned n) = some v) :
    Reads (numeric wanted read) (Nat.toDigits 10 n) v := by
  intro c rest hc hend
  obtain ⟨c', hnumber, hrest⟩ := Cursor.number_digits hn (rfl : Cursor.wholeNumber false n = _) hend hc
  obtain ⟨a, s, hs, ha⟩ := toDigits_cons n
  have hminus : a ≠ '-' := by rintro rfl; exact absurd ha (by decide)
  rw [hs] at hc
  refine ⟨c', ?_, hrest⟩
  rw [numeric, atValue_cons hc (not_isBlank_of_isDigit ha), if_pos (.inr ha), if_neg hminus, hnumber]
  simp [bind, Except.bind, hread]

theorem numeric_signed {n : Nat} (hpos : n ≠ 0) (hn : n ≤ Word.count63)
    (hread : read (.signed (-(n : Int))) = some v) :
    Reads (numeric wanted read) ('-' :: Nat.toDigits 10 n) v := by
  intro c rest hc hend
  have hx : Cursor.wholeNumber true n = some (.signed (-(n : Int))) := by
    simp [Cursor.wholeNumber, hpos, hn]
  obtain ⟨c', hnumber, hrest⟩ := Cursor.number_digits
    (Nat.le_trans hn (by decide)) hx hend (Cursor.advance_rest hc)
  refine ⟨c', ?_, hrest⟩
  rw [numeric, atValue_cons hc rfl, if_pos (.inl rfl), if_pos rfl, hnumber]
  simp [bind, Except.bind, hread]

theorem port_decodes : Decodes port Writing.port where
  begins {x s} h := by
    obtain rfl : s = Nat.toDigits 10 x.toNat := by simpa [Writing.port] using h
    exact begins_digits _
  reads {x s} h := by
    obtain rfl : s = Nat.toDigits 10 x.toNat := by simpa [Writing.port] using h
    have hx : x.toNat < Word.count16 := x.toNat_lt
    have hbound : Word.count16 ≤ Word.greatest64 := by decide
    refine numeric_unsigned (by omega) ?_
    show (if x.toNat < Word.count16 then some (UInt16.ofNat x.toNat) else none) = some x
    rw [if_pos hx, UInt16.ofNat_toNat]

theorem int64_text (x : Int64) : (toString x.toInt).toList =
    if 0 ≤ x.toInt then Nat.toDigits 10 x.toInt.toNat
    else '-' :: Nat.toDigits 10 (-x.toInt).toNat := by
  rw [Int.toString_eq_repr, Int.repr_eq_if]
  split_ifs
  · rw [Nat.toList_repr]
  · rw [String.toList_append, Nat.toList_repr]
    rfl

theorem int64_decodes : Decodes int64 Writing.int64 where
  begins {x s} h := by
    rw [Writing.int64, int64_text] at h
    subst h
    split_ifs
    · exact begins_digits _
    · exact ⟨'-', _, rfl, rfl, by decide⟩
  reads {x s} h := by
    rw [Writing.int64, int64_text] at h
    subst h
    have hlt : x.toInt < 2 ^ 63 := x.toInt_lt
    have hle : -2 ^ 63 ≤ x.toInt := x.le_toInt
    have hcount : Word.count63 = 2 ^ 63 := rfl
    have hgreatest : Word.greatest64 = 2 ^ 64 - 1 := rfl
    split_ifs with hx
    · have hn : ((x.toInt.toNat : Nat) : Int) = x.toInt := Int.toNat_of_nonneg hx
      refine numeric_unsigned (by omega) ?_
      show (if x.toInt.toNat < Word.count63 then some (Int64.ofNat x.toInt.toNat) else none) = some x
      rw [if_pos (by omega), ← Int64.ofInt_eq_ofNat, hn, Int64.ofInt_toInt]
    · have hn : (((-x.toInt).toNat : Nat) : Int) = -x.toInt := Int.toNat_of_nonneg (by omega)
      refine numeric_signed (by omega) (by omega) ?_
      show some (Int64.ofInt (-((-x.toInt).toNat : Int))) = some x
      rw [hn, Int.neg_neg, Int64.ofInt_toInt]

/-! ## Lists -/

/-- Parts after the first one, or after something else that has come before. -/
def further (parts : List (List Char)) : List Char := parts.flatMap (',' :: ·)

theorem join_cons (part : List Char) (parts : List (List Char)) :
    Text.join [','] (part :: parts) = part ++ further parts := by
  induction parts generalizing part with
  | nil => simp [Text.join, further]
  | cons next parts ih => rw [Text.join, ih] <;> simp [further]

theorem ends_further (parts : List (List Char)) {a : Char} (ha : a = ']' ∨ a = '}') :
    Ends (further parts ++ a :: rest) := by
  intro b hb
  cases parts with
  | nil =>
    obtain rfl : a = b := by simpa [further] using hb
    exact .inr ha
  | cons part parts => exact .inl (by simpa [further, eq_comm] using hb)

theorem length_le_further (parts : List (List Char)) : parts.length ≤ (further parts).length := by
  induction parts with
  | nil => simp
  | cons part parts ih =>
    simp only [further, List.flatMap_cons, List.length_append, List.length_cons] at ih ⊢
    omega

/-- No more elements. -/
theorem nextElement_end {first : Bool} (h : c.rest = ']' :: rest) :
    nextElement first c = .ok (false, c) := by
  simp [nextElement, Cursor.skipBlanks_cons h rfl, Cursor.peek_cons h]

theorem nextElement_first (hs : Begins s) (h : c.rest = s ++ rest) :
    nextElement true c = .ok (true, c) := by
  obtain ⟨a, s', rfl, hblank, hend⟩ := hs
  simp [nextElement, Cursor.skipBlanks_cons h hblank, Cursor.peek_cons h]

theorem nextElement_further (hs : Begins s) (h : c.rest = ',' :: (s ++ rest)) :
    nextElement false c = .ok (true, c.advance) := by
  obtain ⟨a, s', rfl, hblank, hend⟩ := hs
  have hrest := Cursor.advance_rest h
  simp [nextElement, Cursor.skipBlanks_cons h rfl, Cursor.peek_cons h,
    Cursor.skipBlanks_cons hrest hblank, Cursor.peek_cons hrest]

theorem closeList_end (h : c.rest = ']' :: rest) : closeList c = (none, c.advance) := by
  simp [closeList, Cursor.skipBlanks_cons h rfl, Cursor.peek_cons h]

theorem elementsFrom_end {fuel : Nat} {first : Bool} (h : c.rest = ']' :: rest) :
    elementsFrom d (fuel + 1) first c = .ok ([], c) := by
  rw [elementsFrom, nextElement_end h]
  rfl

/-- One element, and then the others. -/
theorem elementsFrom_cons {fuel : Nat} {first : Bool} {v : α} {vs : List α} {c₁ c₂ c' : Cursor}
    (hnext : nextElement first c = .ok (true, c₁)) (hread : d c₁ = .ok (v, c₂))
    (hmore : elementsFrom d fuel false c₂ = .ok (vs, c')) :
    elementsFrom d (fuel + 1) first c = .ok (v :: vs, c') := by
  rw [elementsFrom, hnext]
  simp [bind, Except.bind, hread, hmore]

/-- The elements after the first are read up to the end of the list. -/
theorem elementsFrom_further (hd : Decodes d w) {xs : List α} {parts : List (List Char)}
    (hparts : List.Forall₂ w xs parts) : ∀ {fuel : Nat} {c : Cursor}, xs.length < fuel →
      c.rest = further parts ++ ']' :: rest →
      ∃ c', elementsFrom d fuel false c = .ok (xs, c') ∧ c'.rest = ']' :: rest := by
  -- Each part comes with the comma before it, so a round needs to know nothing of those before.
  induction hparts with
  | nil =>
    intro fuel c hfuel h
    obtain ⟨fuel, rfl⟩ := Nat.exists_eq_add_one.mpr hfuel
    exact ⟨c, elementsFrom_end h, h⟩
  | @cons x part xs parts hx _ ih =>
    intro fuel c hfuel h
    obtain ⟨fuel, rfl⟩ := Nat.exists_eq_add_one.mpr (Nat.zero_lt_of_lt hfuel)
    have h : c.rest = ',' :: (part ++ (further parts ++ ']' :: rest)) := by
      simpa [further] using h
    obtain ⟨c₁, hread, hrest₁⟩ :=
      hd.reads hx _ _ (Cursor.advance_rest h) (ends_further parts (.inl rfl))
    obtain ⟨c', hmore, hrest⟩ := ih (by simpa using hfuel) hrest₁
    exact ⟨c', elementsFrom_cons (nextElement_further (hd.begins hx) h) hread hmore, hrest⟩

theorem elementsFrom_join (hd : Decodes d w) {xs : List α} {parts : List (List Char)}
    (hparts : List.Forall₂ w xs parts) {fuel : Nat} (hfuel : xs.length < fuel)
    (h : c.rest = Text.join [','] parts ++ ']' :: rest) :
    ∃ c', elementsFrom d fuel true c = .ok (xs, c') ∧ c'.rest = ']' :: rest := by
  obtain ⟨fuel, rfl⟩ := Nat.exists_eq_add_one.mpr (Nat.zero_lt_of_lt hfuel)
  cases hparts with
  | nil => exact ⟨c, elementsFrom_end h, h⟩
  | @cons x part xs parts hx hparts =>
    rw [join_cons, List.append_assoc] at h
    obtain ⟨c₁, hread, hrest₁⟩ := hd.reads hx _ _ h (ends_further parts (.inl rfl))
    obtain ⟨c', hmore, hrest⟩ := elementsFrom_further hd hparts (by simpa using hfuel) hrest₁
    exact ⟨c', elementsFrom_cons (nextElement_first (hd.begins hx) h) hread hmore, hrest⟩

theorem length_le_join (hd : Decodes d w) {xs : List α} {parts : List (List Char)}
    (hparts : List.Forall₂ w xs parts) : xs.length ≤ (Text.join [','] parts).length := by
  cases hparts with
  | nil => simp
  | @cons x part xs parts hx hparts =>
    obtain ⟨a, s, rfl, -⟩ := hd.begins hx
    have hlength := length_le_further parts
    have heq := hparts.length_eq
    rw [join_cons, List.length_append, List.length_cons, List.length_cons]
    omega

theorem list_decodes (hd : Decodes d w) : Decodes (list d) (Writing.list w) where
  begins h := by
    obtain ⟨parts, -, rfl⟩ := h
    exact ⟨'[', _, rfl, rfl, by decide⟩
  reads {xs s} h := by
    intro c rest hc _
    obtain ⟨parts, hparts, rfl⟩ := h
    have hopen : c.rest = '[' :: (Text.join [','] parts ++ ']' :: rest) := by simpa using hc
    have hadvance := Cursor.advance_rest hopen
    -- No part is empty, so there are enough rounds for all of them.
    have hfuel : xs.length < c.advance.rest.length + 1 := by
      have hlength := length_le_join hd hparts
      rw [hadvance, List.length_append]
      omega
    obtain ⟨c', helements, hrest⟩ := elementsFrom_join hd hparts hfuel hadvance
    refine ⟨c'.advance, ?_, Cursor.advance_rest hrest⟩
    rw [list, atValue_cons hopen rfl, if_pos rfl]
    simp only [helements, bind, Except.bind, closeList_end hrest]

theorem listOrNull_decodes (hd : Decodes d w) :
    Decodes (listOrNull d) (Writing.listOrNull w) where
  begins {xs s} h := by
    rcases h with h | ⟨-, rfl⟩
    · exact (list_decodes hd).begins h
    · exact ⟨'n', ['u', 'l', 'l'], rfl, rfl, by decide⟩
  reads {xs s} h := by
    intro c rest hc hend
    rcases h with h | ⟨rfl, rfl⟩
    · obtain ⟨c', hlist, hrest⟩ := (list_decodes hd).reads h c rest hc hend
      obtain ⟨parts, -, rfl⟩ := h
      refine ⟨c', ?_, hrest⟩
      simp only [listOrNull, Cursor.skipBlanks_cons hc rfl, Cursor.peek_cons hc]
      exact hlist
    · -- Only `null` begins with this letter; a list begins with its bracket.
      have hc : c.rest = ['n', 'u', 'l', 'l'] ++ rest := hc
      obtain ⟨c', hword, hrest⟩ := Cursor.word_advance hc
      refine ⟨c', ?_, hrest⟩
      simp only [listOrNull, Cursor.skipBlanks_cons hc rfl, Cursor.peek_cons hc, hword]
      rfl

/-! ## Objects -/

/-- Fields of an object that are read into a record one after another: each of them is a member that
has not been read yet. -/
inductive Fills (members : List (Member β)) : β → List (List Char) → β → Prop
  | nil {x : β} : Fills members x [] x
  | cons {m : Member β} {name : String} {s : List Char} {x y z : β} {fields : List (List Char)} :
      members.find? (·.name.toList = name.toList) = some m → m.present x = false →
      Reads (m.read x) s y → Fills members y fields z → Fills members x (field name s :: fields) z

variable {members : List (Member β)} {fields fields' : List (List Char)}

theorem Fills.append (h : Fills members x fields y) (h' : Fills members y fields' z) :
    Fills members x (fields ++ fields') z := by
  induction h with
  | nil => exact h'
  | cons hfind hpresent hread _ ih => exact .cons hfind hpresent hread (ih h')

/-- No more members. -/
theorem nextMember_end {first : Bool} (h : c.rest = '}' :: rest) :
    nextMember first c = .ok (false, c) := by
  simp [nextMember, Cursor.skipBlanks_cons h rfl, Cursor.peek_cons h]

theorem nextMember_first (h : c.rest = '"' :: rest) :
    nextMember true c = .ok (true, c.advance) := by
  simp [nextMember, Cursor.skipBlanks_cons h rfl, Cursor.peek_cons h]

theorem nextMember_further (h : c.rest = ',' :: '"' :: rest) :
    nextMember false c = .ok (true, c.advance.advance) := by
  have hrest := Cursor.advance_rest h
  simp [nextMember, Cursor.skipBlanks_cons h rfl, Cursor.peek_cons h,
    Cursor.skipBlanks_cons hrest rfl, Cursor.peek_cons hrest]

theorem colon_eq (h : c.rest = ':' :: rest) : colon c = .ok c.advance := by
  simp [colon, Cursor.skipBlanks_cons h rfl, Cursor.peek_cons h]

theorem closeObject_end (h : c.rest = '}' :: rest) : closeObject c = (none, c.advance) := by
  simp [closeObject, Cursor.skipBlanks_cons h rfl, Cursor.peek_cons h]

theorem membersFrom_end {fuel : Nat} {first : Bool} (h : c.rest = '}' :: rest) :
    membersFrom members (fuel + 1) first x c = .ok (x, c) := by
  rw [membersFrom, nextMember_end h]
  rfl

/-- One field, from where its name begins. -/
theorem membersFrom_field {m : Member β} {name : String} {first : Bool} {c₁ : Cursor}
    (hnext : nextMember first c = .ok (true, c₁))
    (h₁ : c₁.rest = name.toList.flatMap escaped ++ '\"' :: ':' :: (s ++ rest))
    (hfind : members.find? (·.name.toList = name.toList) = some m) (hpresent : m.present x = false)
    (hread : Reads (m.read x) s y) (hend : Ends rest) :
    ∃ c₂, c₂.rest = rest ∧ ∀ fuel : Nat,
      membersFrom members (fuel + 1) first x c = membersFrom members fuel false y c₂ := by
  obtain ⟨c', hkey, hcolon⟩ := Cursor.string_escaped h₁
  obtain ⟨c₂, hvalue, hrest⟩ := hread c'.advance rest (Cursor.advance_rest hcolon) hend
  refine ⟨c₂, hrest, fun fuel => ?_⟩
  rw [membersFrom, hnext]
  simp [bind, Except.bind, Fault.lift, hkey, hfind, hpresent, colon_eq hcolon, hvalue]

/-- The fields after the first are read up to the end of the object. -/
theorem membersFrom_further (h : Fills members x fields y) : ∀ {fuel : Nat} {c : Cursor},
    fields.length < fuel → c.rest = further fields ++ '}' :: rest →
      ∃ c', membersFrom members fuel false x c = .ok (y, c') ∧ c'.rest = '}' :: rest := by
  induction h with
  | nil =>
    intro fuel c hfuel hc
    obtain ⟨fuel, rfl⟩ := Nat.exists_eq_add_one.mpr hfuel
    exact ⟨c, membersFrom_end hc, hc⟩
  | @cons m name s x y z fields hfind hpresent hread _ ih =>
    intro fuel c hfuel hc
    obtain ⟨fuel, rfl⟩ := Nat.exists_eq_add_one.mpr (Nat.zero_lt_of_lt hfuel)
    have hc : c.rest = ',' :: '\"' :: (name.toList.flatMap escaped ++
        '\"' :: ':' :: (s ++ (further fields ++ '}' :: rest))) := by
      simpa [further, field, quoted] using hc
    obtain ⟨c₂, hrest₂, hstep⟩ := membersFrom_field (nextMember_further hc)
      (Cursor.advance_rest (Cursor.advance_rest hc)) hfind hpresent hread
      (ends_further fields (.inr rfl))
    obtain ⟨c', hmore, hrest⟩ := ih (by simpa using hfuel) hrest₂
    exact ⟨c', (hstep fuel).trans hmore, hrest⟩

theorem membersFrom_join (h : Fills members x fields y) {fuel : Nat} (hfuel : fields.length < fuel)
    (hc : c.rest = Text.join [','] fields ++ '}' :: rest) :
    ∃ c', membersFrom members fuel true x c = .ok (y, c') ∧ c'.rest = '}' :: rest := by
  obtain ⟨fuel, rfl⟩ := Nat.exists_eq_add_one.mpr (Nat.zero_lt_of_lt hfuel)
  cases h with
  | nil => exact ⟨c, membersFrom_end hc, hc⟩
  | @cons m name s _ z _ fields hfind hpresent hread h =>
    have hc : c.rest = '\"' :: (name.toList.flatMap escaped ++
        '\"' :: ':' :: (s ++ (further fields ++ '}' :: rest))) := by
      simpa [join_cons, field, quoted] using hc
    obtain ⟨c₂, hrest₂, hstep⟩ := membersFrom_field (nextMember_first hc)
      (Cursor.advance_rest hc) hfind hpresent hread (ends_further fields (.inr rfl))
    obtain ⟨c', hmore, hrest⟩ := membersFrom_further h (by simpa using hfuel) hrest₂
    exact ⟨c', (hstep fuel).trans hmore, hrest⟩

theorem Fills.length_le (h : Fills members x fields y) :
    fields.length ≤ (Text.join [','] fields).length := by
  cases h with
  | nil => simp
  | @cons m name s _ z _ fields =>
    have hlength := length_le_further fields
    simp only [join_cons, field, quoted, List.length_append, List.length_cons]
    omega

/-- **A record is read from its fields.** -/
theorem Record.decode_object {r : Record β α} {v : α} (h : Fills r.members r.empty fields y)
    (hfinish : r.finish y = .ok v) : Reads r.decode (object fields) v := by
  intro c rest hc _
  have hopen : c.rest = '{' :: (Text.join [','] fields ++ '}' :: rest) := by
    simpa [object] using hc
  have hadvance := Cursor.advance_rest hopen
  have hfuel : fields.length < c.advance.rest.length + 1 := by
    have hlength := h.length_le
    rw [hadvance, List.length_append]
    omega
  obtain ⟨c', hmembers, hrest⟩ := membersFrom_join h hfuel hadvance
  refine ⟨c'.advance, ?_, Cursor.advance_rest hrest⟩
  rw [Record.decode, atValue_cons hopen rfl, if_pos rfl]
  simp only [hmembers, bind, Except.bind, Record.finishAt, hfinish, closing, closeObject_end hrest]

theorem begins_object (fields : List (List Char)) : Begins (object fields) :=
  ⟨'{', _, rfl, rfl, by decide⟩

section Members

variable {name : String} {get : β → Option γ} {set : β → γ → β} {dγ : Decoder γ} {wγ : Writing γ}
  {usual v : γ}

theorem reads_optional (name : String) (get : β → Option γ) (set : β → γ → β)
    (hd : Decodes dγ wγ) (hs : wγ v s) : Reads ((optional name get set dγ).read x) s (set x v) := by
  intro c rest hc hend
  obtain ⟨c', hread, hrest⟩ := hd.reads hs c rest hc hend
  refine ⟨c', ?_, hrest⟩
  simp [optional, hread, bind, Except.bind]

/-- A field that may be left out: what is read, if anything is, stands for its value. -/
theorem fills_optional (members : List (Member β)) (put : Option γ → β) (hnone : put none = x)
    (hsome : ∀ v, put (some v) = set x v) (hget : get x = none)
    (hfind : members.find? (·.name.toList = name.toList) = some (optional name get set dγ))
    (hd : Decodes dγ wγ) (h : Optional name wγ usual v fields) :
    ∃ o : Option γ, o.getD usual = v ∧ Fills members x fields (put o) := by
  cases h with
  | given hs =>
    refine ⟨some v, rfl, ?_⟩
    rw [hsome]
    exact .cons hfind (by simp [optional, hget]) (reads_optional name get set hd hs) .nil
  | elided hv =>
    refine ⟨none, hv.symm, ?_⟩
    rw [hnone]
    exact .nil

theorem fills_required (members : List (Member β)) (hget : get x = none)
    (hfind : members.find? (·.name.toList = name.toList) = some (required name get set dγ))
    (hd : Decodes dγ wγ) (h : Required name wγ v fields) : Fills members x fields (set x v) := by
  cases h with
  | @given s hs =>
    -- A member that must be given is read like any other.
    have hread : Reads ((required name get set dγ).read x) s (set x v) :=
      reads_optional name get set hd hs
    exact .cons hfind (by simp [required, optional, hget]) hread .nil

end Members

/-! ## Descriptors -/

theorem package_decodes : Decodes package.decode Writing.package where
  begins h := by
    cases h
    exact begins_object _
  reads {p s} h := by
    cases h with
    | intro henable horder hcommands hvalues =>
      -- Each field is read into a record that holds what was read before it.
      obtain ⟨enable, henable, h₁⟩ := fills_optional package.members
        (fun enable => { enable }) rfl (fun _ => rfl) rfl rfl bool_decodes henable
      obtain ⟨order, horder, h₂⟩ := fills_optional package.members
        (fun order => { enable, order }) rfl (fun _ => rfl) rfl rfl int64_decodes horder
      obtain ⟨commands, hcommands, h₃⟩ := fills_optional package.members
        (fun commands => { enable, order, commands }) rfl (fun _ => rfl) rfl rfl
        (list_decodes text_decodes) hcommands
      obtain ⟨values, hvalues, h₄⟩ := fills_optional package.members
        (fun values => { enable, order, commands, values }) rfl (fun _ => rfl) rfl rfl
        (listOrNull_decodes text_decodes) hvalues
      refine Record.decode_object (((h₁.append h₂).append h₃).append h₄) ?_
      simp only [package, PackageParts.finish, henable, horder, hcommands, hvalues]

theorem server_decodes : Decodes server.decode Writing.server where
  begins h := by
    cases h
    exact begins_object _
  reads {m s} h := by
    cases h with
    | intro hhost hport husername hpassword hpackages =>
      have h₁ := fills_required (x := server.empty) server.members rfl rfl text_decodes hhost
      obtain ⟨port, hport, h₂⟩ := fills_optional server.members
        (fun port => { host := m.host, port }) rfl (fun _ => rfl) rfl rfl port_decodes hport
      have h₃ := fills_required (x := { host := m.host, port }) server.members rfl rfl
        text_decodes husername
      obtain ⟨password, hpassword, h₄⟩ := fills_optional server.members
        (fun password => { host := m.host, port, username := m.username, password }) rfl
        (fun _ => rfl) rfl rfl text_decodes hpassword
      obtain ⟨packages, hpackages, h₅⟩ := fills_optional server.members
        (fun packages => { host := m.host, port, username := m.username, password, packages }) rfl
        (fun _ => rfl) rfl rfl (list_decodes package_decodes) hpackages
      refine Record.decode_object ((((h₁.append h₂).append h₃).append h₄).append h₅) ?_
      simp [server, ServerParts.finish, hport, hpassword, hpackages, bind, Except.bind, pure,
        Except.pure, Except.mapError]

theorem descriptor_decodes : Decodes descriptor.decode Writing.descriptor where
  begins h := by
    cases h
    exact begins_object _
  reads {d s} h := by
    cases h with
    | intro hglobals hservers =>
      obtain ⟨globals, hglobals, h₁⟩ := fills_optional descriptor.members
        (fun globals => { globals }) rfl (fun _ => rfl) rfl rfl (list_decodes text_decodes) hglobals
      obtain ⟨servers, hservers, h₂⟩ := fills_optional descriptor.members
        (fun servers => { globals, servers }) rfl (fun _ => rfl) rfl rfl
        (list_decodes server_decodes) hservers
      refine Record.decode_object (h₁.append h₂) ?_
      simp only [descriptor, DescriptorParts.finish, hglobals, hservers]

/-- A text that is read as a whole. -/
theorem decodeText_eq {v : α} (h : Reads d s v) : decodeText d s = .ok v := by
  obtain ⟨c, hread, hrest⟩ := h (.ofText s) [] (by simp [Cursor.ofText]) (by simp [Ends])
  have hpeek : c.skipBlanks.peek = none := by
    simp [Cursor.skipBlanks, Cursor.skipBlanksFrom, hrest, Cursor.peek]
  simp [decodeText, hread, hpeek, bind, Except.bind]

end Rollout.Json

namespace Rollout

theorem Descriptor.ofJson_written {d : Descriptor} {s : String}
    (h : Json.Writing.descriptor d s.toList) : Descriptor.ofJson s = .ok d :=
  Json.decodeText_eq (Json.descriptor_decodes.reads h)

/-- Every descriptor is what some text says. -/
theorem Descriptor.exists_ofJson (d : Descriptor) : ∃ s, Descriptor.ofJson s = .ok d := by
  obtain ⟨s, hs⟩ := Json.Writing.exists_descriptor d
  exact ⟨String.ofList s, ofJson_written (by rwa [String.toList_ofList])⟩

/-- **What is written is read back**: every text that a descriptor may be written as, with any of the
fields left out that have their usual values, is read as that descriptor. -/
theorem Descriptor.parseJson_written {d : Descriptor} {s : String}
    (h : Json.Writing.descriptor d s.toList) : Descriptor.parseJson s = .ok d := by
  unfold Descriptor.parseJson
  rw [Descriptor.ofJson_written h]
  rfl

/-- Two servers, and a package of the least order. -/
def Descriptor.sample : Descriptor where
  servers := [
    ⟨"a\"\\\n\x01é😀", 65535, "u", "", [⟨true, -9223372036854775808, ["ls"], []⟩]⟩,
    ⟨"b", 22, "v", "", []⟩]

/-- One of its texts: of the second server the port and the packages are left out. -/
def Descriptor.sampleText : String :=
  "\x7b\"servers\":[" ++
    "\x7b\"host\":\"a\\\"\\\\\\n\\u0001é😀\",\"port\":65535,\"username\":\"u\"," ++
      "\"packages\":[\x7b\"enable\":true,\"order\":-9223372036854775808," ++
        "\"commands\":[\"ls\"],\"variables\":null\x7d]\x7d," ++
    "\x7b\"host\":\"b\",\"username\":\"v\",\"password\":\"\"\x7d]\x7d"

theorem Descriptor.parseJson_written_sample :
    Json.Writing.descriptor Descriptor.sample Descriptor.sampleText.toList ∧
      Descriptor.parseJson Descriptor.sampleText = .ok Descriptor.sample := by
  have hpackage := @Json.Writing.package.intro ⟨true, -9223372036854775808, ["ls"], []⟩ _ _ _ _
    (.given (Json.Writing.bool_self _)) (.given (Json.Writing.int64_self _))
    (.given ⟨_, .cons (Json.Writing.text_self _) .nil, rfl⟩) (.given (.inr ⟨rfl, rfl⟩))
  have hfirst := @Json.Writing.server.intro
    ⟨"a\"\\\n\x01é😀", 65535, "u", "", [⟨true, -9223372036854775808, ["ls"], []⟩]⟩ _ _ _ _ _
    (.given (Json.Writing.text_self _)) (.given (Json.Writing.port_self _))
    (.given (Json.Writing.text_self _)) (.elided rfl) (.given ⟨_, .cons hpackage .nil, rfl⟩)
  have hsecond := @Json.Writing.server.intro ⟨"b", 22, "v", "", []⟩ _ _ _ _ _
    (.given (Json.Writing.text_self _)) (.elided rfl) (.given (Json.Writing.text_self _))
    (.given (Json.Writing.text_self _)) (.elided rfl)
  have hsample := @Json.Writing.descriptor.intro Descriptor.sample _ _ (.elided rfl)
    (.given ⟨_, .cons hfirst (.cons hsecond .nil), rfl⟩)
  have h : Json.Writing.descriptor Descriptor.sample Descriptor.sampleText.toList := by
    refine Eq.mp (congrArg _ ?_) hsample
    decide +kernel
  exact ⟨h, Descriptor.parseJson_written h⟩

end Rollout
