import Rollout.Proofs.Passing

/-!
# What decoders make of values

A decoder is judged by the values that stand at a cursor: it is known what a value means to it, if it means
anything, and the decoder reads just that, from each text of the value, and refuses all other values.

* `Meaning`: what values mean to a decoder. `Judges`: a decoder keeps to it for a value.
* `text_judges`, `bool_judges`, `numeric_judges`: single values. An integer is read where it fits, and
  nothing else is.
* `list_judges`, `listOrNull_judges`: lists, by their elements.
-/

namespace Rollout.Json

open Cursor

variable {α : Type} {c : Cursor} {a : Char} {b s t u rest : List Char} {v : Value}

/-! ## Values at a cursor -/

/-- A value stands at a cursor, as one of its texts, and other things follow. -/
def Stands (c : Cursor) (v : Value) (rest : List Char) : Prop :=
  ∃ b t, Blanks b ∧ v.Text t ∧ c.rest = b ++ (t ++ rest) ∧ Follows rest

/-- What a value may begin with. -/
def Value.Heads : Value → Char → Prop
  | .null, a => a = 'n'
  | .bool true, a => a = 't'
  | .bool false, a => a = 'f'
  | .number _, a => a = '-' ∨ a.isDigit = true
  | .string _, a => a = '\"'
  | .list _, a => a = '['
  | .object _, a => a = '\x7b'

theorem text_heads (h : v.Text t) (ht : t = a :: s) : v.Heads a := by
  cases h
  case number l =>
    obtain ⟨a', s', hs, h⟩ := literal_begins l
    obtain ⟨rfl, rfl⟩ := List.cons.inj (hs.symm.trans ht)
    exact h.imp (·.1) (·.1)
  all_goals
    obtain ⟨rfl, -⟩ := List.cons.inj ht
    rfl

section Heads

/-- The kind of a value is known by what it begins with. -/
theorem heads_cases (h : v.Heads a) :
    (a = 'n' ∧ v = .null) ∨ (a = 't' ∧ v = .bool true) ∨ (a = 'f' ∧ v = .bool false) ∨
    ((a = '-' ∨ a.isDigit = true) ∧ ∃ l, v = .number l) ∨ (a = '\"' ∧ ∃ x, v = .string x) ∨
    (a = '[' ∧ ∃ vs, v = .list vs) ∨ (a = '\x7b' ∧ ∃ fields, v = .object fields) := by
  cases v with
  | bool x => cases x <;> simp_all [Value.Heads]
  | _ => simp_all [Value.Heads]

theorem heads_null (h : v.Heads 'n') : v = .null := by simpa using heads_cases h

theorem heads_true (h : v.Heads 't') : v = .bool true := by simpa using heads_cases h

theorem heads_false (h : v.Heads 'f') : v = .bool false := by simpa using heads_cases h

theorem heads_quote (h : v.Heads '\"') : ∃ x, v = .string x := by simpa using heads_cases h

theorem heads_bracket (h : v.Heads '[') : ∃ vs, v = .list vs := by simpa using heads_cases h

theorem heads_digit (h : v.Heads a) (ha : a = '-' ∨ a.isDigit = true) : ∃ l, v = .number l := by
  rcases heads_cases h with ⟨rfl, -⟩ | ⟨rfl, -⟩ | ⟨rfl, -⟩ | ⟨-, h⟩ | ⟨rfl, -⟩ | ⟨rfl, -⟩ | ⟨rfl, -⟩
  case inr.inr.inr.inl => exact h
  all_goals simp at ha

end Heads

/-- What stands at a cursor is looked at after the blanks before it. -/
theorem Stands.at (h : Stands c v rest) : ∃ a t, v.Text t ∧ v.Heads a ∧ c.skipBlanks.peek = some a ∧
    c.skipBlanks.rest = t ++ rest ∧ Follows rest ∧
    ∀ {α : Type} (f : Char → Decoder α), atValue f c = f a c.skipBlanks := by
  obtain ⟨b, t, hb, hv, hc, hrest⟩ := h
  obtain ⟨⟨a, s, ht, ha, -⟩, -⟩ := text_begins hv
  have hblanks : c.skipBlanks.rest = a :: (s ++ rest) := skipBlanks_char hb (by simp [hc, ht]) ha
  refine ⟨a, t, hv, text_heads hv ht, peek_cons hblanks, by simp [hblanks, ht], hrest, fun f => ?_⟩
  simp only [atValue, peek_cons hblanks]

/-! ## Judging -/

/-- What a value means to a decoder, if it means anything. -/
abbrev Meaning (α : Type) := Value → α → Prop

/-- A decoder reads a value, wherever it stands, as what it means; or it means nothing, and is refused. -/
def Judges (d : Decoder α) (M : Meaning α) (v : Value) : Prop :=
  ∀ c rest, Stands c v rest →
    (∃ x c', (∀ y, M v y ↔ y = x) ∧ d c = .ok (x, c') ∧ c'.rest = rest) ∨
    (¬∃ x, M v x) ∧ ∃ f, d c = .error f

theorem Judges.congr {d : Decoder α} {M M' : Meaning α} (h : Judges d M v) (hM : ∀ x, M v x ↔ M' v x) :
    Judges d M' v := by
  intro c rest hc
  simpa only [hM] using h c rest hc

namespace Meaning

def text : Meaning String := fun v x => v = .string x

def bool : Meaning Bool := fun v x => v = .bool x

/-- An integer, by its value. -/
def integer (value : α → Int) : Meaning α := fun v x =>
  ∃ l, v = .number l ∧ l.IsInteger ∧ l.toInt = value x

def port : Meaning UInt16 := integer fun x => x.toNat

def int64 : Meaning Int64 := integer Int64.toInt

def list (M : Meaning α) : Meaning (List α) := fun v xs => ∃ vs, v = .list vs ∧ List.Forall₂ M vs xs

def listOrNull (M : Meaning α) : Meaning (List α) := fun v xs => v = .null ∧ xs = [] ∨ list M v xs

end Meaning

/-! ### Single values -/

theorem text_judges (v : Value) : Judges text Meaning.text v := by
  intro c rest hc
  obtain ⟨a, t, hv, ha, -, hrest, -, hat⟩ := hc.at
  rw [text, hat]
  by_cases hquote : a = '\"'
  · subst hquote
    obtain ⟨x, rfl⟩ := heads_quote ha
    cases hv with
    | string hs =>
      obtain ⟨c', hstring, hrest'⟩ := string_quoted hs (advance_rest hrest)
      refine .inl ⟨x, c', fun y => by simp [Meaning.text, eq_comm], ?_, hrest'⟩
      simp [hstring, bind, Except.bind]
  · refine .inr ⟨?_, _, if_neg hquote⟩
    rintro ⟨x, rfl⟩
    exact hquote ha

theorem bool_judges (v : Value) : Judges bool Meaning.bool v := by
  intro c rest hc
  obtain ⟨a, t, hv, ha, -, hrest, -, hat⟩ := hc.at
  rw [bool, hat]
  by_cases htrue : a = 't'
  · subst htrue
    obtain rfl := heads_true ha
    cases hv with
    | yes =>
      obtain ⟨c', hword, hrest'⟩ := word_advance hrest
      exact .inl ⟨true, c', fun y => by simp [Meaning.bool, eq_comm], by simp [hword, bind, Except.bind],
        hrest'⟩
  by_cases hfalse : a = 'f'
  · subst hfalse
    obtain rfl := heads_false ha
    cases hv with
    | no =>
      obtain ⟨c', hword, hrest'⟩ := word_advance hrest
      exact .inl ⟨false, c', fun y => by simp [Meaning.bool, eq_comm], by simp [hword, bind, Except.bind],
        hrest'⟩
  · refine .inr ⟨?_, c.skipBlanks.wrongType "a boolean", by simp [htrue, hfalse]⟩
    rintro ⟨_ | _, rfl⟩
    · exact hfalse ha
    · exact htrue ha

section Numbers

variable {wanted : String} {read : Number → Option α}

/-- What is made of a number that has been read. -/
def judged (wanted : String) (read : Number → Option α) (n : Number) (c : Cursor) :
    Except Failure (α × Cursor) :=
  match read n, n with
  | some x, _ => .ok (x, c)
  | none, .fraction .. => .error (c.fail (.wrongType (.number n) wanted))
  | none, _ => .error (c.fail (.wrongValue (.number n) wanted))

theorem judged_none {n : Number} (h : read n = none) (c : Cursor) :
    ∃ f, judged wanted read n c = .error f := by
  cases n <;> simp [judged, h]

/-- The sign of a number is looked at before the rest of it. -/
theorem numeric_number (wanted : String) (read : Number → Option α) {l : Literal}
    (hpeek : c.skipBlanks.peek = some a)
    (h : c.skipBlanks.rest = l.text ++ rest) : ∃ c' : Cursor, c'.rest = l.unsigned ++ rest ∧
      numeric wanted read c = (c'.number l.negative >>= fun p => judged wanted read p.1 p.2) := by
  obtain ⟨a', s, hs, hl⟩ := literal_begins l
  rw [hs] at h
  obtain rfl : a' = a := by simpa [peek_cons h] using hpeek
  unfold numeric atValue
  simp only [hpeek]
  rcases hl with ⟨rfl, hnegative, rfl⟩ | ⟨ha, hnegative, hs⟩
  · refine ⟨c.skipBlanks.advance, advance_rest h, ?_⟩
    rw [hnegative, if_pos (.inl rfl), if_pos rfl]
    rfl
  · have hminus : a' ≠ '-' := by rintro rfl; exact absurd ha (by decide)
    refine ⟨c.skipBlanks, by rw [h, hs], ?_⟩
    rw [hnegative, if_pos (.inr ha), if_neg hminus]
    rfl

/-- A number is read where its value is that of an integer of 64 bits, and one that is accepted. -/
theorem numeric_judges {value : α → Int}
    (hread : ∀ i, IsWord i → ∀ x, read (.ofInt i) = some x ↔ i = value x)
    (hword : ∀ x, IsWord (value x)) (hfraction : ∀ negative y, read (.fraction negative y) = none)
    (v : Value) : Judges (numeric wanted read) (.integer value) v := by
  intro c rest hc
  obtain ⟨a, t, hv, ha, hpeek, hrest, hend, hat⟩ := hc.at
  by_cases hdigit : a = '-' ∨ a.isDigit = true
  · obtain ⟨l, rfl⟩ := heads_digit ha hdigit
    cases hv
    obtain ⟨c₁, hrest₁, hnumeric⟩ := numeric_number wanted read hpeek hrest
    have hmeans (y : α) : Meaning.integer value (.number l) y ↔ l.IsInteger ∧ l.toInt = value y := by
      simp [Meaning.integer]
    simp only [hmeans, hnumeric]
    rcases number_literal hend.numberEnds hrest₁ with ⟨hinteger, hl, c', hnumber, hrest'⟩ | ⟨hnot, hfrac⟩
    · simp only [hinteger, true_and, ← hread _ hl, hnumber, bind, Except.bind]
      cases hx : read (.ofInt l.toInt) with
      | some x => exact .inl ⟨x, c', by simp [eq_comm], by simp [judged, hx], hrest'⟩
      | none => exact .inr ⟨by simp, judged_none hx c'⟩
    · refine .inr ⟨fun ⟨y, hinteger, hy⟩ => hnot ⟨hinteger, hy ▸ hword y⟩, ?_⟩
      rcases hnumber : c₁.number l.negative with f | ⟨x, c'⟩
      · exact ⟨f, rfl⟩
      · obtain ⟨negative, y, rfl⟩ := hfrac x c' hnumber
        exact judged_none (hfraction negative y) c'
  · rw [numeric, hat]
    refine .inr ⟨?_, c.skipBlanks.wrongType wanted, by simp [hdigit]⟩
    rintro ⟨x, l, rfl, -⟩
    exact hdigit ha

end Numbers

theorem port_judges (v : Value) : Judges port Meaning.port v := by
  have hcount : Word.count16 = 65536 := rfl
  have hgreatest : Word.greatest64 = 18446744073709551615 := rfl
  refine numeric_judges (fun i hi x => ?_) (fun x => ?_) (fun _ _ => rfl) v
  · have hx := x.toNat_lt
    by_cases hneg : i < 0
    · simp only [Number.ofInt, hneg, if_true]
      constructor
      · intro h; cases h
      · intro h; omega
    by_cases hsmall : i.toNat < Word.count16
    · simp only [Number.ofInt, hneg, if_false, hsmall, if_true, Option.some.injEq, UInt16.ext_iff,
        UInt16.toNat_ofNat']
      omega
    · simp only [Number.ofInt, hneg, if_false, hsmall]
      constructor
      · intro h; cases h
      · intro h; omega
  · have hx := x.toNat_lt
    constructor <;> omega

theorem int64_judges (v : Value) : Judges int64 Meaning.int64 v := by
  have hcount : Word.count63 = 9223372036854775808 := rfl
  have hgreatest : Word.greatest64 = 18446744073709551615 := rfl
  refine numeric_judges (fun i hi x => ?_) (fun x => ?_) (fun _ _ => rfl) v
  · obtain ⟨hlow, hhigh⟩ := hi
    have hlt := x.toInt_lt
    have hle := x.le_toInt
    -- Of the integers that fit, each is its own value; the others are refused.
    have hofInt (h : i < 9223372036854775808) : Int64.ofInt i = x ↔ i = x.toInt := by
      rw [← Int64.toInt_inj, Int64.toInt_ofInt_of_le (by omega) (by omega)]
    by_cases hneg : i < 0
    · simp only [Number.ofInt, hneg, if_true, Option.some.injEq]
      exact hofInt (by omega)
    by_cases hsmall : i.toNat < Word.count63
    · have hi : ((i.toNat : Nat) : Int) = i := Int.toNat_of_nonneg (by omega)
      simp only [Number.ofInt, hneg, if_false, hsmall, if_true, Option.some.injEq]
      rw [← Int64.ofInt_eq_ofNat, hi]
      exact hofInt (by omega)
    · simp only [Number.ofInt, hneg, if_false, hsmall]
      constructor
      · intro h; cases h
      · intro h; omega
  · have hlt := x.toInt_lt
    have hle := x.le_toInt
    constructor <;> omega

/-! ### Lists -/

theorem nextElement_nil (first : Bool) (hb : Blanks b) (h : c.rest = b ++ ']' :: rest) :
    nextElement first c = .ok (false, c.skipBlanks) ∧ c.skipBlanks.rest = ']' :: rest := by
  have hrest := skipBlanks_char hb h rfl
  exact ⟨by simp [nextElement, peek_cons hrest], hrest⟩

theorem nextElement_lead {first : Bool} (hb : Lead first b) (h : c.rest = b ++ a :: s)
    (ha : Cursor.isBlank a = false) (hclosing : a ≠ ']') :
    ∃ c', nextElement first c = .ok (true, c') ∧ c'.rest = a :: s := by
  cases first with
  | true =>
    have hrest := skipBlanks_char (by simpa [Lead] using hb) h ha
    exact ⟨c.skipBlanks, by simp [nextElement, peek_cons hrest], hrest⟩
  | false =>
    obtain ⟨b₁, b₂, hb₁, hb₂, rfl⟩ := hb
    rw [List.append_assoc] at h
    have hcomma := skipBlanks_char hb₁ h rfl
    have hrest := skipBlanks_char hb₂ (advance_rest hcomma) ha
    exact ⟨_, by simp [nextElement, peek_cons hcomma, peek_cons hrest], hrest⟩

variable {d : Decoder α} {M : Meaning α}

/-- The elements of a list are read up to the closing bracket. -/
theorem elementsFrom_judged {vs : List Value} {first : Bool} {fuel : Nat}
    (hd : ∀ v ∈ vs, Judges d M v) (h : Elements first vs u) (hc : c.rest = u ++ rest)
    (hfuel : c.rest.length < fuel) :
    (∃ xs c', (∀ ys, List.Forall₂ M vs ys ↔ ys = xs) ∧ elementsFrom d fuel first c = .ok (xs, c') ∧
      c'.rest = ']' :: rest) ∨
    (¬∃ xs, List.Forall₂ M vs xs) ∧ ∃ f, elementsFrom d fuel first c = .error f := by
  induction vs generalizing first u c fuel with
  | nil =>
    obtain ⟨fuel, rfl⟩ : ∃ k, fuel = k + 1 := ⟨fuel - 1, by omega⟩
    cases h with
    | nil hb =>
      rw [List.append_assoc] at hc
      obtain ⟨hnext, hrest⟩ := nextElement_nil first hb hc
      refine .inl ⟨[], c.skipBlanks, fun ys => List.forall₂_nil_left_iff, ?_, hrest⟩
      simp [elementsFrom, hnext, bind, Except.bind]
  | cons v vs ih =>
    obtain ⟨fuel, rfl⟩ : ∃ k, fuel = k + 1 := ⟨fuel - 1, by omega⟩
    cases h with
    | @cons _ b _ t _ u hlead hv hu =>
      obtain ⟨⟨a, s, rfl, ha, hclosing⟩, -⟩ := text_begins hv
      have hc : c.rest = b ++ a :: (s ++ (u ++ rest)) := by simpa using hc
      obtain ⟨c₁, hnext, hrest₁⟩ := nextElement_lead hlead hc ha hclosing
      have hstands : Stands c₁ v (u ++ rest) :=
        ⟨[], _, by simp [Blanks], hv, by simpa using hrest₁, follows_elements hu⟩
      rcases hd v (by simp) c₁ (u ++ rest) hstands with ⟨x, c₂, hx, hread, hrest₂⟩ | ⟨hnone, f, hread⟩
      · have hlength : c₂.rest.length < fuel := by
          simp only [hc, List.length_append, List.length_cons] at hfuel
          simp only [hrest₂, List.length_append]
          omega
        have hrec := ih (fun w hw => hd w (by simp [hw])) hu hrest₂ hlength
        rcases hrec with ⟨xs, c', hxs, hmore, hrest⟩ | ⟨hnone, f, hmore⟩
        · refine .inl ⟨x :: xs, c', fun ys => ?_, ?_, hrest⟩
          · rw [List.forall₂_cons_left_iff]
            simp [hx, hxs, eq_comm]
          · simp [elementsFrom, hnext, hread, hmore, bind, Except.bind]
        · refine .inr ⟨?_, f, ?_⟩
          · rintro ⟨ys, hys⟩
            obtain ⟨y, zs, -, hzs, rfl⟩ := List.forall₂_cons_left_iff.1 hys
            exact hnone ⟨zs, hzs⟩
          · simp [elementsFrom, hnext, hread, hmore, bind, Except.bind]
      · refine .inr ⟨?_, f, ?_⟩
        · rintro ⟨ys, hys⟩
          obtain ⟨y, zs, hy, -, rfl⟩ := List.forall₂_cons_left_iff.1 hys
          exact hnone ⟨y, hy⟩
        · simp [elementsFrom, hnext, hread, bind, Except.bind]

theorem list_judges (hd : ∀ vs, v = .list vs → ∀ w ∈ vs, Judges d M w) :
    Judges (list d) (Meaning.list M) v := by
  intro c rest hc
  obtain ⟨a, t, hv, ha, -, hrest, -, hat⟩ := hc.at
  rw [list, hat]
  by_cases hopen : a = '['
  · subst hopen
    obtain ⟨vs, rfl⟩ := heads_bracket ha
    have hmeans (ys : List α) : Meaning.list M (.list vs) ys ↔ List.Forall₂ M vs ys := by
      simp [Meaning.list]
    cases hv with
    | list hvs =>
      simp only [hmeans, if_true]
      rcases elementsFrom_judged (hd vs rfl) hvs (advance_rest hrest) (Nat.lt_succ_self _) with
        ⟨xs, c', hxs, hread, hrest'⟩ | ⟨hnone, f, hread⟩
      · refine .inl ⟨xs, c'.advance, hxs, ?_, advance_rest hrest'⟩
        simp [hread, closeList_end hrest', bind, Except.bind]
      · exact .inr ⟨hnone, f, by simp [hread, bind, Except.bind]⟩
  · refine .inr ⟨?_, _, if_neg hopen⟩
    rintro ⟨xs, vs, rfl, -⟩
    exact hopen ha

theorem listOrNull_judges (hd : ∀ vs, v = .list vs → ∀ w ∈ vs, Judges d M w) :
    Judges (listOrNull d) (Meaning.listOrNull M) v := by
  intro c rest hc
  obtain ⟨a, t, hv, ha, hpeek, hrest, hend, -⟩ := hc.at
  by_cases hnull : a = 'n'
  · subst hnull
    obtain rfl := heads_null ha
    cases hv
    obtain ⟨c', hword, hrest'⟩ := word_advance hrest
    refine .inl ⟨[], c', fun ys => by simp [Meaning.listOrNull, Meaning.list], ?_, hrest'⟩
    simp [listOrNull, hpeek, hword, bind, Except.bind]
  · have hlist : listOrNull d c = list d c.skipBlanks := by
      simp [listOrNull, hpeek, hnull]
    have hstands : Stands c.skipBlanks v rest := ⟨[], t, by simp [Blanks], hv, hrest, hend⟩
    rw [hlist]
    refine (list_judges hd).congr (fun ys => ?_) c.skipBlanks rest hstands
    have hvalue : v ≠ .null := by rintro rfl; exact hnull ha
    simp [Meaning.listOrNull, hvalue]

end Rollout.Json
