import Rollout.Proofs.RoundTrip

/-!
# Values that are passed over

A value that does not matter is passed over with the brackets that are open kept in a list. Whatever the
value is, and whichever of its texts stands there, this ends where the value ends.

* `Follows`: what may come after a value. `text_begins`: how a value begins.
* `Cursor.resume`: what is done after a value, or after an opening bracket. `Passes`: a text after which
  that is done.
* `resume_elements`, `resume_fields`: what is inside of brackets is passed over if each value in it is.
* `skip_text`: the theorem for values.
-/

namespace Rollout.Json

open Cursor

variable {c : Cursor} {a : Char} {b s t u rest : List Char}

/-! ## Before and after values -/

/-- What may come after a value: nothing, or a blank, or what separates or closes. -/
def Follows (rest : List Char) : Prop :=
  ∀ a, rest.head? = some a → Cursor.isBlank a = true ∨ a = ',' ∨ a = ']' ∨ a = '\x7d'

theorem isBlank_iff : Cursor.isBlank a = true ↔ a = ' ' ∨ a = '\n' ∨ a = '\t' ∨ a = '\r' := by
  simp [Cursor.isBlank, or_assoc]

theorem Follows.numberEnds (h : Follows rest) : NumberEnds rest := by
  intro a ha
  rcases h a ha with h | rfl | rfl | rfl
  · rcases isBlank_iff.1 h with rfl | rfl | rfl | rfl <;> decide
  all_goals decide

theorem skipBlanks_append (hb : Blanks b) (h : c.rest = b ++ s)
    (hs : ∀ a, s.head? = some a → Cursor.isBlank a = false) : c.skipBlanks.rest = s := by
  obtain ⟨r, line, column⟩ := c
  obtain rfl : r = b ++ s := h
  simp only [skipBlanks]
  induction b generalizing line column with
  | nil =>
    cases s with
    | nil => rfl
    | cons a s => simp [skipBlanksFrom, hs a rfl]
  | cons a b ih =>
    have ha : Cursor.isBlank a = true := isBlank_iff.2 (hb a (by simp))
    have hb : Blanks b := fun a' ha' => hb a' (by simp [ha'])
    rw [List.cons_append, skipBlanksFrom, if_pos ha]
    split
    · exact ih hb _ _
    · exact ih hb _ _

theorem skipBlanks_char (hb : Blanks b) (h : c.rest = b ++ a :: s) (ha : Cursor.isBlank a = false) :
    c.skipBlanks.rest = a :: s :=
  skipBlanks_append hb h (by simpa using ha)

theorem follows_blanks (hb : Blanks b) (hs : Follows s) : Follows (b ++ s) := by
  intro a ha
  cases b with
  | nil => exact hs a ha
  | cons a' b =>
    obtain rfl : a' = a := by simpa using ha
    exact .inl (isBlank_iff.2 (hb a' (by simp)))

theorem follows_char (ha : a = ',' ∨ a = ']' ∨ a = '\x7d') : Follows (a :: s) := by
  rintro a' ⟨⟩
  exact .inr ha

theorem follows_lead (h : Lead false b) : Follows (b ++ s) := by
  obtain ⟨b₁, b₂, hb₁, -, rfl⟩ := h
  rw [List.append_assoc]
  exact follows_blanks hb₁ (follows_char (.inl rfl))

theorem follows_elements {vs : List Value} (h : Elements false vs u) : Follows (u ++ rest) := by
  cases h with
  | nil hb =>
    rw [List.append_assoc]
    exact follows_blanks hb (follows_char (.inr (.inl rfl)))
  | cons hlead _ _ =>
    rw [List.append_assoc]
    exact follows_lead hlead

theorem follows_fields {fields : List (String × Value)} (h : Fields false fields u) :
    Follows (u ++ rest) := by
  cases h with
  | nil hb =>
    rw [List.append_assoc]
    exact follows_blanks hb (follows_char (.inr (.inr rfl)))
  | cons hlead _ _ _ _ _ =>
    rw [List.append_assoc]
    exact follows_lead hlead

/-- A number begins with its sign, or with a digit. -/
theorem literal_begins (l : Literal) : ∃ a s, l.text = a :: s ∧
    (a = '-' ∧ l.negative = true ∧ s = l.unsigned ∨
      a.isDigit = true ∧ l.negative = false ∧ a :: s = l.unsigned) := by
  cases hnegative : l.negative with
  | true => exact ⟨'-', _, by rw [Literal.text, hnegative]; rfl, .inl ⟨rfl, rfl, rfl⟩⟩
  | false =>
    obtain ⟨a, s, hs, ha⟩ := toDigits_cons l.whole
    exact ⟨a, s ++ l.tail, by simp [Literal.text, hnegative, Literal.unsigned, hs],
      .inr ⟨ha, rfl, by simp [Literal.unsigned, hs]⟩⟩

/-- How a value begins. -/
theorem text_begins {v : Value} (h : v.Text t) : Begins t ∧ t.head? ≠ some '\x7d' := by
  cases h with
  | null => exact ⟨⟨_, _, rfl, rfl, by decide⟩, by decide⟩
  | yes => exact ⟨⟨_, _, rfl, rfl, by decide⟩, by decide⟩
  | no => exact ⟨⟨_, _, rfl, rfl, by decide⟩, by decide⟩
  | @number l =>
    obtain ⟨a, s, hs, h⟩ := literal_begins l
    rw [hs]
    rcases h with ⟨rfl, -⟩ | ⟨ha, -⟩
    · exact ⟨⟨_, _, rfl, rfl, by decide⟩, by simp⟩
    · refine ⟨⟨a, s, rfl, not_isBlank_of_isDigit ha, ?_⟩, ?_⟩
      · rintro rfl; exact absurd ha (by decide)
      · rintro ⟨⟩; exact absurd ha (by decide)
  | string _ => exact ⟨⟨_, _, rfl, rfl, by decide⟩, by simp⟩
  | list _ => exact ⟨⟨_, _, rfl, rfl, by decide⟩, by simp⟩
  | object _ => exact ⟨⟨_, _, rfl, rfl, by decide⟩, by simp⟩

/-! ## Open brackets -/

namespace Cursor

variable {br : Bracket} {open_ : List Bracket} {first fresh : Bool} {n m fuel : Nat}

theorem skipBlanks_length (c : Cursor) : c.skipBlanks.rest.length ≤ c.rest.length := by
  obtain ⟨r, line, column⟩ := c
  simp only [skipBlanks]
  induction r generalizing line column with
  | nil => exact Nat.le_refl 0
  | cons a r ih =>
    rw [skipBlanksFrom]
    split_ifs
    · exact Nat.le_succ_of_le (ih _ _)
    · exact Nat.le_succ_of_le (ih _ _)
    · exact Nat.le_refl _

theorem advance_length (h : c.peek = some a) : c.advance.rest.length < c.rest.length := by
  rcases hr : c.rest with _ | ⟨a', r⟩
  · simp [Cursor.peek, hr] at h
  · rw [advance_rest hr]
    simp

/-- A round is only spent on a bracket that closes, so any number of rounds will do. -/
theorem nextValue_fuel (hn : c.rest.length < n) (hm : c.rest.length < m) :
    nextValue n fresh open_ c = nextValue m fresh open_ c := by
  induction n generalizing m fresh open_ c with
  | zero => omega
  | succ n ih =>
    obtain ⟨m, rfl⟩ : ∃ k, m = k + 1 := ⟨m - 1, by omega⟩
    cases open_ with
    | nil => rfl
    | cons br open_ =>
      unfold nextValue
      simp only
      have hblanks := skipBlanks_length c
      rcases hpeek : c.skipBlanks.peek with _ | a
      · rfl
      have hadvance := advance_length hpeek
      simp only
      split_ifs
      · exact ih (by omega) (by omega)
      all_goals rfl

theorem closing_not_blank (br : Bracket) : Cursor.isBlank br.closing = false := by
  cases br <;> rfl

theorem nextValue_closing (n : Nat) (fresh : Bool) (open_ : List Bracket) (hb : Blanks b)
    (h : c.rest = b ++ br.closing :: rest) :
    ∃ c', c'.rest = rest ∧ nextValue (n + 1) fresh (br :: open_) c = nextValue n false open_ c' := by
  have hrest := skipBlanks_char hb h (closing_not_blank br)
  refine ⟨_, advance_rest hrest, ?_⟩
  rw [nextValue]
  simp only [peek_cons hrest, if_true]

/-- What comes before a value is passed, and the key with it if there is one. -/
theorem nextValue_lead (n : Nat) (br : Bracket) (open_ : List Bracket) (hb : Lead first b)
    (h : c.rest = b ++ a :: s)
    (ha : Cursor.isBlank a = false) (hclosing : a ≠ br.closing) :
    ∃ (c' : Cursor) (b' : List Char), Blanks b' ∧ b'.length ≤ b.length ∧ c'.rest = b' ++ a :: s ∧
      nextValue (n + 1) first (br :: open_) c = (do
        let c ← if br = .object then c'.skipKey else .ok c'
        .ok (br :: open_, c)) := by
  cases first with
  | true =>
    have hrest := skipBlanks_char (by simpa [Lead] using hb) h ha
    refine ⟨c.skipBlanks, [], by simp [Blanks], by simp, by simpa using hrest, ?_⟩
    rw [nextValue]
    simp [peek_cons hrest, hclosing]
  | false =>
    obtain ⟨b₁, b₂, hb₁, hb₂, rfl⟩ := hb
    rw [List.append_assoc] at h
    have hrest := skipBlanks_char hb₁ h rfl
    have hcomma : ',' ≠ br.closing := by cases br <;> decide
    refine ⟨c.skipBlanks.advance, b₂, hb₂, by simp; omega, advance_rest hrest, ?_⟩
    rw [nextValue]
    simp [peek_cons hrest, hcomma]

theorem skipKey_append {name key b₁ : List Char} (hb : Blanks b) (hkey : Quoted name key)
    (hb₁ : Blanks b₁) (h : c.rest = b ++ '\"' :: (key ++ (b₁ ++ ':' :: rest))) :
    ∃ c', c.skipKey = .ok c' ∧ c'.rest = rest := by
  have hquote := skipBlanks_char hb h rfl
  obtain ⟨c₁, hskip, hrest₁⟩ := skipString_quoted hkey (advance_rest hquote)
  have hcolon := skipBlanks_char hb₁ hrest₁ rfl
  refine ⟨_, ?_, advance_rest hcolon⟩
  simp [skipKey, peek_cons hquote, hskip, peek_cons hcolon, bind, Except.bind]

/-- What is done when something has been passed over inside of open brackets: what comes next is looked for,
and what it is passed over. -/
def resume (fuel : Nat) (fresh : Bool) (open_ : List Bracket) (c : Cursor) : Except Failure Cursor := do
  match ← nextValue (c.rest.length + 1) fresh open_ c with
  | ([], c) => .ok c
  | (open_, c) => skipFrom fuel open_ c

theorem resume_nil : resume fuel fresh [] c = .ok c := by
  simp [resume, nextValue, bind, Except.bind]

theorem resume_closing (br : Bracket) (hb : Blanks b) (h : c.rest = b ++ br.closing :: rest) :
    ∃ c', c'.rest = rest ∧ resume fuel fresh (br :: open_) c = resume fuel false open_ c' := by
  obtain ⟨c', hrest, hnext⟩ := nextValue_closing c.rest.length fresh open_ hb h
  refine ⟨c', hrest, ?_⟩
  have hlength : c'.rest.length < c.rest.length := by
    rw [h, hrest, List.length_append, List.length_cons]
    omega
  rw [resume, hnext, nextValue_fuel hlength (Nat.lt_succ_self _)]
  rfl

/-- A text after which is done what is to be done after a value. -/
def Passes (t : List Char) : Prop :=
  ∀ (open_ : List Bracket) (fuel : Nat) (c : Cursor) (b rest : List Char), Blanks b →
    c.rest = b ++ (t ++ rest) → Follows rest → c.rest.length < fuel →
    ∃ (c' : Cursor) (fuel' : Nat), c'.rest = rest ∧ rest.length < fuel' ∧
      skipFrom fuel open_ c = resume fuel' false open_ c'

/-- What is left of a list is passed over, if each of its elements is. -/
theorem resume_elements {vs : List Value} (hvs : ∀ v ∈ vs, ∀ t, v.Text t → Passes t)
    (h : Elements first vs u) (hc : c.rest = u ++ rest) (hfuel : c.rest.length < fuel) :
    ∃ (c' : Cursor) (fuel' : Nat), c'.rest = rest ∧ rest.length < fuel' ∧
      resume fuel first (.list :: open_) c = resume fuel' false open_ c' := by
  induction vs generalizing first u c fuel with
  | nil =>
    cases h with
    | nil hb =>
      rw [List.append_assoc] at hc
      obtain ⟨c', hrest, hresume⟩ := resume_closing .list hb hc
      rw [hc, List.length_append, List.length_append] at hfuel
      exact ⟨c', fuel, hrest, by omega, hresume⟩
  | cons v vs ih =>
    cases h with
    | @cons _ b _ t _ u hlead hv hu =>
      obtain ⟨⟨a, s, rfl, ha, hclosing⟩, -⟩ := text_begins hv
      have hc : c.rest = b ++ a :: (s ++ (u ++ rest)) := by simpa using hc
      obtain ⟨c₁, b₁, hb₁, hle, hrest₁, hnext⟩ :=
        nextValue_lead c.rest.length .list open_ hlead hc ha hclosing
      have hlength : c₁.rest.length < fuel := by
        rw [hc, List.length_append] at hfuel
        rw [hrest₁, List.length_append]
        omega
      obtain ⟨c₂, fuel₂, hrest₂, hfuel₂, hskip⟩ := hvs v (by simp) _ hv (.list :: open_) fuel c₁ b₁
        (u ++ rest) hb₁ hrest₁ (follows_elements hu) hlength
      obtain ⟨c', fuel', hrest, hfuel', hresume⟩ :=
        ih (fun w hw => hvs w (by simp [hw])) hu hrest₂ (by rwa [hrest₂])
      refine ⟨c', fuel', hrest, hfuel', ?_⟩
      rw [← hresume, ← hskip, resume, hnext]
      simp [bind, Except.bind]

/-- The same for an object. -/
theorem resume_fields {fields : List (String × Value)}
    (hfields : ∀ f ∈ fields, ∀ t, f.2.Text t → Passes t) (h : Fields first fields u)
    (hc : c.rest = u ++ rest) (hfuel : c.rest.length < fuel) :
    ∃ (c' : Cursor) (fuel' : Nat), c'.rest = rest ∧ rest.length < fuel' ∧
      resume fuel first (.object :: open_) c = resume fuel' false open_ c' := by
  induction fields generalizing first u c fuel with
  | nil =>
    cases h with
    | nil hb =>
      rw [List.append_assoc] at hc
      obtain ⟨c', hrest, hresume⟩ := resume_closing .object hb hc
      rw [hc, List.length_append, List.length_append] at hfuel
      exact ⟨c', fuel, hrest, by omega, hresume⟩
  | cons f fields ih =>
    cases h with
    | @cons _ b name key b₁ b₂ v t _ u hlead hkey hb₁ hb₂ hv hu =>
      have hc : c.rest = b ++ '\"' :: (key ++ (b₁ ++ ':' :: (b₂ ++ (t ++ (u ++ rest))))) := by
        simpa using hc
      obtain ⟨c₁, b', hb', hle, hrest₁, hnext⟩ :=
        nextValue_lead c.rest.length .object open_ hlead hc rfl (by decide)
      obtain ⟨c₂, hkeyed, hrest₂⟩ := skipKey_append hb' hkey hb₁ hrest₁
      have hlength : c₂.rest.length < fuel := by
        simp only [hc, List.length_append, List.length_cons] at hfuel
        simp only [hrest₂, List.length_append]
        omega
      obtain ⟨c₃, fuel₃, hrest₃, hfuel₃, hskip⟩ := hfields (name, v) (by simp) _ hv
        (.object :: open_) fuel c₂ b₂ (u ++ rest) hb₂ hrest₂ (follows_fields hu) hlength
      obtain ⟨c', fuel', hrest, hfuel', hresume⟩ :=
        ih (fun g hg => hfields g (by simp [hg])) hu hrest₃ (by rwa [hrest₃])
      refine ⟨c', fuel', hrest, hfuel', ?_⟩
      rw [← hresume, ← hskip, resume, hnext]
      simp [hkeyed, bind, Except.bind]

/-- A value without others inside of it takes one round. -/
theorem passes_single {v : Value} (hv : v.Text t)
    (h : ∀ (open_ : List Bracket) (c : Cursor) (rest : List Char), c.skipBlanks.rest = t ++ rest →
      Follows rest → ∃ c', c'.rest = rest ∧
        ∀ fuel, skipFrom (fuel + 1) open_ c = resume fuel false open_ c') : Passes t := by
  intro open_ fuel c b rest hb hc hrest hfuel
  obtain ⟨⟨a, s, rfl, ha, -⟩, -⟩ := text_begins hv
  obtain ⟨fuel, rfl⟩ : ∃ k, fuel = k + 1 := ⟨fuel - 1, by omega⟩
  obtain ⟨c', hrest', hskip⟩ := h open_ c rest (skipBlanks_char hb hc ha) hrest
  refine ⟨c', fuel, hrest', ?_, hskip fuel⟩
  simp only [hc, List.length_append, List.length_cons] at hfuel
  omega

/-- What is inside of brackets is passed over in the rounds after that of the opening one. -/
theorem passes_opened (br : Bracket) {opening : Char} (ha : Cursor.isBlank opening = false)
    (hround : ∀ (open_ : List Bracket) (c : Cursor) (fuel : Nat), c.skipBlanks.peek = some opening →
      skipFrom (fuel + 1) open_ c = resume fuel true (br :: open_) c.skipBlanks.advance)
    (h : ∀ (open_ : List Bracket) (c : Cursor) (rest : List Char) (fuel : Nat), c.rest = u ++ rest →
      c.rest.length < fuel → ∃ (c' : Cursor) (fuel' : Nat), c'.rest = rest ∧ rest.length < fuel' ∧
        resume fuel true (br :: open_) c = resume fuel' false open_ c') : Passes (opening :: u) := by
  intro open_ fuel c b rest hb hc _ hfuel
  have hopen : c.skipBlanks.rest = opening :: (u ++ rest) := skipBlanks_char hb hc ha
  obtain ⟨fuel, rfl⟩ : ∃ k, fuel = k + 1 := ⟨fuel - 1, by omega⟩
  have hlength : c.skipBlanks.advance.rest.length < fuel := by
    simp only [hc, List.length_append, List.length_cons] at hfuel
    simp only [advance_rest hopen, List.length_append]
    omega
  obtain ⟨c', fuel', hrest, hfuel', hresume⟩ := h open_ _ rest fuel (advance_rest hopen) hlength
  exact ⟨c', fuel', hrest, hfuel', (hround open_ c fuel (peek_cons hopen)).trans hresume⟩

/-- **A value is passed over**, with whatever is inside of it. -/
theorem passes_text (v : Value) : ∀ t, v.Text t → Passes t := by
  induction v with
  | null =>
    intro t ht
    refine passes_single ht fun open_ c rest hc _ => ?_
    cases ht
    obtain ⟨c', hword, hrest⟩ := word_advance hc
    refine ⟨c', hrest, fun fuel => ?_⟩
    rw [skipFrom]
    simp only [peek_cons hc, hword]
    rfl
  | bool x =>
    intro t ht
    refine passes_single ht fun open_ c rest hc _ => ?_
    cases ht
    all_goals
      obtain ⟨c', hword, hrest⟩ := word_advance hc
      refine ⟨c', hrest, fun fuel => ?_⟩
      rw [skipFrom]
      simp only [peek_cons hc, hword]
      rfl
  | number l =>
    intro t ht
    refine passes_single ht fun open_ c rest hc hrest => ?_
    cases ht
    obtain ⟨a, s, hs, h⟩ := literal_begins l
    rw [hs] at hc
    rcases h with ⟨rfl, -, rfl⟩ | ⟨ha, -, hs⟩
    · obtain ⟨c', hnumber, hrest'⟩ := skipNumber_literal hrest.numberEnds (advance_rest hc)
      refine ⟨c', hrest', fun fuel => ?_⟩
      rw [skipFrom]
      simp only [peek_cons hc, hnumber]
      rfl
    · have hunsigned : c.skipBlanks.rest = l.unsigned ++ rest := by rw [hc, hs]
      obtain ⟨c', hnumber, hrest'⟩ := skipNumber_literal hrest.numberEnds hunsigned
      refine ⟨c', hrest', fun fuel => ?_⟩
      rw [skipFrom]
      simp only [peek_cons hc]
      -- None of the other characters that a value may begin with is a digit.
      split <;> rename_i hpeek
      all_goals cases hpeek
      all_goals first
        | exact absurd ha (by decide)
        | simp only [ha, if_true, hnumber]; rfl
  | string s =>
    intro t ht
    refine passes_single ht fun open_ c rest hc _ => ?_
    cases ht with
    | string hs =>
      obtain ⟨c', hstring, hrest⟩ := skipString_quoted hs (advance_rest hc)
      refine ⟨c', hrest, fun fuel => ?_⟩
      rw [skipFrom]
      simp only [peek_cons hc, hstring]
      rfl
  | list vs ih =>
    intro t ht
    cases ht with
    | list hvs =>
      refine passes_opened .list rfl (fun open_ c fuel hpeek => ?_)
        fun open_ c rest fuel => resume_elements ih hvs
      rw [skipFrom]
      simp only [hpeek]
      rfl
  | object fields ih =>
    intro t ht
    cases ht with
    | object hfields =>
      refine passes_opened .object rfl (fun open_ c fuel hpeek => ?_)
        fun open_ c rest fuel => resume_fields ih hfields
      rw [skipFrom]
      simp only [hpeek]
      rfl

/-- A value of any shape is passed over. -/
theorem skip_text {v : Value} (hv : v.Text t) (hb : Blanks b) (h : c.rest = b ++ (t ++ rest))
    (hrest : Follows rest) : ∃ c', c.skip = .ok c' ∧ c'.rest = rest := by
  obtain ⟨c', fuel, hrest', -, hskip⟩ :=
    passes_text v t hv [] (c.rest.length + 1) c b rest hb h hrest (Nat.lt_succ_self _)
  exact ⟨c', hskip.trans resume_nil, hrest'⟩

end Cursor

end Rollout.Json
