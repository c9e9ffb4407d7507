import Rollout.Json.Decoder
import Rollout.Proofs.Value

/-!
# Reading strings and numbers back

What stands at a cursor is read up to where it ends, and the rest is left. The places in the text that a
cursor counts are of no concern here, so a cursor is known by what is left to read.

* `string_quoted`, `skipString_quoted`: a string is read from each of its texts, or passed over.
* `number_literal`, `skipNumber_literal`: a number is read from its text, or passed over, if nothing follows
  that belongs to a number. What is no integer of 64 bits is read as a fraction or not at all.
-/

namespace Rollout.Json

variable {c : Cursor} {a : Char} {s t rest : List Char} {n : Nat}

/-! ## Cursors -/

namespace Cursor

theorem peek_cons (h : c.rest = a :: s) : c.peek = some a := by
  rw [peek, h, List.head?_cons]

theorem advance_rest (h : c.rest = a :: s) : c.advance.rest = s := by
  simp only [advance, h, past]
  split <;> rfl

theorem skipBlanks_cons (h : c.rest = a :: s) (ha : isBlank a = false) : c.skipBlanks = c := by
  obtain ⟨_, line, column⟩ := c
  obtain rfl := h
  simp [skipBlanks, skipBlanksFrom, ha]

/-- A word is read letter by letter. -/
theorem word_append {w : List Char} (h : c.rest = w ++ rest) :
    ∃ c', word w c = .ok c' ∧ c'.rest = rest := by
  induction w generalizing c with
  | nil => exact ⟨c, rfl, h⟩
  | cons a w ih =>
    obtain ⟨c', hword, hrest⟩ := ih (advance_rest h)
    refine ⟨c', ?_, hrest⟩
    rw [word, peek_cons h]
    simpa using hword

/-- A word of which the first letter has been looked at. -/
theorem word_advance {w : List Char} (h : c.rest = (a :: w) ++ rest) :
    ∃ c', word w c.advance = .ok c' ∧ c'.rest = rest :=
  word_append (advance_rest h)

/-! ## Strings -/

theorem hexDigit_value (h : HexDigit n a) : hexValue? a = some n ∧ Utf8.width a = 1 := by
  have hvalues : ∀ n < 16, (hexValue? (Nat.digitChar n) = some n ∧ Utf8.width (Nat.digitChar n) = 1) ∧
      hexValue? (Nat.digitChar n).toUpper = some n ∧ Utf8.width (Nat.digitChar n).toUpper = 1 := by
    decide
  obtain ⟨hn, rfl | rfl⟩ := h
  · exact (hvalues n hn).1
  · exact (hvalues n hn).2

theorem hexEscape_append (hn : Hex n s) (h : c.rest = s ++ rest) :
    ∃ c', c.hexEscape = .ok (n, c') ∧ c'.rest = rest := by
  refine ⟨⟨rest, c.line, c.column + 4⟩, ?_, rfl⟩
  cases hn with
  | intro hi hj hk hl =>
    obtain ⟨hi, hwi⟩ := hexDigit_value hi
    obtain ⟨hj, hwj⟩ := hexDigit_value hj
    obtain ⟨hk, hwk⟩ := hexDigit_value hk
    obtain ⟨hl, hwl⟩ := hexDigit_value hl
    simp [hexEscape, h, hi, hj, hk, hl, hwi, hwj, hwk, hwl]

theorem unicodeEscape_point (hn : Hex n s) (hsingle : n < 0xD800 ∨ 0xDFFF < n)
    (h : c.rest = s ++ rest) : ∃ c', c.unicodeEscape = .ok (.ofNat n, c') ∧ c'.rest = rest := by
  obtain ⟨c', hhex, hrest⟩ := hexEscape_append hn h
  refine ⟨c', ?_, hrest⟩
  have htrailing : isTrailing n = false := by simp [isTrailing]; omega
  have hleading : isLeading n = false := by simp [isLeading]; omega
  simp [unicodeEscape, hhex, htrailing, hleading, bind, Except.bind]

theorem unicodeEscape_pair {m : Nat} {s' : List Char} (hm : m < 0x400) (hn : n < 0x400)
    (hs : Hex (0xD800 + m) s) (hs' : Hex (0xDC00 + n) s')
    (h : c.rest = s ++ '\\' :: 'u' :: (s' ++ rest)) :
    ∃ c', c.unicodeEscape = .ok (.ofNat (0x10000 + 0x400 * m + n), c') ∧ c'.rest = rest := by
  obtain ⟨c₁, hfirst, hrest₁⟩ := hexEscape_append hs h
  have hrest₂ := advance_rest hrest₁
  obtain ⟨c', hsecond, hrest⟩ := hexEscape_append hs' (advance_rest hrest₂)
  refine ⟨c', ?_, hrest⟩
  have hexpect {c : Cursor} {a : Char} {s : List Char} (h : c.rest = a :: s) :
      expectInEscape a c = .ok c.advance := by simp [expectInEscape, peek_cons h]
  have hleading : isLeading (0xD800 + m) = true := by simp [isLeading]; omega
  have hnot : isTrailing (0xD800 + m) = false := by simp [isTrailing]; omega
  have htrailing : isTrailing (0xDC00 + n) = true := by simp [isTrailing]; omega
  simp [unicodeEscape, hfirst, hsecond, hexpect hrest₁, hexpect hrest₂, hleading, hnot, htrailing, bind,
    Except.bind]

theorem simpleEscape?_letter : ∀ l ∈ letters, simpleEscape? l.1 = some l.2 ∧ l.1 ≠ 'u' := by decide

/-- A character that is written with a backslash. -/
theorem stringFrom_escape {fuel : Nat} {c' c'' : Cursor} (h : c.rest = '\\' :: rest)
    (he : c.advance.escape = .ok (a, c')) (hs : stringFrom fuel c' = .ok (s, c'')) :
    stringFrom (fuel + 1) c = .ok (a :: s, c'') := by
  simp [stringFrom, peek_cons h, he, hs, bind, Except.bind]

/-- One character of a string, however it is written. -/
theorem stringFrom_spelled (ha : Spelled a t) (h : c.rest = t ++ rest) : ∃ c', c'.rest = rest ∧
    ∀ {fuel s c''}, stringFrom fuel c' = .ok (s, c'') →
      stringFrom (fuel + 1) c = .ok (a :: s, c'') := by
  cases ha with
  | itself h₁ h₂ h₃ =>
    refine ⟨c.advance, advance_rest h, fun hs => ?_⟩
    simp [stringFrom, peek_cons h, h₁, h₂, Nat.not_lt.2 h₃, hs, bind, Except.bind]
  | letter hl =>
    obtain ⟨hsimple, hu⟩ := simpleEscape?_letter _ hl
    refine ⟨c.advance.advance, advance_rest (advance_rest h), fun hs => stringFrom_escape h ?_ hs⟩
    simp only at hsimple hu
    simp [escape, peek_cons (advance_rest h), hu, hsimple]
  | point hn hsingle =>
    have hu := advance_rest h
    obtain ⟨c', hunicode, hrest⟩ := unicodeEscape_point hn hsingle (advance_rest hu)
    refine ⟨c', hrest, fun hs => stringFrom_escape h ?_ hs⟩
    simp [escape, peek_cons hu, hunicode]
  | @pair m n s s' hm hn hs hs' =>
    have h : c.rest = '\\' :: 'u' :: (s ++ '\\' :: 'u' :: (s' ++ rest)) := by simpa using h
    have hu := advance_rest h
    obtain ⟨c', hunicode, hrest⟩ := unicodeEscape_pair hm hn hs hs' (advance_rest hu)
    refine ⟨c', hrest, fun hs => stringFrom_escape h ?_ hs⟩
    simp [escape, peek_cons hu, hunicode]

theorem length_spelled_pos (h : Spelled a t) : 0 < t.length := by
  cases h <;> simp

theorem stringFrom_flatten {parts : List (List Char)} (hs : List.Forall₂ Spelled s parts) {fuel : Nat}
    (h : c.rest = parts.flatten ++ '\"' :: rest) (hfuel : c.rest.length < fuel) :
    ∃ c', stringFrom fuel c = .ok (s, c') ∧ c'.rest = rest := by
  induction hs generalizing c fuel with
  | nil =>
    obtain ⟨fuel, rfl⟩ := Nat.exists_eq_add_of_lt hfuel
    refine ⟨c.advance, ?_, advance_rest h⟩
    simp [stringFrom, peek_cons h]
  | cons ha _ ih =>
    obtain ⟨fuel, rfl⟩ : ∃ n, fuel = n + 1 := ⟨fuel - 1, by omega⟩
    rw [List.flatten_cons, List.append_assoc] at h
    obtain ⟨c₁, hrest₁, hfrom⟩ := stringFrom_spelled ha h
    have hlength := length_spelled_pos ha
    rw [h, ← hrest₁, List.length_append] at hfuel
    have hlength : c₁.rest.length < fuel := by omega
    obtain ⟨c', hs, hrest⟩ := ih hrest₁ hlength
    exact ⟨c', hfrom hs, hrest⟩

/-- **A string is read from each of its texts.** -/
theorem string_quoted (hs : Quoted s t) (h : c.rest = t ++ rest) :
    ∃ c', c.string = .ok (s, c') ∧ c'.rest = rest := by
  obtain ⟨parts, hparts, rfl⟩ := hs
  exact stringFrom_flatten hparts (by simpa using h) (Nat.lt_succ_self _)

/-- A string is read back from its escapes. -/
theorem string_escaped (h : c.rest = s.flatMap escaped ++ '\"' :: rest) :
    ∃ c', c.string = .ok (s, c') ∧ c'.rest = rest :=
  string_quoted (quoted_escaped s) (by simpa using h)

/-- One character of a string is passed over in one round or two. -/
theorem skipStringFrom_spelled (ha : Spelled a t) (h : c.rest = t ++ rest) : ∃ c' k, c'.rest = rest ∧
    k ≤ t.length ∧ ∀ fuel, skipStringFrom (fuel + k) c = skipStringFrom fuel c' := by
  have escape {c c' : Cursor} {s : List Char} (h : c.rest = '\\' :: s)
      (he : c.advance.skipEscape = .ok c') (fuel : Nat) :
      skipStringFrom (fuel + 1) c = skipStringFrom fuel c' := by
    simp [skipStringFrom, peek_cons h, he, bind, Except.bind]
  have number {c : Cursor} {n : Nat} {s rest : List Char} (hn : Hex n s)
      (h : c.rest = '\\' :: 'u' :: (s ++ rest)) : ∃ c', c'.rest = rest ∧
        ∀ fuel, skipStringFrom (fuel + 1) c = skipStringFrom fuel c' := by
    have hu := advance_rest h
    obtain ⟨c', hhex, hrest⟩ := hexEscape_append hn (advance_rest hu)
    refine ⟨c', hrest, escape h ?_⟩
    simp [skipEscape, peek_cons hu, hhex, bind, Except.bind]
  cases ha with
  | itself h₁ h₂ h₃ =>
    refine ⟨c.advance, 1, advance_rest h, Nat.le_refl 1, fun fuel => ?_⟩
    simp [skipStringFrom, peek_cons h, h₁, h₂, Nat.not_lt.2 h₃]
  | letter hl =>
    obtain ⟨hsimple, hu⟩ := simpleEscape?_letter _ hl
    refine ⟨c.advance.advance, 1, advance_rest (advance_rest h), by simp, escape h ?_⟩
    simp only at hsimple hu
    simp [skipEscape, peek_cons (advance_rest h), hu, hsimple]
  | point hn =>
    obtain ⟨c', hrest, hskip⟩ := number hn h
    exact ⟨c', 1, hrest, by simp, hskip⟩
  | @pair m n s s' _ _ hs hs' =>
    have h : c.rest = '\\' :: 'u' :: (s ++ '\\' :: 'u' :: (s' ++ rest)) := by simpa using h
    obtain ⟨c₁, hrest₁, hskip₁⟩ := number hs h
    obtain ⟨c', hrest, hskip⟩ := number hs' hrest₁
    exact ⟨c', 2, hrest, by simp, fun fuel => (hskip₁ (fuel + 1)).trans (hskip fuel)⟩

theorem skipStringFrom_flatten {parts : List (List Char)} (hs : List.Forall₂ Spelled s parts)
    {fuel : Nat} (h : c.rest = parts.flatten ++ '\"' :: rest) (hfuel : c.rest.length < fuel) :
    ∃ c', skipStringFrom fuel c = .ok c' ∧ c'.rest = rest := by
  induction hs generalizing c fuel with
  | nil =>
    obtain ⟨fuel, rfl⟩ := Nat.exists_eq_add_of_lt hfuel
    refine ⟨c.advance, ?_, advance_rest h⟩
    simp [skipStringFrom, peek_cons h]
  | cons ha _ ih =>
    rw [List.flatten_cons, List.append_assoc] at h
    obtain ⟨c₁, k, hrest₁, hk, hskip⟩ := skipStringFrom_spelled ha h
    rw [h, ← hrest₁, List.length_append] at hfuel
    have hlength : c₁.rest.length < fuel - k := by omega
    obtain ⟨c', hs, hrest⟩ := ih hrest₁ hlength
    refine ⟨c', ?_, hrest⟩
    rw [← hs, ← hskip, Nat.sub_add_cancel (by omega)]

/-- A string is passed over, whichever of its texts it is. -/
theorem skipString_quoted (hs : Quoted s t) (h : c.rest = t ++ rest) :
    ∃ c', c.skipString = .ok c' ∧ c'.rest = rest := by
  obtain ⟨parts, hparts, rfl⟩ := hs
  exact skipStringFrom_flatten hparts (by simpa using h) (Nat.lt_succ_self _)

/-! ## Numbers -/

/-- What may come after a number: nothing that belongs to one. -/
def NumberEnds (rest : List Char) : Prop :=
  ∀ a, rest.head? = some a → a.isDigit = false ∧ a ≠ '.' ∧ a ≠ 'e' ∧ a ≠ 'E'

/-- What may come after a value: nothing, or what separates or closes. -/
def Ends (rest : List Char) : Prop := ∀ a, rest.head? = some a → a = ',' ∨ a = ']' ∨ a = '}'

theorem Ends.numberEnds (h : Ends rest) : NumberEnds rest := by
  intro a ha
  rcases h a ha with rfl | rfl | rfl <;> decide

/-- Digits end where something else comes. -/
def DigitsEnd (rest : List Char) : Prop := ∀ a, rest.head? = some a → a.isDigit = false

theorem NumberEnds.digitsEnd (h : NumberEnds rest) : DigitsEnd rest := fun a ha => (h a ha).1

theorem DigitsEnd.peek (h : DigitsEnd c.rest) : c.peek.any Char.isDigit = false := by
  rw [Cursor.peek]
  cases hrest : c.rest.head? with
  | none => rfl
  | some a => exact h a hrest

theorem takeDigitsFrom_append (line : Nat) (hs : ∀ a ∈ s, a.isDigit = true) (hrest : DigitsEnd rest) :
    ∀ column : Nat,
      takeDigitsFrom line column (s ++ rest) = (s, ⟨rest, line, column + s.length⟩) := by
  induction s with
  | nil =>
    intro column
    cases rest with
    | nil => rfl
    | cons a rest =>
      have ha : a.isDigit = false := hrest a rfl
      simp [takeDigitsFrom, ha]
  | cons a s ih =>
    intro column
    rw [List.cons_append, takeDigitsFrom, if_pos (hs a (by simp)),
      ih (fun b hb => hs b (by simp [hb]))]
    simp only [List.length_cons]
    rw [Nat.add_assoc, Nat.add_comm 1]

theorem takeDigits_append (hs : ∀ a ∈ s, a.isDigit = true) (hend : DigitsEnd rest)
    (h : c.rest = s ++ rest) : ∃ c', c.takeDigits = (s, c') ∧ c'.rest = rest := by
  unfold takeDigits
  rw [h, takeDigitsFrom_append c.line hs hend]
  exact ⟨_, rfl, rfl⟩

theorem le_ofDigitChars (s : List Char) : ∀ n : Nat, n ≤ Nat.ofDigitChars 10 s n := by
  induction s with
  | nil => simp
  | cons a s ih =>
    intro n
    rw [Nat.ofDigitChars_cons]
    have := ih (10 * n + (a.toNat - '0'.toNat))
    omega

/-- Digits of a number of 64 bits are all taken. -/
theorem takeSignificand_eq (s : List Char) : ∀ n taken : Nat,
    Nat.ofDigitChars 10 s n ≤ Word.greatest64 →
      takeSignificand n taken s = (Nat.ofDigitChars 10 s n, taken + s.length, 0) := by
  induction s with
  | nil => intro n taken _; rw [takeSignificand, Nat.ofDigitChars_nil]; rfl
  | cons a s ih =>
    intro n taken h
    rw [Nat.ofDigitChars_cons] at h ⊢
    have hle := le_ofDigitChars s (10 * n + (a.toNat - '0'.toNat))
    rw [takeSignificand, if_neg (by omega), ih _ _ h]
    simp only [List.length_cons]
    rw [Nat.add_assoc, Nat.add_comm 1]

/-- Of those of a larger number, some are left. -/
theorem takeSignificand_left (s : List Char) : ∀ n taken : Nat, n ≤ Word.greatest64 →
    Word.greatest64 < Nat.ofDigitChars 10 s n → 0 < (takeSignificand n taken s).2.2 := by
  induction s with
  | nil =>
    intro n taken hn h
    rw [Nat.ofDigitChars_nil] at h
    omega
  | cons a s ih =>
    intro n taken _ h
    rw [Nat.ofDigitChars_cons] at h
    rw [takeSignificand]
    by_cases hbig : 10 * n + (a.toNat - '0'.toNat) > Word.greatest64
    · simp only [hbig, if_true]
      omega
    · simp only [hbig, if_false]
      exact ih _ _ (by omega) h

theorem toDigits_head_ne_zero (n : Nat) (hn : 0 < n) : (Nat.toDigits 10 n).head? ≠ some '0' := by
  induction n using Nat.strongRecOn with
  | _ n ih =>
    rw [Nat.toDigits_eq_if (by decide)]
    split_ifs with h
    · simp only [List.head?_cons, ne_eq, Option.some.injEq, Nat.digitChar_eq_zero]
      omega
    · have hhead := ih (n / 10) (by omega) (by omega)
      rwa [List.head?_append_of_ne_nil _ Nat.toDigits_ne_nil]

/-- The digits of a number: a zero, or others of which the first is none. -/
theorem toDigits_cases (n : Nat) : n = 0 ∧ Nat.toDigits 10 n = ['0'] ∨
    ∃ a s, Nat.toDigits 10 n = a :: s ∧ a ≠ '0' ∧ ∀ b ∈ a :: s, b.isDigit = true := by
  rcases Nat.eq_zero_or_pos n with rfl | hpos
  · exact .inl ⟨rfl, rfl⟩
  · obtain ⟨a, s, hs⟩ := List.exists_cons_of_ne_nil (Nat.toDigits_ne_nil (n := n) (b := 10))
    refine .inr ⟨a, s, hs, ?_, fun b hb =>
      Nat.isDigit_of_mem_toDigits (by decide) (by decide) (hs ▸ hb)⟩
    have hhead := toDigits_head_ne_zero n hpos
    rw [hs] at hhead
    simpa using hhead

/-- The digits before a point are taken as far as they fit. -/
theorem number_whole (negative : Bool) (hend : DigitsEnd rest)
    (h : c.rest = Nat.toDigits 10 n ++ rest) :
    ∃ (c' : Cursor) (significand left : Nat), c'.rest = rest ∧
      c.number negative = c'.afterWhole negative significand left ∧
      (n ≤ Word.greatest64 → significand = n ∧ left = 0) ∧ (Word.greatest64 < n → 0 < left) := by
  rcases toDigits_cases n with ⟨rfl, hzero⟩ | ⟨a, s, hs, ha, hdigits⟩
  · rw [hzero] at h
    have hrest : c.advance.rest = rest := advance_rest h
    refine ⟨c.advance, 0, 0, hrest, ?_, fun _ => ⟨rfl, rfl⟩, fun h => absurd h (by decide)⟩
    have hpeek : c.advance.peek.any Char.isDigit = false := DigitsEnd.peek (by rwa [hrest])
    simp only [number, peek_cons h, if_true]
    rw [if_neg (by simp [hpeek])]
  · have hvalue : Nat.ofDigitChars 10 (a :: s) 0 = n := by
      rw [← hs, Nat.ofDigitChars_ten_toDigits]
    rw [hs] at h
    obtain ⟨c', htake, hrest⟩ := takeDigits_append hdigits hend h
    refine ⟨c', (takeSignificand 0 0 (a :: s)).1, _, hrest, ?_, fun hn => ?_, fun hn =>
      takeSignificand_left (a :: s) 0 0 (by decide) (by rwa [hvalue])⟩
    · simp only [number, peek_cons h]
      rw [if_neg ha, if_pos (hdigits a (by simp)), htake]
    · rw [takeSignificand_eq (a :: s) 0 0 (by rwa [hvalue]), hvalue]
      exact ⟨rfl, rfl⟩

theorem afterWhole_end {negative : Bool} (significand left : Nat) (hend : NumberEnds c.rest) :
    c.afterWhole negative significand left =
      if left > 0 then c.scaleTo negative significand left
      else match wholeNumber negative significand with
        | some n => .ok (n, c)
        | none => .error (c.fail .numberOutOfRange) := by
  have hpeek : c.peek ≠ some '.' ∧ c.peek ≠ some 'e' ∧ c.peek ≠ some 'E' := by
    refine ⟨?_, ?_, ?_⟩ <;> intro h <;> simpa using hend _ h
  unfold afterWhole
  split
  · exact absurd ‹_› hpeek.1
  · exact absurd ‹_› hpeek.2.1
  · exact absurd ‹_› hpeek.2.2
  · rfl

/-- **A whole number is read back from its digits.** -/
theorem number_digits {negative : Bool} {x : Number} (hn : n ≤ Word.greatest64)
    (hx : wholeNumber negative n = some x) (hend : Ends rest)
    (h : c.rest = Nat.toDigits 10 n ++ rest) :
    ∃ c', c.number negative = .ok (x, c') ∧ c'.rest = rest := by
  obtain ⟨c', significand, left, hrest, hnumber, hfits, -⟩ :=
    number_whole negative hend.numberEnds.digitsEnd h
  obtain ⟨rfl, rfl⟩ := hfits hn
  refine ⟨c', ?_, hrest⟩
  rw [hnumber, afterWhole_end _ _ (by rw [hrest]; exact hend.numberEnds)]
  simp [hx]

/-! ### Literals -/

/-- A reading that is no integer: a fraction, or a failure. -/
def Fractional (r : Except Failure (Number × Cursor)) : Prop :=
  ∀ x c, r = .ok (x, c) → ∃ negative y, x = .fraction negative y

theorem Fractional.error (f : Failure) : Fractional (.error f) := by
  intro x c h
  cases h

theorem Fractional.ok (negative : Bool) (y : Binary64) (c : Cursor) :
    Fractional (.ok (.fraction negative y, c)) := by
  rintro x c' ⟨⟩
  exact ⟨negative, y, rfl⟩

section

variable (c : Cursor) (negative : Bool) (significand : Nat) (power : Int)

theorem scaleTo_fractional : Fractional (c.scaleTo negative significand power) := by
  unfold scaleTo
  split
  · exact .ok _ _ _
  · exact .error _

theorem exponent_fractional : Fractional (c.exponent negative significand power) := by
  unfold exponent
  simp only
  split
  · exact .error _
  split
  · exact .error _
  split
  · exact scaleTo_fractional _ _ _ _
  split
  · exact .error _
  · exact .ok _ _ _

theorem exponentOrEnd_fractional : Fractional (c.exponentOrEnd negative significand power) := by
  unfold exponentOrEnd
  split
  · exact exponent_fractional _ _ _ _
  · exact exponent_fractional _ _ _ _
  · exact scaleTo_fractional _ _ _ _

theorem decimals_fractional : Fractional (c.decimals negative significand power) := by
  unfold decimals
  simp only
  split
  · exact .error _
  · exact .error _
  · exact exponentOrEnd_fractional _ _ _ _

end

/-- What is written as a fraction is read as one, or not at all. -/
theorem afterWhole_fractional {negative : Bool} {significand left : Nat}
    (h : c.peek = some '.' ∨ c.peek = some 'e' ∨ c.peek = some 'E') :
    Fractional (c.afterWhole negative significand left) := by
  unfold afterWhole
  rcases h with h | h | h
  all_goals simp only [h]
  · exact decimals_fractional _ _ _ _
  · exact exponent_fractional _ _ _ _
  · exact exponent_fractional _ _ _ _

end Cursor

theorem Literal.tail_cases (l : Literal) : l.decimals = none ∧ l.exponent = none ∧ l.tail = [] ∨
    ¬(l.decimals = none ∧ l.exponent = none) ∧
      ∃ a s, l.tail = a :: s ∧ (a = '.' ∨ a = 'e' ∨ a = 'E') := by
  rcases hd : l.decimals with _ | d
  · rcases he : l.exponent with _ | e
    · exact .inl ⟨rfl, rfl, by simp [tail, hd, he]⟩
    · refine .inr ⟨by simp, if e.capital then 'E' else 'e', _, by rw [tail, hd, he]; rfl, ?_⟩
      cases e.capital <;> simp
  · exact .inr ⟨by simp, '.', _, by rw [tail, hd]; rfl, .inl rfl⟩

/-- The integers that are told as such: those of 64 bits with a sign, or without one. -/
def IsWord (i : Int) : Prop := -(Word.count63 : Int) ≤ i ∧ i ≤ Word.greatest64

/-- An integer as it is told. -/
def Number.ofInt (i : Int) : Number := if i < 0 then .signed i else .unsigned i.toNat

open Cursor

theorem wholeNumber_cases (l : Literal) (hdecimals : l.decimals = none) (hexponent : l.exponent = none)
    (hl : l.whole ≤ Word.greatest64) :
    (l.IsInteger ∧ IsWord l.toInt ∧ wholeNumber l.negative l.whole = some (.ofInt l.toInt)) ∨
    ¬(l.IsInteger ∧ IsWord l.toInt) ∧
      wholeNumber l.negative l.whole = (Binary64.ofNat? l.whole).map (.fraction true) := by
  cases hnegative : l.negative with
  | false =>
    refine .inl ⟨⟨hdecimals, hexponent, by simp [hnegative]⟩, ?_, ?_⟩
    · simp only [IsWord, Literal.toInt, hnegative]
      simp
      omega
    · simp [wholeNumber, Number.ofInt, Literal.toInt, hnegative]
  | true =>
    by_cases hsigned : l.whole ≠ 0 ∧ l.whole ≤ Word.count63
    · refine .inl ⟨⟨hdecimals, hexponent, fun _ => hsigned.1⟩, ?_, ?_⟩
      · simp only [IsWord, Literal.toInt, hnegative, if_true]
        omega
      · simp [wholeNumber, Number.ofInt, Literal.toInt, hnegative, hsigned]
    · refine .inr ⟨fun ⟨hinteger, hword⟩ => hsigned ⟨hinteger.sign hnegative, ?_⟩, ?_⟩
      · simp only [IsWord, Literal.toInt, hnegative, if_true] at hword
        omega
      · simp [wholeNumber, hsigned]

/-- **A number is read from its text**: an integer of 64 bits as such, and anything else as a fraction or not
at all. -/
theorem Cursor.number_literal {l : Literal} (hend : NumberEnds rest) (h : c.rest = l.unsigned ++ rest) :
    (l.IsInteger ∧ IsWord l.toInt ∧
      ∃ c', c.number l.negative = .ok (.ofInt l.toInt, c') ∧ c'.rest = rest) ∨
    ¬(l.IsInteger ∧ IsWord l.toInt) ∧ Fractional (c.number l.negative) := by
  rw [Literal.unsigned, List.append_assoc] at h
  rcases l.tail_cases with ⟨hdecimals, hexponent, htail⟩ | ⟨hnot, a, s, htail, ha⟩
  · rw [htail, List.nil_append] at h
    obtain ⟨c', significand, left, hrest, hnumber, hfits, hleft⟩ :=
      number_whole l.negative hend.digitsEnd h
    rw [afterWhole_end _ _ (by rwa [hrest])] at hnumber
    rw [hnumber]
    by_cases hl : l.whole ≤ Word.greatest64
    · obtain ⟨rfl, rfl⟩ := hfits hl
      rcases wholeNumber_cases l hdecimals hexponent hl with ⟨hinteger, hword, hx⟩ | ⟨hnot, hx⟩
      all_goals simp only [hx, Nat.lt_irrefl, gt_iff_lt, if_false]
      · exact .inl ⟨hinteger, hword, c', rfl, hrest⟩
      · refine .inr ⟨hnot, ?_⟩
        cases Binary64.ofNat? l.whole with
        | none => exact .error _
        | some x => exact .ok _ _ _
    · rw [if_pos (hleft (by omega))]
      refine .inr ⟨fun ⟨_, hword⟩ => ?_, scaleTo_fractional _ _ _ _⟩
      have hcount : Word.count63 ≤ Word.greatest64 := by decide
      cases hnegative : l.negative
      all_goals
        simp only [IsWord, Literal.toInt, hnegative, if_true, Bool.false_eq_true, if_false] at hword
        omega
  · have hdigits : DigitsEnd (l.tail ++ rest) := by
      rw [htail]
      rintro b ⟨⟩
      rcases ha with rfl | rfl | rfl <;> rfl
    obtain ⟨c', significand, left, hrest, hnumber, -⟩ := number_whole l.negative hdigits h
    rw [htail] at hrest
    refine .inr ⟨fun hl => hnot ⟨hl.1.decimals, hl.1.exponent⟩, ?_⟩
    rw [hnumber]
    refine afterWhole_fractional ?_
    rw [peek_cons hrest]
    simpa using ha

/-! ### Numbers that are passed over -/

theorem Digits.head (d : Digits) : ∃ a s, d.text = a :: s ∧ a.isDigit = true := by
  obtain ⟨a, s, hs⟩ := List.exists_cons_of_ne_nil d.ne_nil
  exact ⟨a, s, hs, d.isDigit a (by simp [hs])⟩

theorem exponentSign_append {sign : Option Sign} {d : Digits}
    (h : c.rest = (sign.map Sign.text).toList ++ (d.text ++ rest)) :
    (c.exponentSign).2.rest = d.text ++ rest := by
  obtain ⟨a, s, hs, ha⟩ := d.head
  rcases sign with _ | _ | _
  · have hpeek := peek_cons (c := c) (a := a) (s := s ++ rest) (by simpa [hs] using h)
    have hplus : a ≠ '+' := by rintro rfl; exact absurd ha (by decide)
    have hminus : a ≠ '-' := by rintro rfl; exact absurd ha (by decide)
    simpa [exponentSign, hpeek, hplus, hminus] using h
  all_goals
    have h : c.rest = _ :: (d.text ++ rest) := h
    rw [exponentSign, peek_cons h]
    exact advance_rest h

theorem exponent_ends {e : Option Exponent} (hend : NumberEnds rest)
    (h : (e.elim [] Exponent.text ++ rest).head? = some a) : a.isDigit = false ∧ a ≠ '.' := by
  cases e with
  | none => exact ⟨(hend a h).1, (hend a h).2.1⟩
  | some e =>
    obtain rfl : (if e.capital then 'E' else 'e') = a := by simpa [Exponent.text] using h
    cases e.capital <;> decide

theorem skipExponentOrEnd_append {e : Option Exponent} (hend : NumberEnds rest)
    (h : c.rest = e.elim [] Exponent.text ++ rest) :
    ∃ c', c.skipExponentOrEnd = .ok c' ∧ c'.rest = rest := by
  cases e with
  | none =>
    refine ⟨c, ?_, h⟩
    have h : c.rest = rest := h
    unfold skipExponentOrEnd
    split
    · rename_i hpeek; rw [Cursor.peek, h] at hpeek; simpa using hend _ hpeek
    · rename_i hpeek; rw [Cursor.peek, h] at hpeek; simpa using hend _ hpeek
    · rfl
  | some e =>
    have h : c.rest = (if e.capital then 'E' else 'e') ::
        ((e.sign.map Sign.text).toList ++ (e.digits.text ++ rest)) := by
      simpa [Exponent.text] using h
    have hsign := exponentSign_append (advance_rest h)
    obtain ⟨a, s, hs, ha⟩ := e.digits.head
    have hpeek : c.advance.exponentSign.2.peek = some a := peek_cons (s := s ++ rest) (by simp [hsign, hs])
    obtain ⟨c', htake, hrest⟩ := takeDigits_append e.digits.isDigit hend.digitsEnd hsign
    refine ⟨c', ?_, hrest⟩
    have hskip : c.skipExponentOrEnd = c.skipExponent := by
      rw [skipExponentOrEnd, peek_cons h]
      cases e.capital <;> rfl
    simp [hskip, skipExponent, hpeek, ha, htake]

/-- Past what comes after the digits before the point of a number. -/
def Cursor.skipFraction (c : Cursor) : Except Failure Cursor :=
  match c.peek with
  | some '.' =>
    let (ds, past) := c.advance.takeDigits
    if ds = [] then .error (past.failAtNext .invalidNumber) else past.skipExponentOrEnd
  | _ => c.skipExponentOrEnd

/-- **A number is passed over**, if nothing follows that belongs to it. -/
theorem Cursor.skipNumber_literal {l : Literal} (hend : NumberEnds rest)
    (h : c.rest = l.unsigned ++ rest) : ∃ c', c.skipNumber = .ok c' ∧ c'.rest = rest := by
  rw [Literal.unsigned, List.append_assoc] at h
  have hexponent : DigitsEnd (l.exponent.elim [] Exponent.text ++ rest) :=
    fun a ha => (exponent_ends hend ha).1
  have hdigits : DigitsEnd (l.tail ++ rest) := by
    rw [Literal.tail]
    cases l.decimals with
    | none => exact hexponent
    | some d => rintro a ⟨⟩; rfl
  -- The digits before the point, and then what there is of a fraction and an exponent.
  obtain ⟨past, hrest, hskip⟩ : ∃ past : Cursor, past.rest = l.tail ++ rest ∧
      c.skipNumber = past.skipFraction := by
    rcases toDigits_cases l.whole with ⟨-, hzero⟩ | ⟨a, s, hs, ha, hwhole⟩
    · rw [hzero] at h
      have hrest := advance_rest h
      have hpeek : c.advance.peek.any Char.isDigit = false := DigitsEnd.peek (by rwa [hrest])
      refine ⟨c.advance, hrest, ?_⟩
      rw [skipNumber, peek_cons h]
      simp only [if_true, hpeek, Bool.false_eq_true]
      rfl
    · rw [hs] at h
      obtain ⟨past, htake, hrest⟩ := takeDigits_append hwhole hdigits h
      refine ⟨past, hrest, ?_⟩
      rw [skipNumber, peek_cons h]
      simp only [ha, hwhole a List.mem_cons_self, htake, if_false]
      rfl
  rw [hskip, skipFraction]
  cases hd : l.decimals with
  | none =>
    rw [Literal.tail, hd] at hrest
    obtain ⟨c', hskip, hrest'⟩ := skipExponentOrEnd_append hend hrest
    refine ⟨c', ?_, hrest'⟩
    split
    · rename_i hpeek
      rw [Cursor.peek, hrest] at hpeek
      exact absurd rfl (exponent_ends hend hpeek).2
    · exact hskip
  | some d =>
    rw [Literal.tail, hd] at hrest
    have hrest : past.rest = '.' :: (d.text ++ (l.exponent.elim [] Exponent.text ++ rest)) := by
      simpa using hrest
    obtain ⟨past', htake, hrest'⟩ := takeDigits_append d.isDigit hexponent (advance_rest hrest)
    obtain ⟨c', hskip, hrest''⟩ := skipExponentOrEnd_append hend hrest'
    refine ⟨c', ?_, hrest''⟩
    simp only [peek_cons hrest, htake, if_neg d.ne_nil]
    exact hskip

end Rollout.Json
