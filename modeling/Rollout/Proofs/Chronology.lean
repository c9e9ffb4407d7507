import Mathlib.Algebra.Group.Nat.Defs
import Rollout.Date

/-!
# Stamps sort as days do

The stamps of the years 0 to 9999 are texts of eight digits. Two of them are in the order of texts
exactly if their days are in the order of the calendar, because numbers that are padded with zeros to
one width are in the order of numbers.

* `Date.padded_concat`: a padded number ends in its last digit, and begins with all others.
* `Date.padded_lt_iff`: padded numbers are in the order of numbers.
* `Date.stamp_lt_iff`: stamps are in the order of days.
* `Date.stamp_inj`: a stamp tells the day.
-/

namespace Rollout

/-! ## Texts in order -/

/-- Of texts with first parts of one length, the second parts count only if the first are equal. -/
theorem append_lt_append_iff {s s' t t' : List Char} (h : s.length = s'.length) :
    s ++ t < s' ++ t' ↔ s < s' ∨ s = s' ∧ t < t' := by
  induction s generalizing s' with
  | nil =>
    obtain rfl : s' = [] := List.eq_nil_of_length_eq_zero h.symm
    simp
  | cons c s ih =>
    obtain _ | ⟨c', s'⟩ := s'
    · cases h
    have hlength : s.length = s'.length := by simpa using h
    rw [List.cons_append, List.cons_append, List.cons_lt_cons_iff, List.cons_lt_cons_iff, ih hlength,
      List.cons.injEq]
    simp only [and_or_left, or_assoc, and_assoc]

namespace Date

/-! ## Padded numbers -/

theorem digitChar_lt_iff :
    ∀ m < 10, ∀ n < 10, Nat.digitChar m < Nat.digitChar n ↔ m < n := by decide

theorem digitChar_inj : ∀ m < 10, ∀ n < 10, Nat.digitChar m = Nat.digitChar n → m = n := by decide

theorem toList_padded (width n : Nat) : (padded width n).toList =
    List.replicate (width - (Nat.toDigits 10 n).length) '0' ++ Nat.toDigits 10 n := by
  simp only [padded, String.toList_append, String.toList_ofList, Nat.toString_eq_ofList_toDigits,
    String.length_ofList]

/-- A number of one digit. -/
theorem padded_digit (width : Nat) {n : Nat} (h : n < 10) :
    (padded (width + 1) n).toList = List.replicate width '0' ++ [Nat.digitChar n] := by
  rw [toList_padded, Nat.toDigits_of_lt_base h]
  rfl

/-- A number of several digits ends in its last one. -/
theorem padded_concat (width n : Nat) : (padded (width + 2) n).toList =
    (padded (width + 1) (n / 10)).toList ++ [Nat.digitChar (n % 10)] := by
  by_cases h : n < 10
  · -- All that is before the digit is padding.
    have hzero : n / 10 = 0 := by omega
    have hmod : n % 10 = n := by omega
    have hdigit : Nat.digitChar 0 = '0' := rfl
    rw [padded_digit (width + 1) h, hzero, hmod, padded_digit width (by decide), hdigit,
      List.replicate_succ']
  · have hdigits : Nat.toDigits 10 n = Nat.toDigits 10 (n / 10) ++ [Nat.digitChar (n % 10)] := by
      rw [Nat.toDigits_eq_if (by decide), if_neg h]
    have hlength : width + 2 - (Nat.toDigits 10 n).length =
        width + 1 - (Nat.toDigits 10 (n / 10)).length := by
      rw [hdigits, List.length_append, List.length_singleton]
      omega
    rw [toList_padded, hlength, hdigits, toList_padded, List.append_assoc]

theorem length_padded (width : Nat) :
    ∀ {n : Nat}, n < 10 ^ (width + 1) → (padded (width + 1) n).toList.length = width + 1 := by
  induction width with
  | zero =>
    intro n h
    rw [padded_digit 0 (by simpa using h)]
    rfl
  | succ width ih =>
    intro n h
    have hn : n / 10 < 10 ^ (width + 1) := by
      rw [Nat.pow_succ] at h
      omega
    rw [padded_concat, List.length_append, ih hn, List.length_singleton]

/-- A padded number tells the number. -/
theorem padded_inj (width : Nat) : ∀ {m n : Nat}, m < 10 ^ (width + 1) → n < 10 ^ (width + 1) →
    (padded (width + 1) m).toList = (padded (width + 1) n).toList → m = n := by
  induction width with
  | zero =>
    intro m n hm hn h
    have hm' : m < 10 := by simpa using hm
    have hn' : n < 10 := by simpa using hn
    rw [padded_digit 0 hm', padded_digit 0 hn'] at h
    exact digitChar_inj m hm' n hn' (by simpa using h)
  | succ width ih =>
    intro m n hm hn h
    rw [Nat.pow_succ] at hm hn
    rw [padded_concat, padded_concat] at h
    obtain ⟨htens, hlast⟩ := List.append_inj' h rfl
    have hdiv : m / 10 = n / 10 := ih (by omega) (by omega) htens
    have hmod : m % 10 = n % 10 :=
      digitChar_inj (m % 10) (by omega) (n % 10) (by omega) (by simpa using hlast)
    omega

/-- **Padded numbers are in the order of numbers.** -/
theorem padded_lt_iff (width : Nat) : ∀ {m n : Nat}, m < 10 ^ (width + 1) → n < 10 ^ (width + 1) →
    ((padded (width + 1) m).toList < (padded (width + 1) n).toList ↔ m < n) := by
  induction width with
  | zero =>
    intro m n hm hn
    have hm' : m < 10 := by simpa using hm
    have hn' : n < 10 := by simpa using hn
    rw [padded_digit 0 hm', padded_digit 0 hn', ← digitChar_lt_iff m hm' n hn']
    simp [List.cons_lt_cons_iff]
  | succ width ih =>
    intro m n hm hn
    rw [Nat.pow_succ] at hm hn
    have hm' : m / 10 < 10 ^ (width + 1) := by omega
    have hn' : n / 10 < 10 ^ (width + 1) := by omega
    have hlength : (padded (width + 1) (m / 10)).toList.length =
        (padded (width + 1) (n / 10)).toList.length := by
      rw [length_padded width hm', length_padded width hn']
    have hdigit := digitChar_lt_iff (m % 10) (by omega) (n % 10) (by omega)
    rw [padded_concat, padded_concat, append_lt_append_iff hlength, ih hm' hn',
      List.cons_lt_cons_iff, hdigit]
    constructor
    · rintro (htens | ⟨htens, hlast | ⟨-, hnil⟩⟩)
      · omega
      · have hdiv := padded_inj width hm' hn' htens
        omega
      · cases hnil
    · intro hlt
      by_cases hdiv : m / 10 = n / 10
      · rw [hdiv]
        have hmod : m % 10 < n % 10 := by omega
        exact .inr ⟨rfl, .inl hmod⟩
      · exact .inl (by omega)

/-! ## Stamps -/

/-- Whether a year is written in four digits without a sign. -/
def HasPlainYear (d : Date) : Prop := 0 ≤ d.year ∧ d.year ≤ 9999

/-- Whether one day comes before another in the calendar. -/
def Before (d e : Date) : Prop :=
  d.year < e.year ∨ d.year = e.year ∧ (d.month < e.month ∨ d.month = e.month ∧ d.day < e.day)

instance (d : Date) : Decidable d.HasPlainYear := inferInstanceAs (Decidable (_ ∧ _))

instance (d e : Date) : Decidable (d.Before e) := inferInstanceAs (Decidable (_ ∨ _))

variable {d e : Date}

theorem eq_of_not_before (h : ¬ d.Before e) (h' : ¬ e.Before d) : d = e := by
  obtain ⟨year, month, day, hm₁, hm₂, hd₁, hd₂⟩ := d
  obtain ⟨year', month', day', hm₁', hm₂', hd₁', hd₂'⟩ := e
  simp only [Before] at h h'
  obtain rfl : year = year' := by omega
  obtain rfl : month = month' := by omega
  obtain rfl : day = day' := by omega
  rfl

theorem month_lt (d : Date) : d.month < 10 ^ (1 + 1) := by
  have hle := d.month_le
  omega

theorem day_lt (d : Date) : d.day < 10 ^ (1 + 1) := by
  have hle := d.day_le
  have hdays : daysIn d.year d.month ≤ 31 := by
    unfold daysIn
    split
    · split <;> decide
    · split <;> decide
  omega

theorem HasPlainYear.year_lt (h : d.HasPlainYear) : d.year.toNat < 10 ^ (3 + 1) := by
  obtain ⟨h₀, h₁⟩ := h
  omega

theorem HasPlainYear.toList_stamp (h : d.HasPlainYear) : d.stamp.toList =
    (padded 4 d.year.toNat).toList ++ ((padded 2 d.month).toList ++ (padded 2 d.day).toList) := by
  unfold HasPlainYear at h
  simp only [stamp, yearText, if_pos h, String.toList_append, List.append_assoc]

theorem HasPlainYear.length_stamp (h : d.HasPlainYear) : d.stamp.toList.length = 8 := by
  rw [h.toList_stamp, List.length_append, List.length_append, length_padded 3 h.year_lt,
    length_padded 1 d.month_lt, length_padded 1 d.day_lt]

/-- A stamp ends in a digit, in whatever year. -/
theorem stamp_concat (d : Date) :
    ∃ (digits : List Char) (c : Char), d.stamp.toList = digits ++ [c] ∧ c.isDigit = true := by
  have hdigit : ∀ n < 10, (Nat.digitChar n).isDigit = true := by decide
  refine ⟨(yearText d.year).toList ++ (padded 2 d.month).toList ++ (padded 1 (d.day / 10)).toList,
    Nat.digitChar (d.day % 10), ?_, hdigit _ (by omega)⟩
  rw [stamp, String.toList_append, String.toList_append, padded_concat 0 d.day, List.append_assoc,
    List.append_assoc, List.append_assoc]

/-- **Stamps are in the order of days.** -/
theorem stamp_lt_iff (hd : d.HasPlainYear) (he : e.HasPlainYear) :
    d.stamp < e.stamp ↔ d.Before e := by
  have hyears : (padded 4 d.year.toNat).toList.length = (padded 4 e.year.toNat).toList.length := by
    rw [length_padded 3 hd.year_lt, length_padded 3 he.year_lt]
  have hmonths : (padded 2 d.month).toList.length = (padded 2 e.month).toList.length := by
    rw [length_padded 1 d.month_lt, length_padded 1 e.month_lt]
  have hyear : (padded 4 d.year.toNat).toList = (padded 4 e.year.toNat).toList ↔
      d.year = e.year := by
    constructor
    · intro h
      have hnat := padded_inj 3 hd.year_lt he.year_lt h
      have hd₀ := hd.1
      have he₀ := he.1
      omega
    · intro h
      rw [h]
  have hmonth : (padded 2 d.month).toList = (padded 2 e.month).toList ↔ d.month = e.month :=
    ⟨padded_inj 1 d.month_lt e.month_lt, fun h => by rw [h]⟩
  rw [String.lt_iff, hd.toList_stamp, he.toList_stamp, append_lt_append_iff hyears,
    append_lt_append_iff hmonths, hyear, hmonth, padded_lt_iff 3 hd.year_lt he.year_lt,
    padded_lt_iff 1 d.month_lt e.month_lt, padded_lt_iff 1 d.day_lt e.day_lt, Before]
  have hd₀ := hd.1
  have he₀ := he.1
  omega

/-- **A stamp tells the day.** -/
theorem stamp_inj (hd : d.HasPlainYear) (he : e.HasPlainYear) (h : d.stamp = e.stamp) : d = e := by
  apply eq_of_not_before
  · rw [← stamp_lt_iff hd he, h]
    exact String.lt_irrefl _
  · rw [← stamp_lt_iff he hd, h]
    exact String.lt_irrefl _

end Date

end Rollout
