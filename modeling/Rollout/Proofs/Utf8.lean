import Rollout.Text.Utf8

/-!
# Bytes that are a text

* `Sequence` is the table of the byte sequences of single characters: how many bytes there are follows
  from the first, and the second tells apart what is too short or no character at all.
* `sequence_encodeChar` and `Sequence.scan`: writing follows the table, and reading goes by it.
* `decode?_eq_some_iff`: the bytes that can be read are exactly those that are written for a text.
-/

namespace Rollout.Utf8

/-- Whether a byte can come after the first of a character. -/
def IsTail (a : UInt8) : Prop := 0x80 ≤ a.toNat ∧ a.toNat ≤ 0xBF

/-- The six bits that such a byte holds. -/
def tailBits (a : UInt8) : Nat := a.toNat - 0x80

/-- The first ten or so bits of a character of three bytes, from the first two of them: neither so few
that two bytes would do, nor those of a surrogate. -/
def IsHead3 (n : Nat) : Prop := 0x20 ≤ n ∧ ¬(0x360 ≤ n ∧ n ≤ 0x37F)

/-- The same for a character of four bytes: not so few that three bytes would do, and not too many. -/
def IsHead4 (n : Nat) : Prop := 0x10 ≤ n ∧ n < 0x110

/-- The bytes of a character, by its code point. -/
inductive Sequence : List UInt8 → Nat → Prop
  | one {a} : a.toNat < 0x80 → Sequence [a] a.toNat
  | two {a b} : 0xC2 ≤ a.toNat → a.toNat ≤ 0xDF → IsTail b →
      Sequence [a, b] (64 * (a.toNat - 0xC0) + tailBits b)
  | three {a b c} : 0xE0 ≤ a.toNat → a.toNat ≤ 0xEF → IsTail b → IsTail c →
      IsHead3 (64 * (a.toNat - 0xE0) + tailBits b) →
      Sequence [a, b, c] (64 * (64 * (a.toNat - 0xE0) + tailBits b) + tailBits c)
  | four {a b c d} : 0xF0 ≤ a.toNat → a.toNat ≤ 0xF4 → IsTail b → IsTail c → IsTail d →
      IsHead4 (64 * (a.toNat - 0xF0) + tailBits b) →
      Sequence [a, b, c, d]
        (64 * (64 * (64 * (a.toNat - 0xF0) + tailBits b) + tailBits c) + tailBits d)

variable {s l : List UInt8} {t : List Char} {n : Nat} {p : Pending}

/-! ## Writing -/

theorem toNat_ofNat {n : Nat} (h : n < 256) : (UInt8.ofNat n).toNat = n := by
  simpa using Nat.mod_eq_of_lt h

theorem tail_ofNat {n : Nat} (h : n < 64) :
    IsTail (.ofNat (0x80 + n)) ∧ tailBits (.ofNat (0x80 + n)) = n := by
  have hn : (UInt8.ofNat (0x80 + n)).toNat = 0x80 + n := toNat_ofNat (by omega)
  unfold IsTail tailBits
  omega

theorem toNat_cases (c : Char) : c.toNat < 0xD800 ∨ 0xDFFF < c.toNat ∧ c.toNat < 0x110000 := c.valid

theorem sequence_encodeChar (c : Char) : Sequence (encodeChar c) c.toNat := by
  have hc := toNat_cases c
  unfold encodeChar
  simp only
  generalize c.toNat = n at hc
  by_cases h₁ : n < 0x80
  · have ha : (UInt8.ofNat n).toNat = n := toNat_ofNat (by omega)
    have h := Sequence.one (a := .ofNat n) (by omega)
    rw [if_pos h₁]
    rwa [ha] at h
  rw [if_neg h₁]
  by_cases h₂ : n < 0x800
  · have ha : (UInt8.ofNat (0xC0 + n / 64)).toNat = 0xC0 + n / 64 := toNat_ofNat (by omega)
    obtain ⟨hb, hb'⟩ := tail_ofNat (n := n % 64) (by omega)
    have h := Sequence.two (a := .ofNat (0xC0 + n / 64)) (by omega) (by omega) hb
    rw [if_pos h₂]
    have hn : 64 * ((0xC0 + n / 64) - 0xC0) + n % 64 = n := by omega
    rwa [ha, hb', hn] at h
  rw [if_neg h₂]
  by_cases h₃ : n < 0x10000
  · have ha : (UInt8.ofNat (0xE0 + n / 4096)).toNat = 0xE0 + n / 4096 := toNat_ofNat (by omega)
    obtain ⟨hb, hb'⟩ := tail_ofNat (n := n / 64 % 64) (by omega)
    obtain ⟨hd, hd'⟩ := tail_ofNat (n := n % 64) (by omega)
    have hhead : IsHead3 (64 * ((UInt8.ofNat (0xE0 + n / 4096)).toNat - 0xE0) +
        tailBits (.ofNat (0x80 + n / 64 % 64))) := by
      rw [ha, hb']; unfold IsHead3; omega
    have h := Sequence.three (a := .ofNat (0xE0 + n / 4096)) (by omega) (by omega) hb hd hhead
    rw [if_pos h₃]
    have hn : 64 * (64 * ((0xE0 + n / 4096) - 0xE0) + n / 64 % 64) + n % 64 = n := by omega
    rwa [ha, hb', hd', hn] at h
  · have ha : (UInt8.ofNat (0xF0 + n / 262144)).toNat = 0xF0 + n / 262144 := toNat_ofNat (by omega)
    obtain ⟨hb, hb'⟩ := tail_ofNat (n := n / 4096 % 64) (by omega)
    obtain ⟨hd, hd'⟩ := tail_ofNat (n := n / 64 % 64) (by omega)
    obtain ⟨he, he'⟩ := tail_ofNat (n := n % 64) (by omega)
    have hhead : IsHead4 (64 * ((UInt8.ofNat (0xF0 + n / 262144)).toNat - 0xF0) +
        tailBits (.ofNat (0x80 + n / 4096 % 64))) := by
      rw [ha, hb']; unfold IsHead4; omega
    have h := Sequence.four (a := .ofNat (0xF0 + n / 262144)) (by omega) (by omega) hb hd he hhead
    rw [if_neg h₃]
    have hn : 64 * (64 * (64 * ((0xF0 + n / 262144) - 0xF0) + n / 4096 % 64) + n / 64 % 64) +
        n % 64 = n := by omega
    rwa [ha, hb', hd', he', hn] at h

theorem ofNat_of_toNat {a : UInt8} {n : Nat} (h : n = a.toNat) : UInt8.ofNat n = a := by
  rw [h, UInt8.ofNat_toNat]

theorem Sequence.isValidChar (h : Sequence l n) : n < 0xD800 ∨ 0xDFFF < n ∧ n < 0x110000 := by
  cases h with
  | one ha => omega
  | two ha ha' hb =>
    unfold IsTail at hb
    unfold tailBits
    omega
  | three ha ha' hb hc hhead =>
    unfold IsTail at hb hc
    unfold IsHead3 tailBits at hhead
    unfold tailBits
    omega
  | four ha ha' hb hc hd hhead =>
    unfold IsTail at hb hc hd
    unfold IsHead4 tailBits at hhead
    unfold tailBits
    omega

/-- A sequence of the table is that of a character, -/
theorem Sequence.toNat (h : Sequence l n) : (Char.ofNat n).toNat = n := by
  rw [Char.ofNat, dif_pos h.isValidChar]
  rfl

/-- and what is written for it. -/
theorem Sequence.encodeChar (h : Sequence l n) : encodeChar (Char.ofNat n) = l := by
  unfold Utf8.encodeChar
  simp only [h.toNat]
  cases h with
  | one ha => rw [if_pos ha, UInt8.ofNat_toNat]
  | @two a b ha ha' hb =>
    unfold IsTail at hb
    unfold tailBits
    rw [if_neg (by omega), if_pos (by omega), ofNat_of_toNat (a := a) (by omega),
      ofNat_of_toNat (a := b) (by omega)]
  | @three a b c ha ha' hb hc hhead =>
    unfold IsTail at hb hc
    unfold IsHead3 tailBits at hhead
    unfold tailBits
    rw [if_neg (by omega), if_neg (by omega), if_pos (by omega), ofNat_of_toNat (a := a) (by omega),
      ofNat_of_toNat (a := b) (by omega), ofNat_of_toNat (a := c) (by omega)]
  | @four a b c d ha ha' hb hc hd hhead =>
    unfold IsTail at hb hc hd
    unfold IsHead4 tailBits at hhead
    unfold tailBits
    rw [if_neg (by omega), if_neg (by omega), if_neg (by omega),
      ofNat_of_toNat (a := a) (by omega), ofNat_of_toNat (a := b) (by omega),
      ofNat_of_toNat (a := c) (by omega), ofNat_of_toNat (a := d) (by omega)]

/-! ## Reading -/

theorem begin_one {a : Nat} (h : a < 0x80) : begin a = ([some (Char.ofNat a)], none) := if_pos h

theorem begin_two {a : Nat} (h : 0xC2 ≤ a) (h' : a ≤ 0xDF) :
    begin a = ([], some ⟨1, 0x80, 0xBF, a - 0xC0⟩) := by
  unfold begin
  rw [if_neg (by omega), if_pos ⟨h, h'⟩]

/-- The range of the second byte leaves out what is no character of three bytes, -/
theorem begin_three {a : Nat} (h : 0xE0 ≤ a) (h' : a ≤ 0xEF) :
    ∃ low high, begin a = ([], some ⟨2, low, high, a - 0xE0⟩) ∧
      ∀ b : UInt8, low ≤ b.toNat ∧ b.toNat ≤ high ↔
        IsTail b ∧ IsHead3 (64 * (a - 0xE0) + tailBits b) := by
  unfold begin IsTail IsHead3 tailBits
  rw [if_neg (by omega), if_neg (by omega)]
  by_cases h₀ : a = 0xE0
  · exact ⟨_, _, by rw [if_pos h₀, h₀], fun b => by omega⟩
  rw [if_neg h₀]
  by_cases h₁ : a = 0xED
  · exact ⟨_, _, by rw [if_pos h₁, h₁], fun b => by omega⟩
  · exact ⟨_, _, by rw [if_neg h₁, if_pos (by omega)], fun b => by omega⟩

/-- or of four. -/
theorem begin_four {a : Nat} (h : 0xF0 ≤ a) (h' : a ≤ 0xF4) :
    ∃ low high, begin a = ([], some ⟨3, low, high, a - 0xF0⟩) ∧
      ∀ b : UInt8, low ≤ b.toNat ∧ b.toNat ≤ high ↔
        IsTail b ∧ IsHead4 (64 * (a - 0xF0) + tailBits b) := by
  unfold begin IsTail IsHead4 tailBits
  rw [if_neg (by omega), if_neg (by omega), if_neg (by omega), if_neg (by omega),
    if_neg (by omega)]
  by_cases h₀ : a = 0xF0
  · exact ⟨_, _, by rw [if_pos h₀, h₀], fun b => by omega⟩
  rw [if_neg h₀]
  by_cases h₁ : a = 0xF4
  · exact ⟨_, _, by rw [if_pos h₁, h₁], fun b => by omega⟩
  · exact ⟨_, _, by rw [if_neg h₁, if_pos (by omega)], fun b => by omega⟩

theorem begin_none {a : Nat} (h : 0x80 ≤ a) (h' : ¬(0xC2 ≤ a ∧ a ≤ 0xF4)) :
    begin a = ([none], none) := by
  unfold begin
  rw [if_neg (by omega), if_neg (by omega), if_neg (by omega), if_neg (by omega),
    if_neg (by omega), if_neg (by omega), if_neg (by omega), if_neg (by omega)]

theorem scan_begin {a : UInt8} :
    scan none (a :: s) = (begin a.toNat).1 ++ scan (begin a.toNat).2 s := rfl

/-- A byte in the range completes a character or brings it nearer. -/
theorem scan_pending {a : UInt8} {owed low high bits : Nat} (h : low ≤ a.toNat ∧ a.toNat ≤ high) :
    scan (some ⟨owed, low, high, bits⟩) (a :: s) =
      if owed = 1 then some (Char.ofNat (64 * bits + tailBits a)) :: scan none s
      else scan (some ⟨owed - 1, 0x80, 0xBF, 64 * bits + tailBits a⟩) s :=
  if_pos h

theorem scan_tail {a : UInt8} {owed bits : Nat} (h : IsTail a) :
    scan (some ⟨owed, 0x80, 0xBF, bits⟩) (a :: s) =
      if owed = 1 then some (Char.ofNat (64 * bits + tailBits a)) :: scan none s
      else scan (some ⟨owed - 1, 0x80, 0xBF, 64 * bits + tailBits a⟩) s :=
  scan_pending h

theorem Sequence.scan (h : Sequence l n) (s : List UInt8) :
    scan none (l ++ s) = some (Char.ofNat n) :: scan none s := by
  cases h with
  | one ha => simp [scan_begin, begin_one ha]
  | two ha ha' hb =>
    simp only [List.cons_append, List.nil_append, scan_begin, begin_two ha ha']
    rw [scan_tail hb, if_pos rfl]
  | three ha ha' hb hc hhead =>
    obtain ⟨low, high, hbegin, hrange⟩ := begin_three ha ha'
    simp only [List.cons_append, List.nil_append, scan_begin, hbegin]
    rw [scan_pending ((hrange _).mpr ⟨hb, hhead⟩), if_neg (by simp), scan_tail hc, if_pos rfl]
  | four ha ha' hb hc hd hhead =>
    obtain ⟨low, high, hbegin, hrange⟩ := begin_four ha ha'
    simp only [List.cons_append, List.nil_append, scan_begin, hbegin]
    rw [scan_pending ((hrange _).mpr ⟨hb, hhead⟩), if_neg (by simp), scan_tail hc,
      if_neg (by simp), scan_tail hd, if_pos rfl]

theorem scan_encode (t : List Char) : scan none (encode t) = t.map some := by
  induction t with
  | nil => rfl
  | cons c t ih =>
    have h : encode (c :: t) = encodeChar c ++ encode t := rfl
    rw [h, (sequence_encodeChar c).scan, ih, Char.ofNat_toNat, List.map_cons]

/-- Inside a character, only a byte in the range is read without a fault. -/
theorem next_of_scan (h : scan (some p) s = t.map some) :
    ∃ a s', s = a :: s' ∧ p.low ≤ a.toNat ∧ a.toNat ≤ p.high := by
  match s with
  | [] => cases t <;> simp [scan] at h
  | a :: s' =>
    by_cases hrange : p.low ≤ a.toNat ∧ a.toNat ≤ p.high
    · exact ⟨a, s', rfl, hrange⟩
    · rw [scan, if_neg hrange] at h
      cases t <;> simp at h

/-- What is read without a fault is empty or begins with a sequence of the table. -/
theorem sequence_of_scan (h : scan none s = t.map some) :
    s = [] ∧ t = [] ∨
      ∃ l n s' t', Sequence l n ∧ s = l ++ s' ∧ t = Char.ofNat n :: t' ∧
        scan none s' = t'.map some := by
  match s with
  | [] => exact .inl ⟨rfl, by simpa [scan] using h.symm⟩
  | a :: s =>
    refine .inr ?_
    -- Once a sequence of the table is found at the beginning, what comes after it is read on its own.
    have complete {l s' n} (hl : Sequence l n) (hs : a :: s = l ++ s') :
        ∃ l n s' t', Sequence l n ∧ a :: s = l ++ s' ∧ t = Char.ofNat n :: t' ∧
          scan none s' = t'.map some := by
      rw [hs, hl.scan] at h
      obtain ⟨c, t', rfl, hc, ht'⟩ := List.map_eq_cons_iff.mp h.symm
      exact ⟨l, n, s', t', hl, hs, by rw [Option.some.inj hc], ht'.symm⟩
    rw [scan_begin] at h
    rcases Nat.lt_or_ge a.toNat 0x80 with h₀ | h₀
    · exact complete (.one h₀) rfl
    by_cases h₁ : ¬(0xC2 ≤ a.toNat ∧ a.toNat ≤ 0xF4)
    · rw [begin_none h₀ h₁] at h
      cases t <;> simp at h
    rw [Decidable.not_not] at h₁
    -- The first byte tells how many follow; each of them must be in the range it leaves.
    rcases Nat.lt_or_ge a.toNat 0xE0 with h₂ | h₂
    · rw [begin_two h₁.1 (by omega)] at h
      obtain ⟨b, s, rfl, hb⟩ := next_of_scan h
      exact complete (.two h₁.1 (by omega) hb) rfl
    rcases Nat.lt_or_ge a.toNat 0xF0 with h₃ | h₃
    · obtain ⟨low, high, hbegin, hrange⟩ := begin_three h₂ (by omega)
      rw [hbegin] at h
      obtain ⟨b, s, rfl, hb⟩ := next_of_scan h
      rw [List.nil_append, scan_pending hb, if_neg (by simp)] at h
      obtain ⟨c, s, rfl, hc⟩ := next_of_scan h
      obtain ⟨hb, hhead⟩ := (hrange b).mp hb
      exact complete (.three h₂ (by omega) hb hc hhead) rfl
    · obtain ⟨low, high, hbegin, hrange⟩ := begin_four h₃ h₁.2
      rw [hbegin] at h
      obtain ⟨b, s, rfl, hb⟩ := next_of_scan h
      rw [List.nil_append, scan_pending hb, if_neg (by simp)] at h
      obtain ⟨c, s, rfl, hc⟩ := next_of_scan h
      rw [scan_pending hc, if_neg (by simp)] at h
      obtain ⟨d, s, rfl, hd⟩ := next_of_scan h
      obtain ⟨hb, hhead⟩ := (hrange b).mp hb
      exact complete (.four h₃ h₁.2 hb hc hd hhead) rfl

/-- Bytes are read as a text if they are read as its characters, without a fault. -/
theorem decode?_eq_some_iff_scan : decode? s = some t ↔ scan none s = t.map some := by
  unfold decode?
  generalize scan none s = cs
  induction cs generalizing t with
  | nil => cases t <;> simp
  | cons c cs ih =>
    rw [List.foldr_cons]
    cases c with
    | none => cases t <;> simp
    | some c =>
      simp only [bind, pure, Option.bind_some, Option.bind_eq_some_iff, Option.some.injEq] at ih ⊢
      simp only [ih]
      constructor
      · rintro ⟨t', rfl, rfl⟩
        rfl
      · intro h
        obtain ⟨d, t', rfl, hd, ht'⟩ := List.map_eq_cons_iff.mp h.symm
        exact ⟨t', ht'.symm, by rw [Option.some.inj hd]⟩

theorem eq_encode_of_scan (h : scan none s = t.map some) : s = encode t := by
  induction t generalizing s with
  | nil =>
    rcases sequence_of_scan h with ⟨rfl, -⟩ | ⟨l, n, s', t', -, -, ht, -⟩
    · rfl
    · cases ht
  | cons c t ih =>
    rcases sequence_of_scan h with ⟨-, ht⟩ | ⟨l, n, s', t', hl, rfl, ht, hs'⟩
    · cases ht
    · cases ht
      rw [ih hs']
      have hencode : encode (Char.ofNat n :: t) = encodeChar (Char.ofNat n) ++ encode t := rfl
      rw [hencode, hl.encodeChar]

/-- **The bytes of a text**: bytes are read as a text if and only if they are what is written for it. -/
theorem decode?_eq_some_iff : decode? s = some t ↔ s = encode t := by
  rw [decode?_eq_some_iff_scan]
  exact ⟨eq_encode_of_scan, fun h => h ▸ scan_encode t⟩

end Rollout.Utf8

theorem String.ofUtf8?_utf8 (s : String) : String.ofUtf8? s.utf8 = some s := by
  unfold String.ofUtf8? String.utf8
  rw [Rollout.Utf8.decode?_eq_some_iff.mpr rfl, Option.map_some, String.ofList_toList]
