/-!
# Decimal digits

The characters of the Unicode category Nd come in runs of ten, from a zero to a nine; `zeros` lists
where the runs start. Only the ASCII run denotes numbers here, but a placeholder may be written in
any of them.

* `isDigit_of_ascii`: the ASCII digits are among them.
* `natOfDigits` reads ASCII digits in base ten.
-/

namespace Rollout.Text

/-- The code points of the zeros of all decimal digit runs. -/
def zeros : List Nat :=
  [0x30, 0x660, 0x6F0, 0x7C0, 0x966, 0x9E6, 0xA66, 0xAE6, 0xB66, 0xBE6, 0xC66, 0xCE6,
    0xD66, 0xDE6, 0xE50, 0xED0, 0xF20, 0x1040, 0x1090, 0x17E0, 0x1810, 0x1946, 0x19D0,
    0x1A80, 0x1A90, 0x1B50, 0x1BB0, 0x1C40, 0x1C50, 0xA620, 0xA8D0, 0xA900, 0xA9D0, 0xA9F0,
    0xAA50, 0xABF0, 0xFF10, 0x104A0, 0x10D30, 0x10D40, 0x11066, 0x110F0, 0x11136, 0x111D0,
    0x112F0, 0x11450, 0x114D0, 0x11650, 0x116C0, 0x116D0, 0x116DA, 0x11730, 0x118E0,
    0x11950, 0x11BF0, 0x11C50, 0x11D50, 0x11DA0, 0x11F50, 0x16130, 0x16A60, 0x16AC0,
    0x16B50, 0x16D70, 0x1CCF0, 0x1D7CE, 0x1D7D8, 0x1D7E2, 0x1D7EC, 0x1D7F6, 0x1E140,
    0x1E2F0, 0x1E4F0, 0x1E5F1, 0x1E950, 0x1FBF0]

/-- The value of a decimal digit of any script. -/
def digitValue? (c : Char) : Option Nat :=
  (zeros.find? fun z => z ≤ c.toNat && c.toNat < z + 10).map fun z => c.toNat - z

/-- A decimal digit of any script. -/
def isDigit (c : Char) : Bool := zeros.any fun z => z ≤ c.toNat && c.toNat < z + 10

/-- A digit of ASCII text. -/
def isAsciiDigit (c : Char) : Bool := '0'.toNat ≤ c.toNat && c.toNat ≤ '9'.toNat

theorem isDigit_of_ascii {c : Char} (h : isAsciiDigit c = true) : isDigit c = true := by
  simp only [isAsciiDigit, Bool.and_eq_true, decide_eq_true_eq] at h
  have h0 : '0'.toNat = 48 := rfl
  have h9 : '9'.toNat = 57 := rfl
  simp only [isDigit, zeros, List.any_cons, Bool.or_eq_true, Bool.and_eq_true, decide_eq_true_eq]
  exact Or.inl ⟨by omega, by omega⟩

/-- The number written by ASCII digits, most significant first, after `n` has been read. -/
def natOfDigitsFrom (n : Nat) : List Char → Nat
  | [] => n
  | c :: s => natOfDigitsFrom (10 * n + (c.toNat - '0'.toNat)) s

/-- The number written by ASCII digits, most significant first. -/
def natOfDigits (s : List Char) : Nat := natOfDigitsFrom 0 s

/-- The number denoted by a non-empty list of ASCII digits; no other text denotes one. -/
def nat? (s : List Char) : Option Nat :=
  if s ≠ [] ∧ s.all isAsciiDigit then some (natOfDigits s) else none

end Rollout.Text
