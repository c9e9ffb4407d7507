import Mathlib.Data.List.Forall2
import Rollout.Proofs.Written

/-!
# JSON values and their texts

What a JSON text says is a tree of values. A value has many texts: blanks may stand between its parts,
and a character of a string may be written in several ways. A number is known by how it is written, as
`1`, `1.0` and `1e0` are not the same to a reader that wants an integer. Nothing here refers to how texts
are read.

* `Value`, with `Value.induct`: the trees.
* `Spelled`, `Quoted`: the texts of a character in a string, and of a string.
* `Value.Text`, with `Elements` and `Fields` for what is inside of brackets: the texts of a value.
  `Value.exists_text`: there is one.
-/

namespace Rollout.Json

/-! ## Trees -/

/-- Decimal digits, one at least. -/
structure Digits where
  text : List Char
  ne_nil : text ≠ []
  isDigit : ∀ a ∈ text, a.isDigit = true

inductive Sign where
  | plus
  | minus
  deriving DecidableEq

/-- The exponent of a number, with its letter and the sign that may follow it. -/
structure Exponent where
  capital : Bool
  sign : Option Sign
  digits : Digits

/-- A number as it is written. -/
structure Literal where
  negative : Bool := false
  whole : Nat
  decimals : Option Digits := none
  exponent : Option Exponent := none

/-- An integer: without fraction and exponent, and zero without a sign. -/
structure Literal.IsInteger (l : Literal) : Prop where
  decimals : l.decimals = none
  exponent : l.exponent = none
  sign : l.negative = true → l.whole ≠ 0

/-- The value of an integer. -/
def Literal.toInt (l : Literal) : Int := if l.negative then -(l.whole : Int) else l.whole

/-- What a JSON text says. The fields of an object are in order, and a name may be given twice. -/
inductive Value where
  | null
  | bool (b : Bool)
  | number (l : Literal)
  | string (s : String)
  | list (vs : List Value)
  | object (fields : List (String × Value))

/-- What holds of a value if it holds of all that are inside of it, holds of every value. -/
@[induction_eliminator]
theorem Value.induct {P : Value → Prop} (null : P .null) (bool : ∀ b, P (.bool b))
    (number : ∀ l, P (.number l)) (string : ∀ s, P (.string s))
    (list : ∀ vs, (∀ v ∈ vs, P v) → P (.list vs))
    (object : ∀ fields, (∀ f ∈ fields, P f.2) → P (.object fields)) : ∀ v, P v :=
  @Value.rec P (fun vs => ∀ v ∈ vs, P v) (fun fields => ∀ f ∈ fields, P f.2) (fun f => P f.2)
    null bool number string list object (by simp) (fun _ _ hv hvs => List.forall_mem_cons.2 ⟨hv, hvs⟩)
    (by simp) (fun _ _ hf hfs => List.forall_mem_cons.2 ⟨hf, hfs⟩) fun _ _ hv => hv

/-! ## Texts -/

/-- The blanks of JSON. -/
def Blanks (b : List Char) : Prop := ∀ a ∈ b, a = ' ' ∨ a = '\n' ∨ a = '\t' ∨ a = '\r'

def Sign.text : Sign → Char
  | .plus => '+'
  | .minus => '-'

def Exponent.text (e : Exponent) : List Char :=
  (if e.capital then 'E' else 'e') :: ((e.sign.map Sign.text).toList ++ e.digits.text)

/-- What follows the digits before the point of a number. -/
def Literal.tail (l : Literal) : List Char :=
  l.decimals.elim [] (fun d => '.' :: d.text) ++ l.exponent.elim [] Exponent.text

/-- A number without its sign. -/
def Literal.unsigned (l : Literal) : List Char := Nat.toDigits 10 l.whole ++ l.tail

def Literal.text (l : Literal) : List Char :=
  if l.negative then '-' :: l.unsigned else l.unsigned

/-! ### Strings -/

/-- A hexadecimal digit, as a small letter or a capital one. -/
def HexDigit (n : Nat) (a : Char) : Prop :=
  n < 16 ∧ (a = Nat.digitChar n ∨ a = (Nat.digitChar n).toUpper)

/-- Four hexadecimal digits. -/
inductive Hex : Nat → List Char → Prop
  | intro {i j k l a b c d} : HexDigit i a → HexDigit j b → HexDigit k c → HexDigit l d →
      Hex (4096 * i + 256 * j + 16 * k + l) [a, b, c, d]

/-- The letters after a backslash, each with the character that it stands for. -/
def letters : List (Char × Char) :=
  [('\"', '\"'), ('\\', '\\'), ('/', '/'), ('b', '\x08'), ('f', '\x0c'), ('n', '\n'), ('r', '\r'),
    ('t', '\t')]

/-- The texts of a character in a string. A character beyond those of four digits may be given by the two
halves of its number. -/
inductive Spelled : Char → List Char → Prop
  | itself {a} : a ≠ '\"' → a ≠ '\\' → 0x20 ≤ a.toNat → Spelled a [a]
  | letter {l a} : (l, a) ∈ letters → Spelled a ['\\', l]
  | point {n s} : Hex n s → n < 0xD800 ∨ 0xDFFF < n → Spelled (.ofNat n) ('\\' :: 'u' :: s)
  | pair {m n s s'} : m < 0x400 → n < 0x400 → Hex (0xD800 + m) s → Hex (0xDC00 + n) s' →
      Spelled (.ofNat (0x10000 + 0x400 * m + n)) ('\\' :: 'u' :: (s ++ '\\' :: 'u' :: s'))

/-- The texts of a string from after its opening quote. -/
def Quoted (s : List Char) (t : List Char) : Prop :=
  ∃ parts, List.Forall₂ Spelled s parts ∧ t = parts.flatten ++ ['\"']

/-! ### Values -/

/-- What is before a value inside of brackets: blanks, with a comma among them unless it is the first. -/
def Lead (first : Bool) (b : List Char) : Prop :=
  if first then Blanks b else ∃ b₁ b₂, Blanks b₁ ∧ Blanks b₂ ∧ b = b₁ ++ ',' :: b₂

theorem lead_least (first : Bool) : Lead first (if first then [] else [',']) := by
  cases first with
  | true => simp [Lead, Blanks]
  | false => exact ⟨[], [], by simp [Blanks], by simp [Blanks], rfl⟩

mutual

/-- The texts of a value. -/
inductive Value.Text : Value → List Char → Prop
  | null : Value.Text .null ['n', 'u', 'l', 'l']
  | yes : Value.Text (.bool true) ['t', 'r', 'u', 'e']
  | no : Value.Text (.bool false) ['f', 'a', 'l', 's', 'e']
  | number {l} : Value.Text (.number l) l.text
  | string {s t} : Quoted s.toList t → Value.Text (.string s) ('\"' :: t)
  | list {vs t} : Elements true vs t → Value.Text (.list vs) ('[' :: t)
  | object {fields t} : Fields true fields t → Value.Text (.object fields) ('\x7b' :: t)

/-- The texts of the elements of a list, or of those after the first, up to the closing bracket. -/
inductive Elements : Bool → List Value → List Char → Prop
  | nil {first b} : Blanks b → Elements first [] (b ++ [']'])
  | cons {first b v t vs u} : Lead first b → Value.Text v t → Elements false vs u →
      Elements first (v :: vs) (b ++ (t ++ u))

/-- The texts of the fields of an object, likewise. -/
inductive Fields : Bool → List (String × Value) → List Char → Prop
  | nil {first b} : Blanks b → Fields first [] (b ++ ['\x7d'])
  | cons {first b name key b₁ b₂ v t fields u} : Lead first b → Quoted name.toList key →
      Blanks b₁ → Blanks b₂ → Value.Text v t → Fields false fields u →
      Fields first ((name, v) :: fields) (b ++ ('\"' :: (key ++ (b₁ ++ ':' :: (b₂ ++ (t ++ u))))))

end

/-! ### Every value has a text -/

/-- A control character by its number. -/
theorem spelled_control {a : Char} (h : a.toNat < 0x20) : Spelled a
    ['\\', 'u', '0', '0', Nat.digitChar (a.toNat / 16), Nat.digitChar (a.toNat % 16)] := by
  have hdigit {n : Nat} (hn : n < 16) : HexDigit n (Nat.digitChar n) := ⟨hn, .inl rfl⟩
  have hpoint := Spelled.point (.intro (hdigit (n := 0) (by omega)) (hdigit (n := 0) (by omega))
    (hdigit (n := a.toNat / 16) (by omega)) (hdigit (n := a.toNat % 16) (by omega))) (.inl (by omega))
  have hnumber : 4096 * 0 + 256 * 0 + 16 * (a.toNat / 16) + a.toNat % 16 = a.toNat := by omega
  rwa [hnumber, Char.ofNat_toNat] at hpoint

theorem spelled_escaped (a : Char) : Spelled a (escaped a) := by
  unfold escaped
  split_ifs with h₁ h₂ h₃ h₄ h₅ h₆ h₇ h₈
  · exact .letter (by simp [letters, h₁])
  · exact .letter (by simp [letters, h₂])
  · exact .letter (by simp [letters, h₃])
  · exact .letter (by simp [letters, h₄])
  · exact .letter (by simp [letters, h₅])
  · exact .letter (by simp [letters, h₆])
  · exact .letter (by simp [letters, h₇])
  · exact spelled_control h₈
  · exact .itself h₁ h₂ (by omega)

theorem quoted_escaped (s : List Char) : Quoted s (s.flatMap escaped ++ ['\"']) :=
  ⟨s.map escaped, List.forall₂_map_right_iff.2 (List.forall₂_same.2 fun a _ => spelled_escaped a),
    by rw [List.flatMap_def]⟩

theorem exists_elements {vs : List Value} (h : ∀ v ∈ vs, ∃ t, v.Text t) (first : Bool) :
    ∃ t, Elements first vs t := by
  induction vs generalizing first with
  | nil => exact ⟨_, .nil (b := []) (by simp [Blanks])⟩
  | cons v vs ih =>
    obtain ⟨t, ht⟩ := h v (by simp)
    obtain ⟨u, hu⟩ := ih (fun w hw => h w (by simp [hw])) false
    exact ⟨_, .cons (lead_least first) ht hu⟩

theorem exists_fields {fields : List (String × Value)} (h : ∀ f ∈ fields, ∃ t, f.2.Text t)
    (first : Bool) : ∃ t, Fields first fields t := by
  induction fields generalizing first with
  | nil => exact ⟨_, .nil (b := []) (by simp [Blanks])⟩
  | cons f fields ih =>
    obtain ⟨t, ht⟩ := h f (by simp)
    obtain ⟨u, hu⟩ := ih (fun g hg => h g (by simp [hg])) false
    have hblanks : Blanks [] := by simp [Blanks]
    exact ⟨_, .cons (lead_least first) (quoted_escaped _) hblanks hblanks ht hu⟩

/-- **Every value has a text.** -/
theorem Value.exists_text (v : Value) : ∃ t, v.Text t := by
  induction v with
  | null => exact ⟨_, .null⟩
  | bool b =>
    cases b with
    | true => exact ⟨_, .yes⟩
    | false => exact ⟨_, .no⟩
  | number l => exact ⟨_, .number⟩
  | string s => exact ⟨_, .string (quoted_escaped s.toList)⟩
  | list vs ih => exact (exists_elements ih true).elim fun t ht => ⟨_, .list ht⟩
  | object fields ih => exact (exists_fields ih true).elim fun t ht => ⟨_, .object ht⟩

end Rollout.Json
