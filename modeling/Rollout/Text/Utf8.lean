/-!
# UTF-8

Texts as bytes and back. The decoder is a machine that reads one byte at a time: between characters,
or inside one, where it knows how many bytes are still owed and the range the next may lie in.

* `encode` writes a text; `decode?` reads bytes that are UTF-8 throughout.
* `decodeLossy` reads any bytes: each longest run that begins a character without completing it, and
  each byte that begins none, is replaced by one U+FFFD.
-/

namespace Rollout.Utf8

/-- The bytes of one character. -/
def encodeChar (c : Char) : List UInt8 :=
  let n := c.toNat
  if n < 0x80 then [.ofNat n]
  else if n < 0x800 then [.ofNat (0xC0 + n / 64), .ofNat (0x80 + n % 64)]
  else if n < 0x10000 then
    [.ofNat (0xE0 + n / 4096), .ofNat (0x80 + n / 64 % 64), .ofNat (0x80 + n % 64)]
  else
    [.ofNat (0xF0 + n / 262144), .ofNat (0x80 + n / 4096 % 64), .ofNat (0x80 + n / 64 % 64),
      .ofNat (0x80 + n % 64)]

/-- The bytes of a text. -/
def encode (s : List Char) : List UInt8 := s.flatMap encodeChar

/-- How many bytes a character takes. -/
def width (c : Char) : Nat := (encodeChar c).length

/-- A character under way: the bytes still owed, the range of the next one, and the bits so far. -/
structure Pending where
  owed : Nat
  low : Nat
  high : Nat
  bits : Nat

/-- What a byte between characters does: it is a character, begins one, or is no part of any. -/
def begin (a : Nat) : List (Option Char) × Option Pending :=
  if a < 0x80 then ([some (Char.ofNat a)], none)
  else if 0xC2 ≤ a ∧ a ≤ 0xDF then ([], some ⟨1, 0x80, 0xBF, a - 0xC0⟩)
  else if a = 0xE0 then ([], some ⟨2, 0xA0, 0xBF, 0⟩)
  else if a = 0xED then ([], some ⟨2, 0x80, 0x9F, 0xD⟩)
  else if 0xE1 ≤ a ∧ a ≤ 0xEF then ([], some ⟨2, 0x80, 0xBF, a - 0xE0⟩)
  else if a = 0xF0 then ([], some ⟨3, 0x90, 0xBF, 0⟩)
  else if a = 0xF4 then ([], some ⟨3, 0x80, 0x8F, 4⟩)
  else if 0xF1 ≤ a ∧ a ≤ 0xF3 then ([], some ⟨3, 0x80, 0xBF, a - 0xF0⟩)
  else ([none], none)

/-- The characters read from bytes, with `none` for every run that is not one. -/
def scan : Option Pending → List UInt8 → List (Option Char)
  | none, [] => []
  | some _, [] => [none]
  | none, a :: s =>
    let (out, state) := begin a.toNat
    out ++ scan state s
  | some p, a :: s =>
    if p.low ≤ a.toNat ∧ a.toNat ≤ p.high then
      let bits := 64 * p.bits + (a.toNat - 0x80)
      if p.owed = 1 then some (Char.ofNat bits) :: scan none s
      else scan (some ⟨p.owed - 1, 0x80, 0xBF, bits⟩) s
    else
      let (out, state) := begin a.toNat
      none :: out ++ scan state s

/-- The text of bytes that are UTF-8 throughout. -/
def decode? (s : List UInt8) : Option (List Char) :=
  (scan none s).foldr (fun c t => do return (← c) :: (← t)) (some [])

/-- The text of any bytes, with U+FFFD for every run that is not a character. -/
def decodeLossy (s : List UInt8) : List Char := (scan none s).map (·.getD '\uFFFD')

end Rollout.Utf8

namespace String

/-- The bytes of a string. -/
def utf8 (s : String) : List UInt8 := Rollout.Utf8.encode s.toList

/-- The string that bytes are the UTF-8 of. -/
def ofUtf8? (s : List UInt8) : Option String := (Rollout.Utf8.decode? s).map String.ofList

/-- The string of any bytes, with U+FFFD for what is not UTF-8. -/
def ofUtf8Lossy (s : List UInt8) : String := String.ofList (Rollout.Utf8.decodeLossy s)

end String
