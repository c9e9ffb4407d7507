import Rollout.Json.Cursor
import Rollout.Number.Word

/-!
# Numbers in a JSON text

A number that is wanted is read into 64 bits: digits are taken while the significand fits, further
ones only count as powers of ten. A number that is passed over only has to be well formed.
-/

namespace Rollout.Json

/-- The largest exponent that is told from infinity. -/
def maxExponent : Nat := 0x7fffffff

/-- Digits taken into a significand while it fits 64 bits: the significand, how many digits it took
and how many were left over. -/
def takeSignificand (n taken : Nat) : List Char → Nat × Nat × Nat
  | [] => (n, taken, 0)
  | a :: s =>
    let m := 10 * n + (a.toNat - '0'.toNat)
    if m > Word.greatest64 then (n, taken, s.length + 1) else takeSignificand m (taken + 1) s

namespace Cursor

/-- The fraction of a significand and a power of ten. -/
def scaleTo (c : Cursor) (negative : Bool) (significand : Nat) (power : Int) :
    Except Failure (Number × Cursor) :=
  match Binary64.ofDecimal? significand power with
  | some x => .ok (.fraction negative x, c)
  | none => .error (c.fail .numberOutOfRange)

/-- The sign an exponent may have: whether it is positive, and the cursor past it. -/
def exponentSign (c : Cursor) : Bool × Cursor :=
  match c.peek with
  | some '+' => (true, c.advance)
  | some '-' => (false, c.advance)
  | _ => (true, c)

/-- Exponent digits up to the first one that is beyond the largest exponent: `none` and the number of
digits read, if there is one. -/
def exponentDigits (n read : Nat) : List Char → Option Nat × Nat
  | [] => (some n, read)
  | a :: s =>
    let m := 10 * n + (a.toNat - '0'.toNat)
    if m > maxExponent then (none, read + 1) else exponentDigits m (read + 1) s

/-- From the letter of an exponent. -/
def exponent (c : Cursor) (negative : Bool) (significand : Nat) (power : Int) :
    Except Failure (Number × Cursor) :=
  let (positive, c) := c.advance.exponentSign
  match c.peek with
  | none => .error (c.fail .eofInValue)
  | some a =>
    if !a.isDigit then .error (c.failAtNext .invalidNumber)
    else
      let (ds, past) := c.takeDigits
      match exponentDigits 0 0 ds with
      | (some n, _) => past.scaleTo negative significand (if positive then power + n else power - n)
      | (none, read) =>
        if significand ≠ 0 ∧ positive then
          .error ⟨.numberOutOfRange, c.line, c.column + read⟩
        else .ok (.fraction negative Binary64.zero, past)

/-- What may follow the digits of a fraction. -/
def exponentOrEnd (c : Cursor) (negative : Bool) (significand : Nat) (power : Int) :
    Except Failure (Number × Cursor) :=
  match c.peek with
  | some 'e' | some 'E' => c.exponent negative significand power
  | _ => c.scaleTo negative significand power

/-- From the point of a fraction. -/
def decimals (c : Cursor) (negative : Bool) (significand : Nat) (power : Int) :
    Except Failure (Number × Cursor) :=
  let c := c.advance
  let (ds, past) := c.takeDigits
  match ds, past.peek with
  | [], none => .error (past.failAtNext .eofInValue)
  | [], some _ => .error (past.failAtNext .invalidNumber)
  | _, _ =>
    let (significand, taken, _) := takeSignificand significand 0 ds
    past.exponentOrEnd negative significand (power - taken)

/-- The number of a whole significand. -/
def wholeNumber (negative : Bool) (n : Nat) : Option Number :=
  if !negative then some (.unsigned n)
  else if n ≠ 0 ∧ n ≤ Word.count63 then some (.signed (-(n : Int)))
  else (Binary64.ofNat? n).map (.fraction true)

/-- What may follow the digits before the point, of which `left` did not fit. -/
def afterWhole (c : Cursor) (negative : Bool) (significand left : Nat) :
    Except Failure (Number × Cursor) :=
  match c.peek with
  | some '.' => c.decimals negative significand left
  | some 'e' | some 'E' => c.exponent negative significand left
  | _ =>
    if left > 0 then c.scaleTo negative significand left
    else match wholeNumber negative significand with
      | some n => .ok (n, c)
      | none => .error (c.fail .numberOutOfRange)

/-- A number, from after its sign. -/
def number (negative : Bool) (c : Cursor) : Except Failure (Number × Cursor) :=
  match c.peek with
  | none => .error (c.fail .eofInValue)
  | some a =>
    if a = '0' then
      let c := c.advance
      if c.peek.any Char.isDigit then .error (c.failAtNext .invalidNumber)
      else c.afterWhole negative 0 0
    else if a.isDigit then
      let (ds, past) := c.takeDigits
      let (significand, _, left) := takeSignificand 0 0 ds
      past.afterWhole negative significand left
    else .error (c.failAtNext .invalidNumber)

/-- Past an exponent, from its letter. -/
def skipExponent (c : Cursor) : Except Failure Cursor :=
  let (_, c) := c.advance.exponentSign
  if c.peek.any Char.isDigit then .ok c.takeDigits.2 else .error (c.failAtNext .invalidNumber)

/-- Past what may follow the digits of a number that does not matter. -/
def skipExponentOrEnd (c : Cursor) : Except Failure Cursor :=
  match c.peek with
  | some 'e' | some 'E' => c.skipExponent
  | _ => .ok c

/-- Past a number that does not matter, from after its sign. -/
def skipNumber (c : Cursor) : Except Failure Cursor :=
  match c.peek with
  | none => .error (c.fail .invalidNumber)
  | some a =>
    if !a.isDigit then .error (c.failAtNext .invalidNumber)
    else
      let past := if a = '0' then c.advance else c.takeDigits.2
      if a = '0' ∧ past.peek.any Char.isDigit then .error (past.failAtNext .invalidNumber)
      else match past.peek with
        | some '.' =>
          let (ds, past) := past.advance.takeDigits
          if ds = [] then .error (past.failAtNext .invalidNumber) else past.skipExponentOrEnd
        | _ => past.skipExponentOrEnd

end Cursor

end Rollout.Json
