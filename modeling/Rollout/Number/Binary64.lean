/-!
# Binary floating point, 64 bits

The non-negative finite numbers of the format, as `mantissa * 2 ^ exponent`, with every operation
rounded once to the nearest number, a tie to the even mantissa. All of it is exact arithmetic on
natural numbers.

* `ofRatio?` rounds a quotient; sums, products and quotients of numbers are rounded through it.
* `shortest` finds the fewest decimal digits that round back to the number, and of those the nearest.
* `fixed` writes a number with a given count of decimals, a tie going to the even digit.
-/

namespace Rollout

/-- A non-negative finite number of the format: `mantissa * 2 ^ exponent`. -/
structure Binary64 where
  mantissa : Nat
  exponent : Int
  deriving Repr, DecidableEq

namespace Binary64

def zero : Binary64 := ⟨0, -1074⟩

/-- The quotient rounded to the nearest natural number, a tie to the even one. -/
def roundDiv (num den : Nat) : Nat :=
  let q := num / den
  let r := num % den
  if 2 * r < den then q
  else if 2 * r > den then q + 1
  else if q % 2 = 0 then q else q + 1

/-- `num / den * 2 ^ shift`, as a quotient of natural numbers. -/
def scaled (num den : Nat) (shift : Int) : Nat × Nat :=
  if 0 ≤ shift then (num * Nat.pow 2 shift.toNat, den)
  else (num, den * Nat.pow 2 (-shift).toNat)

/-- The mantissas of most numbers lie between this one and its double. -/
def mantissaTop : Nat := 0x10000000000000

/-- The number nearest to a quotient; `none` beyond the largest. -/
def ofRatio? (num den : Nat) : Option Binary64 :=
  if num = 0 then some zero
  else
    let magnitude : Int := (Nat.log2 num : Int) - (Nat.log2 den : Int)
    let low : Int := max (magnitude - 53) (-1074)
    let (a, b) := scaled num den (-low)
    let exponent := if a / b ≥ 2 * mantissaTop then low + 1 else low
    let (a, b) := scaled num den (-exponent)
    let mantissa := roundDiv a b
    let x : Binary64 :=
      if mantissa = 2 * mantissaTop then ⟨mantissaTop, exponent + 1⟩ else ⟨mantissa, exponent⟩
    if x.exponent > 971 then none else some x

/-- The quotient of natural numbers that a number is. -/
def ratio (x : Binary64) : Nat × Nat := scaled x.mantissa 1 x.exponent

def ofNat? (n : Nat) : Option Binary64 := ofRatio? n 1

def add? (x y : Binary64) : Option Binary64 :=
  let (a, b) := x.ratio
  let (c, d) := y.ratio
  ofRatio? (a * d + c * b) (b * d)

def mul? (x y : Binary64) : Option Binary64 :=
  let (a, b) := x.ratio
  let (c, d) := y.ratio
  ofRatio? (a * c) (b * d)

/-- The quotient by a number that is not zero. -/
def div? (x y : Binary64) : Option Binary64 :=
  let (a, b) := x.ratio
  let (c, d) := y.ratio
  ofRatio? (a * d) (b * c)

/-- Whether the first number is less than the second. -/
def lt (x y : Binary64) : Bool :=
  let (a, b) := x.ratio
  let (c, d) := y.ratio
  a * d < c * b

/-- `significand * 10 ^ power`, scaled in steps of at most `10 ^ 308`, each of them rounded; `none` is
an overflow. A downward scaling that reaches zero stays there. -/
def ofDecimal? (significand : Nat) (power : Int) : Option Binary64 := do
  let x ← ofNat? significand
  scale 4 x power
where
  scale (steps : Nat) (x : Binary64) (power : Int) : Option Binary64 :=
    if power.natAbs ≤ 308 then do
      let p ← ofNat? (Nat.pow 10 power.natAbs)
      if 0 ≤ power then x.mul? p else x.div? p
    else if x.mantissa = 0 then some x
    else if 0 ≤ power then none
    else match steps with
      | 0 => some zero
      | steps + 1 => do
        let p ← ofNat? (Nat.pow 10 308)
        scale steps (← x.div? p) (power + 308)

/-- The decimal digits of a positive quotient start at this power of ten. -/
def decimalExponent (num den : Nat) : Int :=
  let digits (n : Nat) : Int := (Nat.toDigits 10 n).length
  let guess := digits num - digits den
  if 0 ≤ guess then
    if num ≥ den * Nat.pow 10 guess.toNat then guess else guess - 1
  else if num * Nat.pow 10 (-guess).toNat ≥ den then guess else guess - 1

/-- The numbers that round to `x`: from `low / den` to `high / den`, the ends included if `x` is even. -/
def interval (x : Binary64) : Nat × Nat × Nat × Nat :=
  let down := if x.mantissa = mantissaTop ∧ x.exponent > -1074 then 1 else 2
  let (num, den) := scaled (4 * x.mantissa) 4 x.exponent
  let (unit, _) := scaled 1 4 x.exponent
  (num - down * unit, num, num + 2 * unit, den)

/-- The fewest decimal digits that round back to a positive number, as `digits * 10 ^ power`. -/
def shortest (x : Binary64) : Nat × Int :=
  let (low, num, high, den) := x.interval
  let top := decimalExponent num den
  let even := x.mantissa % 2 = 0
  let candidate (count : Nat) : Option (Nat × Int) :=
    let power : Int := top + 1 - count
    -- the number in units of ten to the power
    let up (n : Nat) : Nat := if 0 ≤ power then n else n * Nat.pow 10 (-power).toNat
    let unit : Nat := if 0 ≤ power then den * Nat.pow 10 power.toNat else den
    let inside (d : Nat) : Bool :=
      if even then up low ≤ d * unit && d * unit ≤ up high
      else up low < d * unit && d * unit < up high
    let below := up num / unit
    let above := below + 1
    let nearest := roundDiv (up num) unit
    if inside nearest then some (nearest, power)
    else if inside below then some (below, power)
    else if inside above then some (above, power)
    else none
  let (digits, power) := ((List.range 17).findSome? fun k => candidate (k + 1)).getD (0, 0)
  trimZeros 20 digits power
where
  trimZeros : Nat → Nat → Int → Nat × Int
    | 0, digits, power => (digits, power)
    | fuel + 1, digits, power =>
      if digits ≠ 0 ∧ digits % 10 = 0 then trimZeros fuel (digits / 10) (power + 1)
      else (digits, power)

/-- How decimals are written: the powers of ten that are still written positionally. -/
structure Layout where
  lowest : Int
  highest : Int

/-- Digits `0` to the given length. -/
def zeros (n : Nat) : String := String.ofList (List.replicate n '0')

/-- The shortest decimal of a number: a point with a digit on either side, or one digit before the
point and a signed exponent. -/
def display (n : Layout) (negative : Bool) (x : Binary64) : String :=
  let sign := if negative then "-" else ""
  if x.mantissa = 0 then sign ++ "0.0"
  else
    let (digits, power) := x.shortest
    let text := toString digits
    let top : Int := power + text.length - 1
    sign ++
      if n.lowest ≤ top ∧ top ≤ n.highest then
        if 0 ≤ power then text ++ zeros power.toNat ++ ".0"
        else if 0 ≤ top then
          String.ofList (text.toList.take (top.toNat + 1)) ++ "." ++
            String.ofList (text.toList.drop (top.toNat + 1))
        else "0." ++ zeros (-top - 1).toNat ++ text
      else
        let tail := text.toList.drop 1
        String.ofList (text.toList.take 1) ++
          (if tail = [] then "" else "." ++ String.ofList tail) ++
          "e" ++ (if 0 ≤ top then "+" else "-") ++ toString top.natAbs

/-- A number with `places` decimals, at least one, a tie going to the even last digit. -/
def fixed (places : Nat) (x : Binary64) : String :=
  let (a, b) := x.ratio
  let units := roundDiv (a * Nat.pow 10 places) b
  let decimals := toString (units % Nat.pow 10 places)
  toString (units / Nat.pow 10 places) ++ "." ++ zeros (places - decimals.length) ++ decimals

end Binary64

end Rollout
