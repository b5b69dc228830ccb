/-
  Binary64 numbers and their shortest decimals

  A double is kept as its 64-bit pattern and computed with by exact integer
  arithmetic: every operation is the rounding of its exact result, and the
  decimal written for a double is the shortest one that reads back as it.

  What is stated here:
    1. `magnitude` — a finite value is `mantissa * 2 ^ exponent`, with the
       hidden bit present exactly for normal numbers.
    2. `roundRatio` — the nearest double to `num / den`, or `none` when the
       ratio lies beyond the largest finite double.
    3. `shortestDigits` — the digits `D` and the power `p` with the double
       reading back from `D * 10 ^ p`, `D` without trailing zeros.
-/

/-! ## Binary64 numbers by their bits

A double-precision number is kept as its 64-bit pattern, so that values can
be compared, stored and printed by exact integer arithmetic. The rounding of
an exact ratio to the nearest double (ties to the even mantissa) is the one
operation from which reading a decimal, converting an integer, multiplying
and dividing are all built: each of these is correctly rounded, so each is
the rounding of its exact result.
-/

namespace ContentPublish

/-- A double-precision number, held as its bit pattern. -/
structure Binary64 where
  bits : UInt64
  deriving DecidableEq, Repr, Inhabited

namespace Binary64

/-- The sign bit is set. -/
def negative (x : Binary64) : Bool := x.bits >>> 63 == 1

/-- The biased exponent field, from 0 to 2047. -/
def exponentField (x : Binary64) : Nat := ((x.bits >>> 52) &&& 0x7FF).toNat

/-- The 52 stored bits of the mantissa. -/
def fraction (x : Binary64) : Nat := (x.bits &&& 0xFFFFFFFFFFFFF).toNat

/-- Neither infinite nor a NaN. -/
def isFinite (x : Binary64) : Bool := x.exponentField != 0x7FF

/-- Zero of either sign. -/
def isZero (x : Binary64) : Bool := x.exponentField == 0 && x.fraction == 0

/-- The integer mantissa of a finite value, hidden bit included. -/
def mantissa (x : Binary64) : Nat :=
  if x.exponentField = 0 then x.fraction else x.fraction + Nat.pow 2 52

/-- The power of two that scales the mantissa of a finite value. -/
def exponent (x : Binary64) : Int :=
  if x.exponentField = 0 then -1074 else (x.exponentField : Int) - 1075

/-- Positive zero. -/
def zero : Binary64 := ⟨0⟩

/-- The same magnitude with the other sign. -/
def neg (x : Binary64) : Binary64 := ⟨x.bits ^^^ 0x8000000000000000⟩

/-- The magnitude of a finite value as a ratio of two naturals. -/
def magnitude (x : Binary64) : Nat × Nat :=
  if 0 ≤ x.exponent then (x.mantissa * Nat.pow 2 x.exponent.toNat, 1)
  else (x.mantissa, Nat.pow 2 (-x.exponent).toNat)

/-- The double with mantissa `m` and exponent `e`, for a subnormal mantissa
(`m < 2 ^ 52`, with `e = -1074`) or a normal one (`2 ^ 52 ≤ m < 2 ^ 53`). -/
def ofMantissa (m : Nat) (e : Int) : Binary64 :=
  if m < Nat.pow 2 52 then ⟨UInt64.ofNat m⟩
  else ⟨UInt64.ofNat ((e + 1075).toNat * Nat.pow 2 52 + (m - Nat.pow 2 52))⟩

/-- `num / den ≥ 2 ^ k`, decided on naturals. -/
def ratioAtLeastPow2 (num den : Nat) (k : Int) : Bool :=
  if 0 ≤ k then den * Nat.pow 2 k.toNat ≤ num else den ≤ num * Nat.pow 2 (-k).toNat

/-- `⌊log₂ (num / den)⌋` for a positive ratio. -/
def log2Ratio (num den : Nat) : Int :=
  let k : Int := (Nat.log2 num : Int) - (Nat.log2 den : Int)
  if ratioAtLeastPow2 num den k then k else k - 1

/-- The quotient and remainder of `num / (den * 2 ^ e)` over a common
denominator, which is returned third. -/
def scaledDiv (num den : Nat) (e : Int) : Nat × Nat × Nat :=
  if 0 ≤ e then
    let d := den * Nat.pow 2 e.toNat
    (num / d, num % d, d)
  else
    let n := num * Nat.pow 2 (-e).toNat
    (n / den, n % den, den)

/-- The double nearest to `num / den` (`den > 0`), a tie going to the even
mantissa; `none` when it would be infinite. -/
def roundRatio (num den : Nat) : Option Binary64 :=
  if num = 0 then some zero
  else
    let e := max (log2Ratio num den - 52) (-1074)
    let (q, r, d) := scaledDiv num den e
    let q := if d < 2 * r ∨ (2 * r = d ∧ q % 2 = 1) then q + 1 else q
    let (m, e) := if q = Nat.pow 2 53 then (Nat.pow 2 52, e + 1) else (q, e)
    if 971 < e then none else some (ofMantissa m e)

/-- The double nearest to a natural number below `2 ^ 64`. -/
def ofNat (n : Nat) : Binary64 := (roundRatio n 1).getD zero

/-- The double nearest to `10 ^ k`, for `k ≤ 308`. -/
def pow10 (k : Nat) : Binary64 := (roundRatio (Nat.pow 10 k) 1).getD zero

/-- The rounded product of two finite magnitudes; `none` on overflow. -/
def mulMagnitude (a b : Binary64) : Option Binary64 :=
  let (n₁, d₁) := a.magnitude
  let (n₂, d₂) := b.magnitude
  roundRatio (n₁ * n₂) (d₁ * d₂)

/-- The rounded quotient of two finite magnitudes, the divisor non-zero. -/
def divMagnitude (a b : Binary64) : Binary64 :=
  let (n₁, d₁) := a.magnitude
  let (n₂, d₂) := b.magnitude
  (roundRatio (n₁ * d₂) (d₁ * n₂)).getD zero

end Binary64

end ContentPublish

/-! ## The shortest decimal that reads back as a given double

A positive finite double stands for every real that rounds to it: the
interval reaching half way to each neighbour, its ends included exactly when
the mantissa is even. The decimal written for it has the fewest significant
digits of any decimal in that interval, and of those the one nearest the
double, a tie going to the even last digit.

The search tries one digit, then two, and so on. For a given number of
digits only the two grid points around the double can be nearest, so it
tests those two in exact integer arithmetic; seventeen digits always hit.
-/

namespace ContentPublish

/-- The number of decimal digits of a natural number, one for zero. -/
def decimalLength (n : Nat) : Nat := (Nat.toDigits 10 n).length

namespace Binary64

/-- `a * 10 ^ s` compared with `b * 2 ^ t`, by cross-multiplying. -/
def compareScaled (a : Nat) (s : Int) (b : Nat) (t : Int) : Ordering :=
  let lhs := a * Nat.pow 10 s.toNat * Nat.pow 2 (-t).toNat
  let rhs := b * Nat.pow 2 t.toNat * Nat.pow 10 (-s).toNat
  compare lhs rhs

/-- The power of ten of the leading digit of `m * 2 ^ e`, for `m > 0`. -/
def leadingPower (m : Nat) (e : Int) : Int :=
  if 0 ≤ e then (decimalLength (m * Nat.pow 2 e.toNat) : Int) - 1
  else
    let den := Nat.pow 2 (-e).toNat
    if den ≤ m then (decimalLength (m / den) : Int) - 1
    else
      -- the smallest `j` with `m * 10 ^ j ≥ den`
      let c := (den + m - 1) / m
      (0 : Int) - decimalLength (c - 1)

/-- The rounding interval of a positive finite double, scaled by `2 ^ (e - 2)`:
its value, lower end and upper end as multiples of that power. -/
structure Interval where
  value : Nat
  low : Nat
  high : Nat
  scale : Int
  closed : Bool

/-- The interval of reals that round to the positive finite `x`. -/
def interval (x : Binary64) : Interval :=
  let m := x.mantissa
  let lowGap := if x.fraction = 0 ∧ 1 < x.exponentField then 1 else 2
  { value := 4 * m, low := 4 * m - lowGap, high := 4 * m + 2,
    scale := x.exponent - 2, closed := m % 2 == 0 }

/-- `D * 10 ^ s` lies in the interval. -/
def Interval.contains (i : Interval) (d : Nat) (s : Int) : Bool :=
  let above := compareScaled d s i.low i.scale
  let below := compareScaled d s i.high i.scale
  if i.closed then above != .lt && below != .gt
  else above == .gt && below == .lt

/-- The grid point on `10 ^ s` nearest to the double among those in its
interval, if one of the two around it is in. -/
def nearestOnGrid (x : Binary64) (i : Interval) (s : Int) : Option Nat :=
  let num := x.mantissa * Nat.pow 2 x.exponent.toNat * Nat.pow 10 (-s).toNat
  let den := Nat.pow 2 (-x.exponent).toNat * Nat.pow 10 s.toNat
  let d := num / den
  let r := num % den
  let downIn := i.contains d s
  let upIn := r != 0 && i.contains (d + 1) s
  if downIn && upIn then
    if 2 * r < den then some d
    else if den < 2 * r then some (d + 1)
    else if d % 2 == 0 then some d else some (d + 1)
  else if downIn then some d
  else if upIn then some (d + 1)
  else none

/-- Drop the trailing zeros of `D * 10 ^ p`, moving them into the power. -/
def stripZeros : Nat → Nat → Int → Nat × Int
  | 0, d, p => (d, p)
  | fuel + 1, d, p =>
    if d != 0 && d % 10 == 0 then stripZeros fuel (d / 10) (p + 1) else (d, p)

/-- Try `n`, `n + 1`, … up to seventeen significant digits. -/
def searchDigits (x : Binary64) (i : Interval) (k : Int) : Nat → Nat → Nat × Int
  | 0, _ => (x.mantissa, x.exponent)
  | fuel + 1, n =>
    let s := k - (n : Int) + 1
    match nearestOnGrid x i s with
    | some d => stripZeros (decimalLength d) d s
    | none => if 17 ≤ n then (x.mantissa, x.exponent) else searchDigits x i k fuel (n + 1)

/-- The shortest digits `D` and power `p` with `D * 10 ^ p` reading back as the
positive finite double `x`, `D` holding no trailing zero. -/
def shortestDigits (x : Binary64) : Nat × Int :=
  searchDigits x (interval x) (leadingPower x.mantissa x.exponent) 17 1

end Binary64

end ContentPublish
