/-!
# Floating point numbers

Floating point numbers through the integers that they stand for: a finite number is a mantissa times
a power of two, exactly. Rounding a quotient to the nearest number, comparing with an integer and
taking remainders are done on these integers, so that no result depends on more than one rounding.
-/

namespace Hashmark.Number

/-- Two to a power; one if the exponent is below zero. -/
def twoTo (exponent : Int) : Nat :=
  Nat.pow 2 exponent.toNat

/-- A finite number of double precision: its sign, and its size as `mantissa * 2 ^ exponent`. -/
structure Binary where
  /-- Whether the sign is minus. -/
  negative : Bool
  /-- A number below 2^53. -/
  mantissa : Nat
  /-- At least -1074. -/
  exponent : Int
  deriving DecidableEq, Repr

/-- The integers of a finite number, nothing for an infinite one or none at all. -/
def Binary.ofFloat? (x : Float) : Option Binary :=
  let bits := x.toBits.toNat
  let negative := bits / Nat.pow 2 63 == 1
  let biased : Nat := bits / Nat.pow 2 52 % Nat.pow 2 11
  let fraction : Nat := bits % Nat.pow 2 52
  if biased = 2047 then none
  else if biased = 0 then some ⟨negative, fraction, -1074⟩
  else some ⟨negative, Nat.pow 2 52 + fraction, (biased : Int) - 1075⟩

/-- The signed numerator and the denominator of a number. -/
def Binary.ratio (b : Binary) : Int × Nat :=
  let size := b.mantissa * twoTo b.exponent
  (if b.negative then -(size : Int) else size, twoTo (-b.exponent))

/-- The infinite number of a sign. -/
def infinite (negative : Bool) : Float :=
  Float.ofBits (if negative then 0xfff0000000000000 else 0x7ff0000000000000)

/-- The number with the size of `x` and the sign that `negative` says. -/
def withSign (negative : Bool) (x : Float) : Float :=
  if (x.toBits >>> 63 == 1) == negative then x else -x

/-- Whether the sign of a number is minus, which it may be for zero too. -/
def isNegative (x : Float) : Bool :=
  x.toBits >>> 63 == 1

/-- The quotient `num / den` rounded to an integer, a half to the even neighbour. -/
def roundHalfEven (num den : Nat) : Nat :=
  let q := num / den
  let twice := 2 * (num % den)
  if den < twice || (twice = den && q % 2 = 1) then q + 1 else q

/-- The bits of the number of double precision nearest to `num / den`, a half going to the even
neighbour; nothing if that is beyond the largest one. Both are positive. -/
def nearestBits? (num den : Nat) : Option Nat :=
  let guess := (num.log2 : Int) - den.log2 - 53
  let scaled := fun (e : Int) => (num * twoTo (-e), den * twoTo e)
  let wide := (scaled guess).1 / (scaled guess).2
  let exponent := max (if Nat.pow 2 53 ≤ wide then guess + 1 else guess) (-1074)
  let mantissa := roundHalfEven (scaled exponent).1 (scaled exponent).2
  -- A carry into bit 53 runs over into the exponent field, which is what it should do.
  let bits :=
    if exponent = -1074 then mantissa
    else (exponent + 1075).toNat * Nat.pow 2 52 + mantissa - Nat.pow 2 52
  if bits < 2047 * Nat.pow 2 52 then some bits else none

/-- The number nearest to `num / den`, nothing if that is beyond the largest one. -/
def nearest? (negative : Bool) (num den : Nat) : Option Float :=
  if num = 0 then some (withSign negative 0.0)
  else (nearestBits? num den).map fun bits => withSign negative (Float.ofBits bits.toUInt64)

/-- The number nearest to an integer. -/
def ofInt? (n : Int) : Option Float :=
  nearest? (n < 0) n.natAbs 1

/-- How an integer compares with a number, exactly. -/
def compareInt (n : Int) (x : Float) : Option Ordering :=
  match Binary.ofFloat? x with
  | some b =>
    let (num, den) := b.ratio
    some (compare (n * den) num)
  | none =>
    if x.isNaN then none
    else some (if isNegative x then .gt else .lt)

/-- How two numbers compare; nothing if one is not a number. -/
def compareFloat (x y : Float) : Option Ordering :=
  if x < y then some .lt else if y < x then some .gt else if x == y then some .eq else none

/-- The remainder of finite numbers with the sign of `x`, computed exactly; `y` is not zero. -/
def remainderTowardZero (x y : Float) : Float :=
  match Binary.ofFloat? x, Binary.ofFloat? y with
  | some a, some b =>
    let low := min a.exponent b.exponent
    let m := a.mantissa * twoTo (a.exponent - low) % (b.mantissa * twoTo (b.exponent - low))
    (nearest? a.negative (m * twoTo low) (twoTo (-low))).getD x
  | some _, none => if y.isNaN then y else x
  | none, _ => 0.0 / 0.0

/-- The quotient rounded down, and the remainder with the sign of `y`, which is not zero. -/
def divideDown (x y : Float) : Float × Float :=
  let rest := remainderTowardZero x y
  let quotient := (x - rest) / y
  let (rest, quotient) :=
    if rest != 0.0 then
      if (y < 0.0) != (rest < 0.0) then (rest + y, quotient - 1.0) else (rest, quotient)
    else (withSign (isNegative y) 0.0, quotient)
  let whole :=
    if quotient != 0.0 then
      let down := quotient.floor
      if 0.5 < quotient - down then down + 1.0 else down
    else withSign (isNegative (x / y)) 0.0
  (whole, rest)

/-- Whether a number is an odd integer. -/
def isOddInteger (x : Float) : Bool :=
  match Binary.ofFloat? x with
  | some b => let (num, den) := b.ratio; num % den = 0 && num / den % 2 = 1
  | none => false

/-- Whether a number is an integer, or infinite. -/
def isInteger (x : Float) : Bool :=
  x == x.floor

/-- The square root rounded down, one bit of it at a step; the first argument bounds the steps. -/
def rootSteps : Nat → Nat → Nat
  | 0, _ => 0
  | steps + 1, n =>
    if n = 0 then 0
    else
      let r := 2 * rootSteps steps (n / 4)
      if (r + 1) * (r + 1) ≤ n then r + 1 else r

/-- The square root rounded down. -/
def root (n : Nat) : Nat :=
  rootSteps (n.log2 / 2 + 1) n

/-- The length of the hypotenuse: the square root of `x * x + y * y`, rounded once. -/
def hypotenuse (x y : Float) : Float :=
  match Binary.ofFloat? x, Binary.ofFloat? y with
  | some a, some b =>
    let low := min a.exponent b.exponent
    let m := a.mantissa * twoTo (a.exponent - low)
    let n := b.mantissa * twoTo (b.exponent - low)
    -- The root of a number scaled by 2^128 has enough bits below the last one kept.
    let square := (m * m + n * n) * Nat.pow 2 128
    let down := root square
    let sticky := if down * down = square then 0 else 1
    let exponent := low - 65
    (nearest? false ((2 * down + sticky) * twoTo exponent) (twoTo (-exponent))).getD
      (infinite false)
  | none, _ => if x.isNaN && !y.isInf then x else infinite false
  | _, none => if y.isNaN then y else infinite false

end Hashmark.Number
