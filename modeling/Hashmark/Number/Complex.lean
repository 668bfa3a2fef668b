import Hashmark.Number.Floating

/-!
# Complex numbers

Complex numbers in floating point, with the operations in a fixed order of rounding: the product
term by term, the quotient by the ratio of the divisor's parts, and the power by repeated squaring
for small integers and through the polar form otherwise.
-/

namespace Hashmark.Number

/-- A complex number. -/
structure Complex where
  /-- The real part. -/
  re : Float
  /-- The imaginary part. -/
  im : Float
  deriving Inhabited

/-- Why an operation on numbers has no result. -/
inductive Undefined where
  /-- A division by zero, zero to a negative power, or a power at an infinite angle. -/
  | zeroDivision
  /-- The result is beyond the largest number. -/
  | overflow
  deriving DecidableEq, Repr

namespace Complex

/-- A real number as a complex one. -/
def ofReal (x : Float) : Complex := ⟨x, 0.0⟩

/-- The sum. -/
def add (a b : Complex) : Complex := ⟨a.re + b.re, a.im + b.im⟩

/-- The difference. -/
def sub (a b : Complex) : Complex := ⟨a.re - b.re, a.im - b.im⟩

/-- The product. -/
def mul (a b : Complex) : Complex :=
  ⟨a.re * b.re - a.im * b.im, a.re * b.im + a.im * b.re⟩

/-- The quotient. -/
def div (a b : Complex) : Except Undefined Complex :=
  if b.im.abs ≤ b.re.abs then
    if b.re.abs == 0.0 then .error .zeroDivision
    else
      let ratio := b.im / b.re
      let den := b.re + b.im * ratio
      .ok ⟨(a.re + a.im * ratio) / den, (a.im - a.re * ratio) / den⟩
  else if b.re.abs ≤ b.im.abs then
    let ratio := b.re / b.im
    let den := b.re * ratio + b.im
    .ok ⟨(a.re * ratio + a.im) / den, (a.im * ratio - a.re) / den⟩
  else .ok ⟨0.0 / 0.0, 0.0 / 0.0⟩

/-- Multiplies `result` by the powers of `base` whose bits are set in `n`; the first argument bounds
the number of bits. -/
def powerSteps : Nat → Complex → Complex → Nat → Complex
  | 0, result, _, _ => result
  | bits + 1, result, base, n =>
    if n = 0 then result
    else powerSteps bits (if n % 2 = 1 then result.mul base else result) (base.mul base) (n / 2)

/-- The power with an integer exponent. -/
def powInt (a : Complex) (n : Int) : Except Undefined Complex :=
  let p := powerSteps 64 ⟨1.0, 0.0⟩ a n.natAbs
  if 0 < n then .ok p else div ⟨1.0, 0.0⟩ p

/-- The power through the polar form. -/
def powPolar (a b : Complex) : Except Undefined Complex :=
  if b.re == 0.0 && b.im == 0.0 then .ok ⟨1.0, 0.0⟩
  else if a.re == 0.0 && a.im == 0.0 then
    if b.im != 0.0 || b.re < 0.0 then .error .zeroDivision else .ok ⟨0.0, 0.0⟩
  else
    let size := hypotenuse a.re a.im
    let angle := Float.atan2 a.im a.re
    let length := Float.pow size b.re
    let phase := angle * b.re
    let (length, phase) :=
      if b.im != 0.0 then (length / (angle * b.im).exp, phase + b.im * size.log)
      else (length, phase)
    -- An infinite angle has no cosine, which is reported like a division.
    if phase.isInf then .error .zeroDivision
    else .ok ⟨length * phase.cos, length * phase.sin⟩

/-- The power. -/
def pow (a b : Complex) : Except Undefined Complex :=
  let result :=
    if b.im == 0.0 && isInteger b.re && b.re.abs ≤ 100.0 then
      let n := b.re.abs.toUInt64.toNat
      powInt a (if b.re < 0.0 then -(n : Int) else n)
    else powPolar a b
  match result with
  | .error e => .error e
  | .ok p => if p.re.isInf || p.im.isInf then .error .overflow else .ok p

end Complex

end Hashmark.Number
