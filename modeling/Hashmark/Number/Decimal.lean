import Hashmark.Number.Floating
import Hashmark.Text.Class

/-!
# Decimal notation

Integers and floating point numbers as decimal digits. A floating point number is written with the
fewest digits that read back as the number itself, and among those digits with the nearest ones. It
is written with a point if the first digit stands for a power of ten from -4 up to 15, and otherwise
with an exponent of at least two digits.
-/

namespace Hashmark.Number

/-- The number that decimal digits write; characters that are no digits are passed over. -/
def ofDigits (cs : List Char) : Nat :=
  cs.foldl (fun n c => if Text.isDigit c then 10 * n + (c.toNat - 48) else n) 0

/-- An integer in decimal digits. -/
def intText (n : Int) : String :=
  toString n

/-- Ten to a power; one if the exponent is below zero. -/
def tenTo (exponent : Int) : Nat :=
  Nat.pow 10 exponent.toNat

/-- The most digits that an integer may have to be written out. -/
def maxDigits : Nat := 4300

/-- An integer in decimal digits, unless it has too many of them. -/
def intText? (n : Int) : Option String :=
  if n.natAbs < Nat.pow 10 maxDigits then some (intText n) else none

/-- The number that digits with a decimal exponent write; beyond the largest number it is
infinite. -/
def ofDecimal (mantissa : Nat) (exponent : Int) : Float :=
  let digits := (Nat.toDigits 10 mantissa).length
  if mantissa = 0 || digits + exponent < -400 then 0.0
  else if 400 < digits + exponent then infinite false
  else (nearest? false (mantissa * tenTo exponent) (tenTo (-exponent))).getD
    (infinite false)

/-- The number that a decimal writes: digits, a point and more digits or neither, an exponent or
none, without sign. Low lines are passed over. -/
def ofDecimalText (cs : List Char) : Float :=
  let isMark := fun c => c = 'e' || c = 'E'
  let mantissa := cs.takeWhile fun c => !isMark c
  let power := (cs.dropWhile fun c => !isMark c).drop 1
  let exponent : Int := if power.head? = some '-' then -(ofDigits power : Int) else ofDigits power
  let (_, fraction) := Text.cut '.' mantissa
  ofDecimal (ofDigits mantissa) (exponent - ((fraction.getD []).filter Text.isDigit).length)

/-- Digits and the power of ten of the unit behind the last one. -/
structure Digits where
  /-- The digits as a number. -/
  digits : Nat
  /-- What the last digit counts: this power of ten. -/
  power : Int
  deriving DecidableEq, Repr

/-- The number of digits before the point of `num / den`, not positive for a number below one: the
least `p` with `num / den < 10 ^ p`. The search begins at `guess`, which is not beyond it by more
than the bound. -/
def magnitude (num den : Nat) : Nat → Int → Int
  | 0, guess => guess
  | steps + 1, guess =>
    let below := num * tenTo (-guess) < den * tenTo guess
    if below then
      let before := guess - 1
      if num * tenTo (-before) < den * tenTo before then magnitude num den steps before
      else guess
    else magnitude num den steps (guess + 1)

/-- The decimal of `count` digits nearest to `num / den` that lies in the interval from
`low / scale` to `high / scale`, whose ends belong to it if `closed`; nothing if there is none. The
number `places` is that of the digits before the point. -/
def digitsWithin? (num den low high scale : Nat) (closed : Bool) (places : Int) (count : Nat) :
    Option Digits :=
  let power := places - count
  let up := tenTo (-power)
  let down := tenTo power
  let q := num * up / (den * down)
  let inside := fun (d : Nat) =>
    if closed then low * up ≤ d * down * scale && d * down * scale ≤ high * up
    else low * up < d * down * scale && d * down * scale < high * up
  let twice := 2 * (num * up % (den * down))
  let upFirst := den * down < twice || (twice = den * down && q % 2 = 1)
  let order := if upFirst then [q + 1, q] else [q, q + 1]
  (order.find? inside).map fun d => ⟨d, power⟩

/-- The fewest digits that read back as a positive number. -/
def shortest (b : Binary) : Digits :=
  -- Everything is in units of a quarter of the last place.
  let up := twoTo (b.exponent - 2)
  let scale := twoTo (2 - b.exponent)
  let value := 4 * b.mantissa * up
  let narrow := b.mantissa = Nat.pow 2 52 && b.exponent != -1074
  let low := value - (if narrow then 1 else 2) * up
  let high := value + 2 * up
  let guess := ((value.log2 : Int) - scale.log2) * 30103 / 100000 + 1
  let places := magnitude value scale 8 guess
  let found := (List.range 17).findSome? fun i =>
    digitsWithin? value scale low high scale (b.mantissa % 2 = 0) places (i + 1)
  found.getD ⟨b.mantissa, 0⟩

/-- The digits without zeros at the end, and the number of digits before the point. -/
def Digits.normal (d : Digits) : List Char × Int :=
  let all := Nat.toDigits 10 d.digits
  (Text.dropTrailing (· == '0') all, d.power + all.length)

/-- A positive number in digits, `places` of them before the point. -/
def positional (digits : List Char) (places : Int) : List Char :=
  if places ≤ 0 then '0' :: '.' :: List.replicate (-places).toNat '0' ++ digits
  else
    let whole := places.toNat
    if digits.length ≤ whole then
      digits ++ List.replicate (whole - digits.length) '0' ++ ['.', '0']
    else digits.take whole ++ '.' :: digits.drop whole

/-- A positive number with an exponent. -/
def exponential (digits : List Char) (places : Int) : List Char :=
  let exponent := places - 1
  let power := Nat.toDigits 10 exponent.natAbs
  let mantissa := match digits with
    | [] => ['0']
    | [d] => [d]
    | d :: ds => d :: '.' :: ds
  mantissa ++ 'e' :: (if exponent < 0 then '-' else '+') ::
    (if power.length < 2 then '0' :: power else power)

/-- A floating point number in decimal notation. -/
def floatText (x : Float) : String :=
  match Binary.ofFloat? x with
  | none => if x.isNaN then "nan" else if isNegative x then "-inf" else "inf"
  | some b =>
    let size :=
      if b.mantissa = 0 then ['0', '.', '0']
      else
        let (digits, places) := (shortest b).normal
        if -4 < places && places ≤ 16 then positional digits places
        else exponential digits places
    String.ofList (if b.negative then '-' :: size else size)

end Hashmark.Number
