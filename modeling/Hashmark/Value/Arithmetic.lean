import Hashmark.Value.Order

/-!
# Arithmetic

The operators of conditions on values. Integers are exact; a floating point or complex operand makes
the operation one of that kind, the other operand being rounded to it, which fails beyond the
largest number. Division of integers rounds once, from the exact quotient. Sequences can be joined
and repeated, sets and dictionaries combined.
-/

namespace Hashmark.Value

/-- The operators with one operand that compute a value. -/
inductive UnaryOperator where
  /-- Negation of truth. -/
  | not
  /-- Change of sign. -/
  | minus
  /-- The number itself. -/
  | plus
  /-- The bitwise complement. -/
  | invert
  deriving DecidableEq, Repr

/-- The operators with two operands that compute a value. -/
inductive BinaryOperator where
  /-- The sum, or one sequence behind another. -/
  | add
  /-- The difference. -/
  | subtract
  /-- The product, or a sequence repeated. -/
  | multiply
  /-- The quotient. -/
  | divide
  /-- The quotient rounded down. -/
  | floorDivide
  /-- The remainder, with the sign of the divisor. -/
  | remainder
  /-- The power. -/
  | power
  /-- The bits moved up. -/
  | shiftLeft
  /-- The bits moved down. -/
  | shiftRight
  /-- The bits of either, or a union. -/
  | bitOr
  /-- The bits of both, or an intersection. -/
  | bitAnd
  /-- The bits of one and not of the other, or the members of one and not of the other. -/
  | bitXor
  /-- The product of matrices, which no value is. -/
  | matrixMultiply
  deriving DecidableEq, Repr

/-- The number nearest to an integer. -/
def toFloat (n : Int) : Except OperationFault Float :=
  match Number.ofInt? n with
  | some x => .ok x
  | Option.none => .error .overflow

/-- The fault of an operation on complex numbers. -/
def ofUndefined : Number.Undefined → OperationFault
  | .zeroDivision => .zeroDivision
  | .overflow => .overflow

/-- The result of an operation on complex numbers as a value. -/
def ofComplex : Except Number.Undefined Number.Complex → Except OperationFault Value
  | .ok z => .ok (.complex z)
  | .error e => .error (ofUndefined e)

/-- Applies an operation to two numbers after bringing them to one kind. -/
def withNumbers (onInts : Int → Int → Except OperationFault Value)
    (onFloats : Float → Float → Except OperationFault Value)
    (onComplex : Number.Complex → Number.Complex → Except OperationFault Value) :
    Numeric → Numeric → Except OperationFault Value
  | .int m, .int n => onInts m n
  | .int m, .float y => do onFloats (← toFloat m) y
  | .float x, .int n => do onFloats x (← toFloat n)
  | .float x, .float y => onFloats x y
  | .int m, .complex w => do onComplex (.ofReal (← toFloat m)) w
  | .complex z, .int n => do onComplex z (.ofReal (← toFloat n))
  | .float x, .complex w => onComplex (.ofReal x) w
  | .complex z, .float y => onComplex z (.ofReal y)
  | .complex z, .complex w => onComplex z w

/-- Applies an operation to two values that are numbers. -/
def numeric (onInts : Int → Int → Except OperationFault Value)
    (onFloats : Float → Float → Except OperationFault Value)
    (onComplex : Number.Complex → Number.Complex → Except OperationFault Value)
    (a b : Value) : Except OperationFault Value :=
  match a.toNumeric?, b.toNumeric? with
  | some m, some n => withNumbers onInts onFloats onComplex m n
  | _, _ => .error .typeMismatch

/-- Applies an operation to two values that are numbers and not complex. -/
def real (onInts : Int → Int → Except OperationFault Value)
    (onFloats : Float → Float → Except OperationFault Value) (a b : Value) :
    Except OperationFault Value :=
  match a, b with
  | .complex _, _ => .error .typeMismatch
  | _, .complex _ => .error .typeMismatch
  | _, _ => numeric onInts onFloats (fun _ _ => .error .typeMismatch) a b

/-- The exact quotient of two integers, rounded once; zero too has the sign that the divisor gives
it. -/
def divideInts (m n : Int) : Except OperationFault Value :=
  if n = 0 then .error .zeroDivision
  else
    match Number.nearest? ((m < 0) != (n < 0)) m.natAbs n.natAbs with
    | some x => .ok (.float x)
    | Option.none => .error .overflow

/-- The power of floating point numbers. A negative number to a power that is no integer is
complex. -/
def powFloat (x y : Float) : Except OperationFault Value :=
  let odd := Number.isOddInteger y
  if y == 0.0 then .ok (.float 1.0)
  else if x.isNaN then .ok (.float x)
  else if y.isNaN then .ok (.float (if x == 1.0 then 1.0 else y))
  else if y.isInf then
    .ok <| .float <|
      if x.abs == 1.0 then 1.0 else if (0.0 < y) == (1.0 < x.abs) then y.abs else 0.0
  else if x.isInf then
    .ok <| .float <|
      if 0.0 < y then (if odd then x else x.abs)
      else if odd then Number.withSign (Number.isNegative x) 0.0 else 0.0
  else if x == 0.0 then
    if y < 0.0 then .error .zeroDivision else .ok (.float (if odd then x else 0.0))
  else if x < 0.0 && !Number.isInteger y then
    ofComplex (Number.Complex.pow (.ofReal x) (.ofReal y))
  else
    let negate := x < 0.0 && odd
    let size := if x.abs == 1.0 then 1.0 else Float.pow x.abs y
    if size.isInf then .error .overflow else .ok (.float (if negate then -size else size))

/-- The power of an integer to one that is not negative; zero, one and minus one are not multiplied
out. -/
def powNat (m : Int) (n : Nat) : Int :=
  if m = 0 then (if n = 0 then 1 else 0)
  else if m = 1 then 1
  else if m = -1 then (if n % 2 = 0 then 1 else -1)
  else Int.pow m n

/-- The power of integers: exact, or in floating point for a negative exponent. -/
def powInts (m n : Int) : Except OperationFault Value :=
  if 0 ≤ n then .ok (.int (powNat m n.toNat))
  else do powFloat (← toFloat m) (← toFloat n)

/-- The least count that is too large to repeat a sequence by; below its opposite a count is too
small. -/
def countLimit : Int := 9223372036854775808

/-- How many members a list may have. -/
def lengthLimit : Nat := 134217728

/-- A list of members one after another `count` times. -/
def repeatItems {α : Type} (items : List α) (count : Nat) : List α :=
  (List.replicate count items).flatten

/-- A sequence repeated; a count that is not positive leaves nothing of it. -/
def repeatSequence (count : Int) (sequence : Value) : Except OperationFault Value :=
  if countLimit ≤ count || count < -countLimit then .error .overflow
  else
    let guarded := fun {α : Type} (items : List α) (make : List α → Value) =>
      if items.isEmpty then Except.ok (make [])
      else if lengthLimit < items.length * count.toNat then .error OperationFault.outOfMemory
      else .ok (make (repeatItems items count.toNat))
    match sequence with
    | .text s => guarded s.toList fun cs => .text (String.ofList cs)
    | .bytes bs => guarded bs .bytes
    | .tuple items => guarded items .tuple
    | .list items => guarded items .list
    | _ => .error .typeMismatch

/-- Whether a value is a sequence. -/
def isSequence : Value → Bool
  | .text _ | .bytes _ | .tuple _ | .list _ => true
  | _ => false

/-- The sum of two numbers, or the second sequence behind the first. -/
def add : Value → Value → Except OperationFault Value
  | .text s, .text t => .ok (.text (s ++ t))
  | .bytes a, .bytes b => .ok (.bytes (a ++ b))
  | .tuple xs, .tuple ys => .ok (.tuple (xs ++ ys))
  | .list xs, .list ys => .ok (.list (xs ++ ys))
  | a, b => numeric (fun m n => .ok (.int (m + n))) (fun x y => .ok (.float (x + y)))
      (fun z w => .ok (.complex (z.add w))) a b

/-- The difference of two numbers, or the members of the first set that are not in the second. -/
def subtract : Value → Value → Except OperationFault Value
  | .set xs, .set ys => .ok (.set (xs.filter fun x => !isMember x ys))
  | a, b => numeric (fun m n => .ok (.int (m - n))) (fun x y => .ok (.float (x - y)))
      (fun z w => .ok (.complex (z.sub w))) a b

/-- The product of two numbers, or a sequence repeated. -/
def multiply (a b : Value) : Except OperationFault Value :=
  match a.isSequence, b.toInt?, b.isSequence, a.toInt? with
  | true, some count, _, _ => repeatSequence count a
  | _, _, true, some count => repeatSequence count b
  | _, _, _, _ => numeric (fun m n => .ok (.int (m * n))) (fun x y => .ok (.float (x * y)))
      (fun z w => .ok (.complex (z.mul w))) a b

/-- The quotient of two numbers. -/
def divide : Value → Value → Except OperationFault Value :=
  numeric divideInts
    (fun x y => if y == 0.0 then .error .zeroDivision else .ok (.float (x / y)))
    (fun z w => ofComplex (z.div w))

/-- The quotient rounded down. -/
def floorDivide : Value → Value → Except OperationFault Value :=
  real (fun m n => if n = 0 then .error .zeroDivision else .ok (.int (Int.fdiv m n)))
    fun x y => if y == 0.0 then .error .zeroDivision else .ok (.float (Number.divideDown x y).1)

/-- The remainder, with the sign of the divisor. -/
def remainder : Value → Value → Except OperationFault Value :=
  real (fun m n => if n = 0 then .error .zeroDivision else .ok (.int (Int.fmod m n)))
    fun x y => if y == 0.0 then .error .zeroDivision else .ok (.float (Number.divideDown x y).2)

/-- The power. -/
def power : Value → Value → Except OperationFault Value :=
  numeric powInts powFloat fun z w => ofComplex (z.pow w)

/-- Applies an operation to two integers. -/
def withInts (operation : Int → Int → Except OperationFault Value) (a b : Value) :
    Except OperationFault Value :=
  match a.toInt?, b.toInt? with
  | some m, some n => operation m n
  | _, _ => .error .typeMismatch

/-- The bits of an integer moved up. -/
def shiftLeft : Value → Value → Except OperationFault Value :=
  withInts fun m n =>
    if n < 0 then .error .badValue
    else .ok (.int (if m = 0 then 0 else m * Nat.pow 2 n.toNat))

/-- The bits of an integer moved down; those moved out are lost. -/
def shiftRight : Value → Value → Except OperationFault Value :=
  withInts fun m n =>
    if n < 0 then .error .badValue
    -- Beyond its own length a number has only bits that repeat its sign.
    else .ok (.int (m >>> min n.toNat (m.natAbs.log2 + 1)))

/-- The integer whose binary digits, in two's complement, come from those of two integers by an
operation on digits, given the operation on natural numbers for each combination of signs. -/
def bitwise (bothPositive : Nat → Nat → Int) (leftNegative : Nat → Nat → Int)
    (rightNegative : Nat → Nat → Int) (bothNegative : Nat → Nat → Int) : Int → Int → Int
  | .ofNat m, .ofNat n => bothPositive m n
  | .negSucc m, .ofNat n => leftNegative m n
  | .ofNat m, .negSucc n => rightNegative m n
  | .negSucc m, .negSucc n => bothNegative m n

/-- The digits of `m` that are not digits of `n`. -/
def without (m n : Nat) : Nat :=
  m ^^^ (m &&& n)

/-- The bits that both integers have. -/
def andInt : Int → Int → Int :=
  bitwise (fun m n => (m &&& n : Nat)) (fun m n => without n m) (fun m n => without m n)
    fun m n => .negSucc (m ||| n)

/-- The bits that either integer has. -/
def orInt : Int → Int → Int :=
  bitwise (fun m n => (m ||| n : Nat)) (fun m n => .negSucc (without m n))
    (fun m n => .negSucc (without n m)) fun m n => .negSucc (m &&& n)

/-- The bits that one integer has and the other has not. -/
def xorInt : Int → Int → Int :=
  bitwise (fun m n => (m ^^^ n : Nat)) (fun m n => .negSucc (m ^^^ n))
    (fun m n => .negSucc (m ^^^ n)) fun m n => (m ^^^ n : Nat)

/-- An operation on truth values or on the bits of integers. -/
def onBits (onBools : Bool → Bool → Bool) (onInts : Int → Int → Int) :
    Value → Value → Except OperationFault Value
  | .bool a, .bool b => .ok (.bool (onBools a b))
  | a, b => withInts (fun m n => .ok (.int (onInts m n))) a b

/-- The bits of either integer, the union of sets, or of dictionaries, where the second decides. -/
def bitOr : Value → Value → Except OperationFault Value
  | .set xs, .set ys => .ok (.set (ys.foldl insertItem xs))
  | .dict xs, .dict ys => .ok (.dict (ys.foldl (fun entries (k, v) => insertEntry entries k v) xs))
  | a, b => onBits (· || ·) orInt a b

/-- The bits of both integers, or the intersection of sets, whose members come from the smaller
set, or from the second of two sets of one size. -/
def bitAnd : Value → Value → Except OperationFault Value
  | .set xs, .set ys =>
    let (smaller, larger) := if xs.length < ys.length then (xs, ys) else (ys, xs)
    .ok (.set (smaller.filter fun x => isMember x larger))
  | a, b => onBits (· && ·) andInt a b

/-- The bits, or the members of sets, that one operand has and the other has not. -/
def bitXor : Value → Value → Except OperationFault Value
  | .set xs, .set ys =>
    .ok (.set ((xs.filter fun x => !isMember x ys) ++ ys.filter fun y => !isMember y xs))
  | a, b => onBits (· != ·) xorInt a b

/-- The value of an operator with two operands. -/
def BinaryOperator.apply : BinaryOperator → Value → Value → Except OperationFault Value
  | .add => Value.add
  | .subtract => Value.subtract
  | .multiply => Value.multiply
  | .divide => Value.divide
  | .floorDivide => Value.floorDivide
  | .remainder => Value.remainder
  | .power => Value.power
  | .shiftLeft => Value.shiftLeft
  | .shiftRight => Value.shiftRight
  | .bitOr => Value.bitOr
  | .bitAnd => Value.bitAnd
  | .bitXor => Value.bitXor
  | .matrixMultiply => fun _ _ => .error .typeMismatch

/-- The value of an operator with one operand. -/
def UnaryOperator.apply : UnaryOperator → Value → Except OperationFault Value
  | .not, v => .ok (.bool !v.isTrue)
  | .minus, v =>
    match v.toNumeric? with
    | some (.int n) => .ok (.int (-n))
    | some (.float x) => .ok (.float (-x))
    | some (.complex z) => .ok (.complex ⟨-z.re, -z.im⟩)
    | Option.none => .error .typeMismatch
  | .plus, v =>
    match v.toNumeric? with
    | some (.int n) => .ok (.int n)
    | some (.float x) => .ok (.float x)
    | some (.complex z) => .ok (.complex z)
    | Option.none => .error .typeMismatch
  | .invert, v =>
    match v.toInt? with
    | some n => .ok (.int (-n - 1))
    | Option.none => .error .typeMismatch

end Hashmark.Value
