import Hashmark.Condition.Grammar
import Hashmark.Value.Text

/-!
# Evaluation

The value of an expression, names being looked up by the caller. Operands are evaluated from left to
right, and connectives, chains of comparisons and choices stop at the operand that decides. Before a
power, a shift, a product or a repetition is computed, the size of its result is estimated from the
operands, so that no condition can build a number or a sequence that is out of proportion.

Two values may be compared for being the same object. An operand remembers the name that it was
looked up by if that gives the same object every time, or the number of the object if other names
may give it too; operands under one such name or number are the same object, and so are equal values
of the few kinds that exist only once.
-/

namespace Hashmark.Condition

open Value (OperationFault)

/-- Whether a name leads to the same object every time. -/
inductive Sharing where
  /-- To a new one every time. -/
  | fresh
  /-- To the same one, which no other name leads to. -/
  | own
  /-- To the one with this number, which other names may lead to as well. -/
  | object (number : Nat)
  deriving DecidableEq, Repr

/-- How a name leads to the object with a number, or else to one of its own. -/
def Sharing.ofObject : Option Nat → Sharing
  | some number => .object number
  | none => .own

/-- A truth value says whether a name leads to an object of its own. -/
instance : Coe Bool Sharing where
  coe own := if own then .own else .fresh

/-- What a name leads to. -/
inductive Lookup where
  /-- Nothing. -/
  | undefined
  /-- A literal that cannot be computed because a number in it is too large. -/
  | overflow
  /-- A value, and whether it is the same object every time. -/
  | found (value : Value) (sharing : Sharing)

/-- How names are looked up. -/
abbrev Resolver := String → Lookup

/-- Why an expression has no value. -/
inductive EvalFault where
  /-- A name leads to nothing. -/
  | undefinedName (name : String)
  /-- A form of expression without a meaning in conditions. -/
  | unsupportedForm (form : Form)
  /-- An operator without a meaning in conditions. -/
  | unsupportedOperator
  /-- Something is called that is not the test whether a name is defined. -/
  | call
  /-- A power whose result is too large, by its exponent. -/
  | powerTooLarge (exponent : String)
  /-- A shift whose result is too large, by its amount. -/
  | shiftTooLarge (amount : String)
  /-- A product that is too large. -/
  | productTooLarge
  /-- A repeated sequence that is too long, by the count. -/
  | sequenceTooLong (copies : String)
  /-- A text in front of the remainder operator, which would put values into it. -/
  | formatting
  /-- An operation without a result. -/
  | operation (fault : OperationFault)
  deriving DecidableEq, Repr

/-- What an object is found by every time. -/
inductive Handle where
  /-- A name. -/
  | name (name : String)
  /-- A number. -/
  | object (number : Nat)
  deriving DecidableEq, Repr

/-- What the object is found by that a name leads to, if it is the same one every time. -/
def Sharing.handle? (name : String) : Sharing → Option Handle
  | .fresh => none
  | .own => some (.name name)
  | .object number => some (.object number)

/-- A value under evaluation. -/
structure Operand where
  /-- The value. -/
  value : Value
  /-- What the same object is found by every time, if there is such a thing. -/
  source : Option Handle

/-- An operand that is an object of its own. -/
def Operand.fresh (value : Value) : Operand := ⟨value, none⟩

/-- Whether two equal values of their kind are always the same object: nothing, the truth values,
integers of one byte and some below zero, and texts, bytes and tuples of hardly any length. -/
def isUnique : Value → Value → Bool
  | .none, .none => true
  | .ellipsis, .ellipsis => true
  | .bool a, .bool b => a == b
  | .int m, .int n => m == n && -5 ≤ m && m ≤ 256
  | .text s, .text t =>
    s == t && (match s.toList with
      | [] => true
      | [c] => c.toNat < 256
      | _ => false)
  | .bytes a, .bytes b => a == b && a.length ≤ 1
  | .tuple [], .tuple [] => true
  | _, _ => false

/-- Whether an operand is a text that is found by a number. Such a text need not be the object that
equal texts otherwise are, unless it is empty. -/
def Operand.isForeign (a : Operand) : Bool :=
  match a.value, a.source with
  | .text s, some (.object _) => s != ""
  | _, _ => false

/-- Whether two operands are the same object. -/
def Operand.same (a b : Operand) : Bool :=
  (isUnique a.value b.value && !a.isForeign && !b.isForeign) ||
    (a.source.isSome && a.source == b.source)

/-- The number of bits of an integer's size. -/
def bitLength (n : Int) : Nat :=
  if n = 0 then 0 else n.natAbs.log2 + 1

/-- The most bits of an integer that a power, a shift or a product may give. -/
def maxBits : Nat := 65536

/-- The most members of a sequence that a repetition may give. -/
def maxLength : Nat := 1048576

/-- The fault that names a number, or the fault of writing it out. -/
def naming (fault : String → EvalFault) (v : Value) : EvalFault :=
  match v.shown? with
  | some text => fault text
  | none => .operation .badValue

/-- The length of a sequence whose repetition is checked: a text, bytes, or a tuple. -/
def repeatedLength? : Value → Option Nat
  | .text s => some s.length
  | .bytes bs => some bs.length
  | .tuple items => some items.length
  | _ => none

/-- Refuses to repeat a sequence too often. -/
def checkRepetition (sequence count : Value) : Except EvalFault Unit :=
  match repeatedLength? sequence, count.toInt? with
  | some length, some n =>
    if (maxLength : Int) < length * n then .error (naming .sequenceTooLong count) else .ok ()
  | _, _ => .ok ()

/-- Refuses an operation whose result would be too large, by an estimate from its operands. -/
def checkSize (operator : Value.BinaryOperator) (left right : Value) : Except EvalFault Unit :=
  match operator with
  | .power =>
    match left.toInt?, right.toInt? with
    | some m, some n =>
      -- The powers of zero and one stay as small as they are.
      if 0 < n && 1 < m.natAbs && (maxBits : Int) < bitLength m * n then
        .error (naming .powerTooLarge right)
      else .ok ()
    | _, _ => .ok ()
  | .shiftLeft =>
    match left.toInt?, right.toInt? with
    | some m, some n =>
      if m ≠ 0 && (maxBits : Int) < bitLength m + n then .error (naming .shiftTooLarge right)
      else .ok ()
    | _, _ => .ok ()
  | .remainder =>
    match left with
    -- The operator would put values into the text.
    | .text _ | .bytes _ => .error .formatting
    | _ => .ok ()
  | .multiply =>
    match left.toInt?, right.toInt? with
    | some m, some n =>
      if maxBits < bitLength m + bitLength n then .error .productTooLarge else .ok ()
    | _, _ =>
      match checkRepetition left right with
      | .error e => .error e
      | .ok () => checkRepetition right left
  | _ => .ok ()

/-- The result of an operation on values, whose faults become faults of the evaluation. -/
def ofOperation : Except OperationFault Value → Except EvalFault Value
  | .ok v => .ok v
  | .error e => .error (.operation e)

/-- The operand that an operator returns unchanged as its result, if it returns one: the other of an
empty sequence, and a sequence repeated once. -/
def unchanged? (operator : Value.BinaryOperator) (left right : Operand) : Option Operand :=
  let isEmpty := fun (v : Value) => repeatedLength? v == some 0
  match operator with
  | .add =>
    match repeatedLength? left.value, repeatedLength? right.value with
    | some _, some _ =>
      -- With an empty sequence the other one is the sum, as the same object.
      if isEmpty left.value then some right else if isEmpty right.value then some left else none
    | _, _ => none
  | .multiply =>
    if (repeatedLength? left.value).isSome && right.value.toInt? == some 1 then some left
    else if (repeatedLength? right.value).isSome && left.value.toInt? == some 1 then some right
    else none
  | _ => none

/-- Applies an operator to two operands, if the result is not too large. -/
def applyBinary (operator : Value.BinaryOperator) (left right : Operand) :
    Except EvalFault Operand :=
  match checkSize operator left.value right.value with
  | .error e => .error e
  | .ok () =>
    match ofOperation (operator.apply left.value right.value) with
    | .error e => .error e
    | .ok v => .ok ⟨v, (unchanged? operator left right).bind Operand.source⟩

/-- Applies an operator to one operand; a sign of plus leaves a number as it is. -/
def applyUnary (operator : Value.UnaryOperator) (operand : Operand) : Except EvalFault Operand :=
  match ofOperation (operator.apply operand.value) with
  | .error e => .error e
  | .ok v =>
    let kept := match operator, operand.value with
      | .plus, .bool _ => none
      | .plus, _ => operand.source
      | _, _ => none
    .ok ⟨v, kept⟩

/-- Whether a comparison holds between two operands. -/
def compareOperands (comparison : Comparison) (left right : Operand) : Except EvalFault Bool :=
  let ofTest := fun (r : Except OperationFault Bool) => match r with
    | .ok b => Except.ok b
    | .error e => .error (EvalFault.operation e)
  match comparison with
  | .equal => .ok (left.value.equal right.value)
  | .notEqual => .ok !(left.value.equal right.value)
  | .order relation => ofTest (left.value.ordered relation right.value)
  | .identical => .ok (left.same right)
  | .notIdentical => .ok !(left.same right)
  | .member => ofTest (left.value.contained right.value)
  | .notMember => ofTest ((left.value.contained right.value).map (!·))

/-- The name that a call asks whether it is defined. -/
def definedName? : Expr → List Expr → Bool → Option String
  | .name "defined", [.name n], false => some n
  | _, _, _ => none

/-- Looks up a name. -/
def lookupName (resolve : Resolver) (name : String) : Except EvalFault Operand :=
  match resolve name with
  | .undefined => .error (.undefinedName name)
  | .overflow => .error (.operation .overflow)
  | .found v sharing => .ok ⟨v, sharing.handle? name⟩

/-- Whether a name leads to something. -/
def isDefined (resolve : Resolver) (name : String) : Except EvalFault Operand :=
  match resolve name with
  | .undefined => .ok (.fresh (.bool false))
  | .overflow => .error (.operation .overflow)
  | .found _ _ => .ok (.fresh (.bool true))

/-- Whether an operand decides a connective by its truth. -/
def Connective.isDecided (connective : Connective) (v : Value) : Bool :=
  match connective with
  | .and => !v.isTrue
  | .or => v.isTrue

/-- What a connective without operands gives. -/
def Connective.neutral : Connective → Operand
  | .and => .fresh (.bool true)
  | .or => .fresh (.bool false)

mutual

/-- The operand that an expression gives. -/
def evalOperand (resolve : Resolver) : Expr → Except EvalFault Operand
  | .constant v => .ok (.fresh v)
  | .name n => lookupName resolve n
  | .tuple items =>
    match evalItems resolve items with
    | .error e => .error e
    | .ok vs => .ok (.fresh (.tuple vs))
  -- A list is frozen: it has the value of a tuple.
  | .list items =>
    match evalItems resolve items with
    | .error e => .error e
    | .ok vs => .ok (.fresh (.tuple vs))
  | .set _ => .error (.unsupportedForm .setDisplay)
  | .dict _ => .error (.unsupportedForm .dictDisplay)
  | .call callee arguments hasNamed =>
    match definedName? callee arguments hasNamed with
    | some n => isDefined resolve n
    | none => .error .call
  | .unary operator operand =>
    match evalOperand resolve operand with
    | .error e => .error e
    | .ok v => applyUnary operator v
  | .binary .matrixMultiply _ _ => .error .unsupportedOperator
  | .binary operator left right =>
    match evalOperand resolve left with
    | .error e => .error e
    | .ok l =>
      match evalOperand resolve right with
      | .error e => .error e
      | .ok r => applyBinary operator l r
  | .connected connective operands => evalConnected resolve connective connective.neutral operands
  | .comparison first links =>
    match evalOperand resolve first with
    | .error e => .error e
    | .ok left => evalLinks resolve left links
  | .choice test whenTrue whenFalse =>
    match evalOperand resolve test with
    | .error e => .error e
    | .ok v =>
      if v.value.isTrue then evalOperand resolve whenTrue else evalOperand resolve whenFalse
  | .starred _ => .error (.unsupportedForm .starred)
  | .other form => .error (.unsupportedForm form)

/-- The values of expressions, from left to right. -/
def evalItems (resolve : Resolver) : List Expr → Except EvalFault (List Value)
  | [] => .ok []
  | e :: es =>
    match evalOperand resolve e with
    | .error fault => .error fault
    | .ok v =>
      match evalItems resolve es with
      | .error fault => .error fault
      | .ok vs => .ok (v.value :: vs)

/-- The first operand that decides a connective, or else the last one; `last` is the one before. -/
def evalConnected (resolve : Resolver) (connective : Connective) (last : Operand) :
    List Expr → Except EvalFault Operand
  | [] => .ok last
  | e :: es =>
    match evalOperand resolve e with
    | .error fault => .error fault
    | .ok v =>
      if connective.isDecided v.value then .ok v else evalConnected resolve connective v es

/-- Whether every link of a chain holds, up to the first that does not. -/
def evalLinks (resolve : Resolver) (left : Operand) :
    List (Comparison × Expr) → Except EvalFault Operand
  | [] => .ok (.fresh (.bool true))
  | (comparison, e) :: rest =>
    match evalOperand resolve e with
    | .error fault => .error fault
    | .ok right =>
      match compareOperands comparison left right with
      | .error fault => .error fault
      | .ok true => evalLinks resolve right rest
      | .ok false => .ok (.fresh (.bool false))

end

/-- The value of an expression. -/
def eval (resolve : Resolver) (e : Expr) : Except EvalFault Value :=
  (evalOperand resolve e).map Operand.value

/-- Why a condition has no value. -/
inductive ConditionError where
  /-- Its text writes no expression. -/
  | invalid (text : String)
  /-- The expression has no value. -/
  | noValue (text : String) (reason : EvalFault)
  deriving DecidableEq, Repr

/-- The wording of a fault in a condition with this text. -/
def EvalFault.message (text : String) : EvalFault → String
  | .undefinedName n => "undefined name: " ++ n
  | .unsupportedForm form => "unsupported expression node: " ++ form.label
  | .unsupportedOperator => "unsupported binary operator: MatMult"
  | .call => "only defined(NAME) may be called in a condition"
  | .powerTooLarge n => "result of ** too large: exponent " ++ n
  | .shiftTooLarge n => "result of << too large: shift " ++ n
  | .productTooLarge => "result of * too large"
  | .sequenceTooLong n => "repeated sequence too long: " ++ n ++ " copies"
  | .formatting => "% formatting is not supported in conditions"
  | .operation _ => "cannot evaluate " ++ Text.quoted text

/-- The wording of an error. -/
def ConditionError.message : ConditionError → String
  | .invalid text => "invalid expression: " ++ Text.quoted text
  | .noValue text reason => reason.message text

/-- The value of the expression that a text writes, blanks around it being passed over. -/
def evaluate (resolve : Resolver) (text : String) : Except ConditionError Value :=
  match parse? (Text.strip text).toList with
  | none => .error (.invalid text)
  | some e =>
    match eval resolve e with
    | .ok v => .ok v
    | .error reason => .error (.noValue text reason)

/-- Whether the expression that a text writes is true. -/
def isTruthy (resolve : Resolver) (text : String) : Except ConditionError Bool :=
  (evaluate resolve text).map Value.isTrue

end Hashmark.Condition
