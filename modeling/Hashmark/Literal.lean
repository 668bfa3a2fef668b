import Hashmark.Condition.Grammar

/-!
# Literals

The value of a text that is read as a literal: values written out, signed numbers, a real number
plus or minus an imaginary one, and displays of these. Everything else is no literal. Members are
converted in the order in which they are written, and only one fault stands out from the text being
no literal at all: a real number too large to be added to an imaginary one.
-/

namespace Hashmark.Literal

open Condition (Expr)

/-- Why a text has no value as a literal. -/
inductive Fault where
  /-- It is no literal. -/
  | malformed
  /-- A number in it is too large. -/
  | overflow
  deriving DecidableEq, Repr

/-- The value of a number without sign. -/
def number? : Expr → Option Value
  | .constant (.int n) => some (.int n)
  | .constant (.float x) => some (.float x)
  | .constant (.complex z) => some (.complex z)
  | _ => none

/-- The value of a number with a sign or without. -/
def signedNumber? : Expr → Option Value
  | .unary .plus e => number? e
  | .unary .minus e =>
    match number? e with
    | some v => (Value.UnaryOperator.apply .minus v).toOption
    | none => none
  | e => number? e

/-- The value of a real number plus or minus an imaginary one. -/
def complexNumber (operation : Value → Value → Except Value.OperationFault Value)
    (left right : Expr) : Except Fault Value :=
  match signedNumber? left, number? right with
  | some (.complex _), _ => .error .malformed
  | some real, some (.complex z) =>
    match operation real (.complex z) with
    | .ok v => .ok v
    | .error _ => .error .overflow
  | _, _ => .error .malformed

/-- Puts a value into a set or a dictionary, if it can be a key. -/
def asKey (v : Value) : Except Fault Value :=
  if v.isKey then .ok v else .error .malformed

mutual

/-- The value of an expression that is a literal. -/
def ofExpr : Expr → Except Fault Value
  | .constant v => .ok v
  | .tuple items =>
    match ofItems items with
    | .error e => .error e
    | .ok vs => .ok (.tuple vs)
  | .list items =>
    match ofItems items with
    | .error e => .error e
    | .ok vs => .ok (.list vs)
  | .set items => ofMembers [] items
  | .dict entries => ofEntries [] entries
  -- An empty set has no display.
  | .call (.name "set") [] false => .ok (.set [])
  | .binary .add left right => complexNumber Value.add left right
  | .binary .subtract left right => complexNumber Value.subtract left right
  | e =>
    match signedNumber? e with
    | some v => .ok v
    | none => .error .malformed

/-- The values of expressions, from left to right. -/
def ofItems : List Expr → Except Fault (List Value)
  | [] => .ok []
  | e :: es =>
    match ofExpr e with
    | .error fault => .error fault
    | .ok v =>
      match ofItems es with
      | .error fault => .error fault
      | .ok vs => .ok (v :: vs)

/-- The set of the members so far and those of further expressions. -/
def ofMembers (done : List Value) : List Expr → Except Fault Value
  | [] => .ok (.set done)
  | e :: es =>
    match ofExpr e with
    | .error fault => .error fault
    | .ok v =>
      match asKey v with
      | .error fault => .error fault
      | .ok v => ofMembers (Value.insertItem done v) es

/-- The dictionary of the entries so far and those of further expressions. -/
def ofEntries (done : List (Value × Value)) : List (Option Expr × Expr) → Except Fault Value
  | [] => .ok (.dict done)
  | (none, _) :: _ => .error .malformed
  | (some key, value) :: rest =>
    match ofExpr key with
    | .error fault => .error fault
    | .ok k =>
      match ofExpr value with
      | .error fault => .error fault
      | .ok v =>
        -- That a key cannot be one shows only after the value of the entry is converted.
        match asKey k with
        | .error fault => .error fault
        | .ok k => ofEntries (Value.insertEntry done k v) rest

end

/-- The value of a text that writes a literal, spaces and tabs before it being passed over. -/
def parse (text : String) : Except Fault Value :=
  match Condition.parse? (text.toList.dropWhile fun c => c = ' ' || c = '\t') with
  | none => .error .malformed
  | some e => ofExpr e

end Hashmark.Literal
