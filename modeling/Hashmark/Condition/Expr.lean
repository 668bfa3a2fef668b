import Hashmark.Value.Arithmetic

/-!
# Expressions

The trees of condition expressions. Whatever has a meaning in a condition or in a literal has a
constructor of its own. Forms that may be written but mean nothing here, such as a call of a method
or a comprehension, are kept as their kind only: evaluating one fails with that kind, and an operand
that is never reached does no harm.
-/

namespace Hashmark.Condition

/-- The forms of expressions without a meaning in conditions. -/
inductive Form where
  /-- A member of an object. -/
  | attribute
  /-- A part of a sequence. -/
  | subscript
  /-- A function without a name. -/
  | function
  /-- A list made by a loop. -/
  | listComprehension
  /-- A set made by a loop. -/
  | setComprehension
  /-- A dictionary made by a loop. -/
  | dictComprehension
  /-- Values made by a loop one at a time. -/
  | generator
  /-- A display of a set. -/
  | setDisplay
  /-- A display of a dictionary. -/
  | dictDisplay
  /-- A text with expressions in it. -/
  | formattedText
  /-- An unpacked sequence. -/
  | starred
  /-- A name given to a value within an expression. -/
  | namedExpression
  /-- Waiting for a value. -/
  | await
  /-- Handing out a value. -/
  | yield
  /-- Handing out the values of another generator. -/
  | yieldFrom
  deriving DecidableEq, Repr

/-- The label of each form. -/
def Form.label : Form → String
  | .attribute => "Attribute"
  | .subscript => "Subscript"
  | .function => "Lambda"
  | .listComprehension => "ListComp"
  | .setComprehension => "SetComp"
  | .dictComprehension => "DictComp"
  | .generator => "GeneratorExp"
  | .setDisplay => "Set"
  | .dictDisplay => "Dict"
  | .formattedText => "JoinedStr"
  | .starred => "Starred"
  | .namedExpression => "NamedExpr"
  | .await => "Await"
  | .yield => "Yield"
  | .yieldFrom => "YieldFrom"

/-- The comparisons. -/
inductive Comparison where
  /-- Equality. -/
  | equal
  /-- Inequality. -/
  | notEqual
  /-- A relation of order. -/
  | order (relation : Value.OrderRelation)
  /-- Being one and the same object. -/
  | identical
  /-- Not being the same object. -/
  | notIdentical
  /-- Being contained. -/
  | member
  /-- Not being contained. -/
  | notMember
  deriving DecidableEq, Repr

/-- The connectives that stop at the operand that decides. -/
inductive Connective where
  /-- All operands are true. -/
  | and
  /-- Some operand is true. -/
  | or
  deriving DecidableEq, Repr

/-- An expression. -/
inductive Expr where
  /-- A value that is written out. -/
  | constant (value : Value)
  /-- A name, in its normal form. -/
  | name (name : String)
  /-- Members between parentheses, or without any. -/
  | tuple (items : List Expr)
  /-- Members between square brackets. -/
  | list (items : List Expr)
  /-- Members between braces. -/
  | set (items : List Expr)
  /-- Keys and values between braces; an entry without a key unpacks a dictionary. -/
  | dict (entries : List (Option Expr × Expr))
  /-- A call: what is called, the arguments by place, and whether there are others by name. -/
  | call (callee : Expr) (arguments : List Expr) (hasNamed : Bool)
  /-- An operator with one operand. -/
  | unary (operator : Value.UnaryOperator) (operand : Expr)
  /-- An operator with two operands. -/
  | binary (operator : Value.BinaryOperator) (left right : Expr)
  /-- Two operands or more under one connective. -/
  | connected (connective : Connective) (operands : List Expr)
  /-- A chain of comparisons, each between two neighbours. -/
  | comparison (first : Expr) (links : List (Comparison × Expr))
  /-- A choice between two expressions. -/
  | choice (test whenTrue whenFalse : Expr)
  /-- An unpacked sequence within a display or a call. -/
  | starred (inner : Expr)
  /-- A form without a meaning in conditions. -/
  | other (form : Form)
  deriving Inhabited

end Hashmark.Condition
