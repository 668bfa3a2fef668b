import Hashmark.Value.Basic

/-!
# Equality and membership

When two values are equal. Numbers are equal when they are the same number, of whatever kind they
are, and this is decided exactly. Sequences are equal member by member and only to sequences of
their kind; sets and dictionaries are equal when they have the same members, in whatever order.
Members are compared as values, not as objects, so that what is not a number is a member of nothing.
-/

namespace Hashmark.Value

/-- Whether two numbers are the same. -/
def Numeric.same : Numeric → Numeric → Bool
  | .int m, .int n => m == n
  | .int m, .float x => Number.compareInt m x == some .eq
  | .float x, .int m => Number.compareInt m x == some .eq
  | .float x, .float y => x == y
  | .int m, .complex z => z.im == 0.0 && Number.compareInt m z.re == some .eq
  | .complex z, .int m => z.im == 0.0 && Number.compareInt m z.re == some .eq
  | .float x, .complex z => z.im == 0.0 && x == z.re
  | .complex z, .float x => z.im == 0.0 && x == z.re
  | .complex z, .complex w => z.re == w.re && z.im == w.im

/-- Whether two values are numbers, and the same one. -/
def sameNumber (a b : Value) : Bool :=
  match a.toNumeric?, b.toNumeric? with
  | some m, some n => m.same n
  | _, _ => false

mutual

/-- Whether two values are equal. -/
def equal : Value → Value → Bool
  | .none, .none => true
  | .ellipsis, .ellipsis => true
  | .text s, .text t => s == t
  | .bytes a, .bytes b => a == b
  | .tuple xs, .tuple ys => equalItems xs ys
  | .list xs, .list ys => equalItems xs ys
  | .set xs, .set ys => xs.length == ys.length && allWithin xs ys
  | .dict xs, .dict ys => xs.length == ys.length && entriesWithin xs ys
  | a, b => sameNumber a b

/-- Whether two sequences have the same length and equal members at each place. -/
def equalItems : List Value → List Value → Bool
  | [], [] => true
  | x :: xs, y :: ys => equal x y && equalItems xs ys
  | _, _ => false

/-- Whether every value of the first list equals one of the second. -/
def allWithin : List Value → List Value → Bool
  | [], _ => true
  | x :: xs, ys => ys.any (equal x) && allWithin xs ys

/-- Whether every entry of the first list has an entry with equal key and value in the second. -/
def entriesWithin : List (Value × Value) → List (Value × Value) → Bool
  | [], _ => true
  | (k, v) :: xs, ys =>
    ys.any (fun entry => equal k entry.1 && equal v entry.2) && entriesWithin xs ys

end

/-- Whether a value equals one of a list. -/
def isMember (v : Value) (items : List Value) : Bool :=
  items.any fun item => item.equal v

/-- The list with a value at its end, unless an equal one is in it. -/
def insertItem (items : List Value) (v : Value) : List Value :=
  if isMember v items then items else items ++ [v]

/-- The entries with a key leading to a value: in the place of an equal key, which stays, or at the
end. -/
def insertEntry (entries : List (Value × Value)) (key value : Value) : List (Value × Value) :=
  if entries.any fun entry => entry.1.equal key then
    entries.map fun entry => if entry.1.equal key then (entry.1, value) else entry
  else entries ++ [(key, value)]

end Hashmark.Value
