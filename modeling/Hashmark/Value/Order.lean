import Hashmark.Value.Equality

/-!
# Order and containment

The comparisons that conditions can make beyond equality. Numbers other than complex ones are
ordered by size, texts and bytes from their first difference on, sequences likewise by their
members, and sets by inclusion. All else has no order, and asking for one is a mismatch of types.
-/

namespace Hashmark.Value

/-- Why an operation on values has no result. -/
inductive OperationFault where
  /-- The operation is not for values of these types. -/
  | typeMismatch
  /-- A division by zero. -/
  | zeroDivision
  /-- A number is too large for the operation. -/
  | overflow
  /-- A value is outside the range that the operation takes. -/
  | badValue
  /-- The result does not fit in memory. -/
  | outOfMemory
  deriving DecidableEq, Repr

/-- The four relations of order. -/
inductive OrderRelation where
  /-- Less than. -/
  | less
  /-- Less than or equal to. -/
  | lessEqual
  /-- Greater than. -/
  | greater
  /-- Greater than or equal to. -/
  | greaterEqual
  deriving DecidableEq, Repr

/-- Whether a relation holds of two things that compare so. -/
def OrderRelation.holds : OrderRelation → Ordering → Bool
  | .less, o => o == .lt
  | .lessEqual, o => o != .gt
  | .greater, o => o == .gt
  | .greaterEqual, o => o != .lt

/-- How two numbers compare: nothing for complex ones, and no ordering at all beside what is not a
number. -/
def Numeric.order : Numeric → Numeric → Option (Option Ordering)
  | .int m, .int n => some (some (compare m n))
  | .int m, .float x => some (Number.compareInt m x)
  | .float x, .int m => some ((Number.compareInt m x).map Ordering.swap)
  | .float x, .float y => some (Number.compareFloat x y)
  | _, _ => Option.none

/-- How two sequences of numbers compare. -/
def orderNats : List Nat → List Nat → Ordering
  | [], [] => .eq
  | [], _ :: _ => .lt
  | _ :: _, [] => .gt
  | m :: ms, n :: ns => if m < n then .lt else if n < m then .gt else orderNats ms ns

mutual

/-- Whether a relation of order holds. -/
def ordered (relation : OrderRelation) : Value → Value → Except OperationFault Bool
  | .text s, .text t =>
    .ok (relation.holds (orderNats (s.toList.map Char.toNat) (t.toList.map Char.toNat)))
  | .bytes a, .bytes b => .ok (relation.holds (orderNats (a.map UInt8.toNat) (b.map UInt8.toNat)))
  | .tuple xs, .tuple ys => orderedItems relation xs ys
  | .list xs, .list ys => orderedItems relation xs ys
  | .set xs, .set ys => .ok <| match relation with
    | .lessEqual => allWithin xs ys
    | .less => xs.length < ys.length && allWithin xs ys
    | .greaterEqual => allWithin ys xs
    | .greater => ys.length < xs.length && allWithin ys xs
  | a, b =>
    match a.toNumeric?, b.toNumeric? with
    | some m, some n =>
      match m.order n with
      | some (some o) => .ok (relation.holds o)
      -- Beside what is not a number, every relation is false.
      | some Option.none => .ok false
      | Option.none => .error .typeMismatch
    | _, _ => .error .typeMismatch

/-- Whether a relation holds of two sequences: it is that of their first members that differ, or of
their lengths. -/
def orderedItems (relation : OrderRelation) : List Value → List Value → Except OperationFault Bool
  | x :: xs, y :: ys =>
    -- Members that are equal need not be comparable.
    if equal x y then orderedItems relation xs ys else ordered relation x y
  | xs, ys => .ok (relation.holds (compare xs.length ys.length))

end

/-- Whether the first list stands somewhere within the second. -/
def occursIn {α : Type} [BEq α] (part : List α) : List α → Bool
  | [] => part.isEmpty
  | x :: xs => part.isPrefixOf (x :: xs) || occursIn part xs

/-- Whether a sequence is a part of another. A longer one is none, which needs no search. -/
def isPart {α : Type} [BEq α] (part whole : List α) : Bool :=
  part.length ≤ whole.length && occursIn part whole

/-- Whether a value is in another: a part of a text or of bytes, a byte, a member, or a key. -/
def contained (v : Value) : Value → Except OperationFault Bool
  | .text t =>
    match v with
    | .text s => .ok (isPart s.toList t.toList)
    | _ => .error .typeMismatch
  | .bytes bs =>
    match v with
    | .bytes part => .ok (isPart part bs)
    | _ =>
      match v.toInt? with
      | some n => if 0 ≤ n && n < 256 then .ok (bs.any fun b => b.toNat == n.toNat)
          else .error .badValue
      | Option.none => .error .typeMismatch
  | .tuple items => .ok (isMember v items)
  | .list items => .ok (isMember v items)
  | .set items =>
    match v with
    -- A set may be looked for in a set, though it is a member of none.
    | .set _ => .ok false
    | _ => if v.isKey then .ok (isMember v items) else .error .typeMismatch
  | .dict entries =>
    if v.isKey then .ok (isMember v (entries.map Prod.fst)) else .error .typeMismatch
  | _ => .error .typeMismatch

end Hashmark.Value
