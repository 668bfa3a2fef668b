import Hashmark.Value.Equality

/-!
# Values that do not change

A value with every list in it made a tuple (`Value.frozen`), and when a value equals itself: the
only thing in a value that differs from itself is a number in floating point that is none
(`Value.equal_self`).
-/

namespace Hashmark.Value

mutual

/-- The value with a tuple in the place of every list, at any depth of tuples and lists. -/
def frozen : Value → Value
  | .tuple items => .tuple (frozenItems items)
  | .list items => .tuple (frozenItems items)
  | v => v

/-- The values with a tuple in the place of every list. -/
def frozenItems : List Value → List Value
  | [] => []
  | v :: vs => v.frozen :: frozenItems vs

end

mutual

/-- Whether a value has a number in floating point in it that differs from itself, which is how one
that is no number is told. -/
def hasNaN : Value → Bool
  | .float x => x != x
  | .complex z => z.re != z.re || z.im != z.im
  | .tuple items => anyNaN items
  | .list items => anyNaN items
  | .set items => anyNaN items
  | .dict entries => anyEntryNaN entries
  | _ => false

/-- Whether one of several values has such a number in it. -/
def anyNaN : List Value → Bool
  | [] => false
  | v :: vs => v.hasNaN || anyNaN vs

/-- Whether a key or a value of several entries has such a number in it. -/
def anyEntryNaN : List (Value × Value) → Bool
  | [] => false
  | (k, v) :: entries => k.hasNaN || v.hasNaN || anyEntryNaN entries

end

/-- Values within more values are within them. -/
theorem allWithin_cons {xs ys : List Value} (h : allWithin xs ys = true) (y : Value) :
    allWithin xs (y :: ys) = true := by
  induction xs with
  | nil => rw [allWithin]
  | cons x xs ih =>
    rw [allWithin, Bool.and_eq_true] at h ⊢
    exact ⟨by rw [List.any_cons, h.1, Bool.or_true], ih h.2⟩

/-- Entries within more entries are within them. -/
theorem entriesWithin_cons {xs ys : List (Value × Value)} (h : entriesWithin xs ys = true)
    (y : Value × Value) : entriesWithin xs (y :: ys) = true := by
  induction xs with
  | nil => rw [entriesWithin]
  | cons x xs ih =>
    rw [entriesWithin, Bool.and_eq_true] at h ⊢
    exact ⟨by rw [List.any_cons, h.1, Bool.or_true], ih h.2⟩

/-- A value counts as the same number as itself if its number does not differ from itself. -/
theorem sameNumber_self {v : Value} {n : Numeric} (h : v.toNumeric? = some n)
    (hn : n.same n = true) : v.sameNumber v = true := by
  rw [sameNumber, h]
  exact hn

mutual

/-- A value equals itself unless there is a number in it that does not. -/
theorem equal_self : ∀ v : Value, v.hasNaN = false → v.equal v = true
  | .none, _ | .ellipsis, _ => by rw [equal]
  | .bool b, _ => by
    rw [equal]
    · exact sameNumber_self rfl (beq_self_eq_true _)
    all_goals exact nofun
  | .int n, _ => by
    rw [equal]
    · exact sameNumber_self rfl (beq_self_eq_true n)
    all_goals exact nofun
  | .float x, h => by
    rw [hasNaN, bne, Bool.not_eq_false'] at h
    rw [equal]
    · exact sameNumber_self rfl h
    all_goals exact nofun
  | .complex z, h => by
    rw [hasNaN, Bool.or_eq_false_iff, bne, bne, Bool.not_eq_false', Bool.not_eq_false'] at h
    rw [equal]
    · exact sameNumber_self rfl (Bool.and_eq_true_iff.2 h)
    all_goals exact nofun
  | .text s, _ => by rw [equal, beq_self_eq_true]
  | .bytes bs, _ => by rw [equal, beq_self_eq_true]
  | .tuple items, h => by
    rw [equal]
    exact equalItems_self items h
  | .list items, h => by
    rw [equal]
    exact equalItems_self items h
  | .set items, h => by
    rw [equal, beq_self_eq_true, Bool.true_and]
    exact allWithin_self items h
  | .dict entries, h => by
    rw [equal, beq_self_eq_true, Bool.true_and]
    exact entriesWithin_self entries h

/-- Values equal themselves, each in its place. -/
theorem equalItems_self : ∀ vs : List Value, anyNaN vs = false → equalItems vs vs = true
  | [], _ => by rw [equalItems]
  | v :: vs, h => by
    rw [anyNaN, Bool.or_eq_false_iff] at h
    rw [equalItems, equal_self v h.1, equalItems_self vs h.2, Bool.and_self]

/-- Values are among themselves. -/
theorem allWithin_self : ∀ vs : List Value, anyNaN vs = false → allWithin vs vs = true
  | [], _ => by rw [allWithin]
  | v :: vs, h => by
    rw [anyNaN, Bool.or_eq_false_iff] at h
    rw [allWithin, List.any_cons, equal_self v h.1, Bool.true_or, Bool.true_and]
    exact allWithin_cons (allWithin_self vs h.2) v

/-- Entries are among themselves. -/
theorem entriesWithin_self :
    ∀ entries : List (Value × Value), anyEntryNaN entries = false →
      entriesWithin entries entries = true
  | [], _ => by rw [entriesWithin]
  | (k, v) :: entries, h => by
    rw [anyEntryNaN, Bool.or_eq_false_iff, Bool.or_eq_false_iff] at h
    rw [entriesWithin, List.any_cons, equal_self k h.1.1, equal_self v h.1.2, Bool.and_self,
      Bool.true_or, Bool.true_and]
    exact entriesWithin_cons (entriesWithin_self entries h.2) (k, v)

end

end Hashmark.Value
