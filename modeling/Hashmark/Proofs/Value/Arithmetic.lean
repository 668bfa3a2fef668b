import Hashmark.Value.Arithmetic

/-!
# What operations give

An operation on numbers brings its operands to one kind and is then one on integers, on floating
point numbers or on complex numbers, so that what holds of the results of these three holds of its
result (`numeric_induction`). Only operations on integers give integers, except that a power of
integers may be a floating point number.

A product may be a repeated sequence: one of the same kind whose members are those of the first as
often as the count says, which is not at all for a negative count (`multiply_cases`). So its length
is that of the first times the count (`Repeats.length`).
-/

namespace Hashmark.Value

section Numeric

variable {onInts : Int → Int → Except OperationFault Value}
  {onFloats : Float → Float → Except OperationFault Value}
  {onComplex : Number.Complex → Number.Complex → Except OperationFault Value}
  {a b v : Value} {motive : Value → Prop}

/-- A value that is an integer as a number is one. -/
theorem toInt?_of_toNumeric? {n : Int} (h : a.toNumeric? = some (.int n)) : a.toInt? = some n := by
  cases a with
  | bool b | int m =>
    simp only [toNumeric?, Option.some.injEq, Numeric.int.injEq] at h
    rw [toInt?, h]
  | _ => cases h

/-- An integer counts as the number that it is. -/
theorem toNumeric?_of_toInt? {n : Int} (h : a.toInt? = some n) : a.toNumeric? = some (.int n) := by
  cases a with
  | bool b | int m =>
    rw [toInt?, Option.some.injEq] at h
    rw [toNumeric?, h]
  | _ => cases h

/-- An operation on numbers is that on integers if these are integers. -/
theorem numeric_of_toInt? {m n : Int} (hm : a.toInt? = some m) (hn : b.toInt? = some n) :
    numeric onInts onFloats onComplex a b = onInts m n := by
  rw [numeric, toNumeric?_of_toInt? hm, toNumeric?_of_toInt? hn]
  rfl

/-- What is done with the number nearest to an integer is done with some number. -/
theorem exists_of_toFloat_bind {m : Int} {next : Float → Except OperationFault Value}
    (h : (do next (← toFloat m)) = .ok v) : ∃ x, next x = .ok v := by
  cases hm : toFloat m with
  | error e =>
    rw [hm] at h
    cases h
  | ok x =>
    rw [hm] at h
    exact ⟨x, h⟩

/-- What holds of the results of an operation on each kind of numbers holds of its results. -/
theorem numeric_induction
    (hints : ∀ m n u, a.toInt? = some m → b.toInt? = some n → onInts m n = .ok u → motive u)
    (hfloats : ∀ x y u, onFloats x y = .ok u → motive u)
    (hcomplex : ∀ x y u, onComplex x y = .ok u → motive u)
    (h : numeric onInts onFloats onComplex a b = .ok v) : motive v := by
  unfold numeric at h
  split at h
  case h_2 => cases h
  case h_1 m n hm hn =>
    -- Nine pairs of kinds; an integer beside another kind is rounded to a number of that kind.
    cases m with
    | int m =>
      cases n with
      | int n => exact hints m n v (toInt?_of_toNumeric? hm) (toInt?_of_toNumeric? hn) h
      | float y =>
        obtain ⟨x, hx⟩ := exists_of_toFloat_bind h
        exact hfloats x y v hx
      | complex w =>
        obtain ⟨x, hx⟩ := exists_of_toFloat_bind h
        exact hcomplex _ w v hx
    | float x =>
      cases n with
      | int n =>
        obtain ⟨y, hy⟩ := exists_of_toFloat_bind h
        exact hfloats x y v hy
      | float y => exact hfloats x y v h
      | complex w => exact hcomplex _ w v h
    | complex z =>
      cases n with
      | int n =>
        obtain ⟨y, hy⟩ := exists_of_toFloat_bind h
        exact hcomplex z _ v hy
      | float y => exact hcomplex z _ v h
      | complex w => exact hcomplex z w v h

/-- What holds of the results of an operation on integers and on floating point numbers holds of its
results. -/
theorem real_induction
    (hints : ∀ m n u, a.toInt? = some m → b.toInt? = some n → onInts m n = .ok u → motive u)
    (hfloats : ∀ x y u, onFloats x y = .ok u → motive u)
    (h : real onInts onFloats a b = .ok v) : motive v := by
  unfold real at h
  split at h
  · cases h
  · cases h
  · refine numeric_induction hints hfloats (fun x y u hcomplex => ?_) h
    cases hcomplex

/-- What holds of the results of an operation on integers holds of its results. -/
theorem withInts_induction
    (hints : ∀ m n u, a.toInt? = some m → b.toInt? = some n → onInts m n = .ok u → motive u)
    (h : withInts onInts a b = .ok v) : motive v := by
  unfold withInts at h
  split at h
  case h_1 m n hm hn => exact hints m n v hm hn h
  case h_2 => cases h

end Numeric

/-- An operation does not give an integer. -/
def GivesNoInt (result : Except OperationFault Value) : Prop :=
  ∀ v, result = .ok v → v.toInt? = Option.none

namespace GivesNoInt

/-- An operation that fails gives nothing. -/
theorem error (e : OperationFault) : GivesNoInt (.error e) :=
  fun _ h => nomatch h

/-- A value of another kind is no integer. -/
theorem ok {v : Value} (h : v.toInt? = Option.none) : GivesNoInt (.ok v) := by
  intro u hu
  rw [← Except.ok.inj hu]
  exact h

/-- A complex number is no integer. -/
theorem ofComplex (z : Except Number.Undefined Number.Complex) : GivesNoInt (ofComplex z) := by
  intro v h
  cases z with
  | ok z =>
    rw [← Except.ok.inj h]
    rfl
  | error e => cases h

/-- Of two operations of which neither gives an integer, one is chosen. -/
theorem ite {c : Prop} [Decidable c] {one other : Except OperationFault Value}
    (hone : GivesNoInt one) (hother : GivesNoInt other) :
    GivesNoInt (if c then one else other) := by
  by_cases hc : c
  · rwa [if_pos hc]
  · rwa [if_neg hc]

end GivesNoInt

/-- A power of floating point numbers is no integer. -/
theorem givesNoInt_powFloat (x y : Float) : GivesNoInt (powFloat x y) := by
  have hfloat : ∀ z : Float, GivesNoInt (.ok (.float z)) := fun _ => .ok rfl
  unfold powFloat
  -- One for each case of the definition, those of numbers that are none or infinite first.
  refine .ite (hfloat _) (.ite (hfloat _) (.ite (hfloat _) (.ite (hfloat _) (.ite (hfloat _) ?_))))
  refine .ite (.ite (.error _) (hfloat _)) (.ite (.ofComplex _) ?_)
  exact .ite (.error _) (hfloat _)

/-- A quotient of integers is no integer. -/
theorem givesNoInt_divideInts (m n : Int) : GivesNoInt (divideInts m n) := by
  unfold divideInts
  refine .ite (.error _) ?_
  split
  · exact .ok rfl
  · exact .error _

/-- The number of members of a sequence: a text, bytes, a tuple, or a list. -/
def sequenceLength? : Value → Option Nat
  | .text s => some s.length
  | .bytes bs => some bs.length
  | .tuple items => some items.length
  | .list items => some items.length
  | _ => Option.none

/-- A sequence consists of the members of another `count` times. -/
inductive Repeats (count : Nat) : Value → Value → Prop
  /-- A text of characters. -/
  | text (s : String) : Repeats count (.text s) (.text (String.ofList (repeatItems s.toList count)))
  /-- A sequence of bytes. -/
  | bytes (bs : List UInt8) : Repeats count (.bytes bs) (.bytes (repeatItems bs count))
  /-- A tuple of values. -/
  | tuple (items : List Value) : Repeats count (.tuple items) (.tuple (repeatItems items count))
  /-- A list of values. -/
  | list (items : List Value) : Repeats count (.list items) (.list (repeatItems items count))

/-- Members are repeated as often as the count says. -/
theorem length_repeatItems {α : Type} (items : List α) (count : Nat) :
    (repeatItems items count).length = items.length * count := by
  rw [repeatItems, List.length_flatten, List.map_replicate, List.sum_replicate_nat, Nat.mul_comm]

/-- Nothing is left of an empty sequence. -/
theorem repeatItems_nil {α : Type} (count : Nat) : repeatItems ([] : List α) count = [] :=
  List.eq_nil_of_length_eq_zero (by rw [length_repeatItems, List.length_nil, Nat.zero_mul])

/-- A repeated sequence has the length of the first as often as the count says. -/
theorem Repeats.length {count : Nat} {a v : Value} (h : Repeats count a v) :
    ∃ length, a.sequenceLength? = some length ∧ v.sequenceLength? = some (length * count) := by
  cases h with
  | text s =>
    refine ⟨_, rfl, ?_⟩
    rw [sequenceLength?, String.length_ofList, length_repeatItems, String.length_toList]
  | bytes bs => exact ⟨_, rfl, congrArg some (length_repeatItems bs count)⟩
  | tuple items => exact ⟨_, rfl, congrArg some (length_repeatItems items count)⟩
  | list items => exact ⟨_, rfl, congrArg some (length_repeatItems items count)⟩

/-- A repeated sequence is no integer. -/
theorem Repeats.toInt?_eq_none {count : Nat} {a v : Value} (h : Repeats count a v) :
    v.toInt? = Option.none := by
  cases h <;> rfl

/-- What is made of repeated members, if there are not too many, is made of the members as often as
the count says. -/
theorem eq_of_guarded {α : Type} (make : List α → Value) {items : List α} {count : Nat} {v : Value}
    (h : (if items.isEmpty then Except.ok (make [])
      else if lengthLimit < items.length * count then .error OperationFault.outOfMemory
      else .ok (make (repeatItems items count))) = .ok v) :
    v = make (repeatItems items count) := by
  by_cases hempty : items.isEmpty = true
  · rw [if_pos hempty] at h
    rw [List.isEmpty_iff.1 hempty, repeatItems_nil]
    exact (Except.ok.inj h).symm
  rw [if_neg hempty] at h
  split at h
  · cases h
  · exact (Except.ok.inj h).symm

/-- Repeating a sequence gives one of its kind, with its members as often as the count says. -/
theorem repeats_of_repeatSequence {count : Int} {a v : Value}
    (h : repeatSequence count a = .ok v) : Repeats count.toNat a v := by
  unfold repeatSequence at h
  split at h
  · cases h
  cases a with
  | text s =>
    dsimp only at h
    rw [eq_of_guarded (fun cs => .text (String.ofList cs)) h]
    exact .text s
  | bytes bs =>
    dsimp only at h
    rw [eq_of_guarded .bytes h]
    exact .bytes bs
  | tuple items =>
    dsimp only at h
    rw [eq_of_guarded .tuple h]
    exact .tuple items
  | list items =>
    dsimp only at h
    rw [eq_of_guarded .list h]
    exact .list items
  | _ => cases h

/-- A list is repeated as often as the count says if there is room for the result. -/
theorem repeatSequence_list {items : List Value} {count : Int} (hlow : -countLimit ≤ count)
    (hhigh : count < countLimit) (hroom : items.length * count.toNat ≤ lengthLimit) :
    repeatSequence count (.list items) = .ok (.list (repeatItems items count.toNat)) := by
  have hcount : ¬(decide (countLimit ≤ count) || decide (count < -countLimit)) = true := by
    rw [Bool.or_eq_true, decide_eq_true_eq, decide_eq_true_eq]
    omega
  unfold repeatSequence
  rw [if_neg hcount]
  cases items with
  | nil =>
    rw [repeatItems_nil]
    rfl
  | cons item items =>
    dsimp only
    rw [if_neg (by simp), if_neg (Nat.not_lt.2 hroom)]

/-- An integer is no sequence. -/
theorem isSequence_of_toInt? {a : Value} {n : Int} (h : a.toInt? = some n) :
    a.isSequence = false := by
  cases a with
  | bool b | int m => rfl
  | _ => cases h

/-- The product of integers is one of numbers. -/
theorem multiply_of_toInt? {a b : Value} {m n : Int} (hm : a.toInt? = some m)
    (hn : b.toInt? = some n) : multiply a b = .ok (.int (m * n)) := by
  simp only [multiply, isSequence_of_toInt? hm, isSequence_of_toInt? hn]
  exact numeric_of_toInt? hm hn

/-- A product is a repeated sequence or a product of numbers. -/
theorem multiply_cases {a b v : Value} (h : multiply a b = .ok v) :
    (∃ count, b.toInt? = some count ∧ Repeats count.toNat a v) ∨
      (∃ count, a.toInt? = some count ∧ Repeats count.toNat b v) ∨
      numeric (fun m n => .ok (.int (m * n))) (fun x y => .ok (.float (x * y)))
        (fun z w => .ok (.complex (z.mul w))) a b = .ok v := by
  unfold multiply at h
  split at h
  · exact .inl ⟨_, ‹b.toInt? = some _›, repeats_of_repeatSequence h⟩
  · exact .inr (.inl ⟨_, ‹a.toInt? = some _›, repeats_of_repeatSequence h⟩)
  · exact .inr (.inr h)

end Hashmark.Value
