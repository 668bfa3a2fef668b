import Hashmark.Proofs.Condition.Bits
import Hashmark.Proofs.Condition.Parts
import Hashmark.Proofs.Value.Arithmetic

/-!
# The size of integers in conditions

No condition gives an integer that is out of proportion. An operation on integers of `w` bits gives
one of `w + 1` bits at most, the size of a power, a shift and a product being checked
(`bounded_apply`, where `w` is not below the limit of that check). So an expression gives an integer
of one bit more than its operands at most, and never more than one bit for each expression that it
is put together from (`eval_bounded`), whatever is written in it and whatever its names lead to.
-/

namespace Hashmark.Condition

open Value (BinaryOperator UnaryOperator)

/-- A value is no integer, or one of at most `w` bits; truth values count as integers. -/
def Bounded (w : ℕ) (v : Value) : Prop :=
  ∀ k, v.toInt? = some k → bitLength k ≤ w

namespace Bounded

variable {w w' : ℕ} {v : Value}

/-- A value that is no integer has no bits to count. -/
theorem of_none (h : v.toInt? = none) : Bounded w v := by
  intro k hk
  rw [h] at hk
  cases hk

/-- An integer is bounded by its bits. -/
theorem of_bitLength {k : Int} (h : bitLength k ≤ w) : Bounded w (.int k) := by
  intro k' hk
  rw [← Option.some.inj hk]
  exact h

/-- A truth value has one bit at most. -/
theorem of_bool (hw : 1 ≤ w) (b : Bool) : Bounded w (.bool b) := by
  intro k hk
  rw [← Option.some.inj hk]
  exact (bitLength_bool b).trans hw

/-- A bound may be raised. -/
theorem mono (h : Bounded w v) (hw : w ≤ w') : Bounded w' v :=
  fun k hk => (h k hk).trans hw

end Bounded

/-- An operation gives no integer, or one of at most `w` bits. -/
def GivesBounded (w : ℕ) (result : Except Value.OperationFault Value) : Prop :=
  ∀ v, result = .ok v → Bounded w v

namespace GivesBounded

variable {w : ℕ}

/-- An operation that fails gives nothing. -/
theorem error (e : Value.OperationFault) : GivesBounded w (.error e) :=
  fun _ h => nomatch h

/-- A value that is bounded may be given. -/
theorem ok {v : Value} (h : Bounded w v) : GivesBounded w (.ok v) := by
  intro u hu
  rw [← Except.ok.inj hu]
  exact h

/-- A bound may be raised. -/
theorem mono {w' : ℕ} {result : Except Value.OperationFault Value} (h : GivesBounded w result)
    (hw : w ≤ w') : GivesBounded w' result :=
  fun v hv => (h v hv).mono hw

/-- An integer that has few bits may be given. -/
theorem int {k : Int} (h : bitLength k ≤ w) : GivesBounded w (.ok (.int k)) :=
  .ok (.of_bitLength h)

/-- An operation that gives no integer gives none of many bits. -/
theorem of_givesNoInt {result : Except Value.OperationFault Value}
    (h : Value.GivesNoInt result) : GivesBounded w result :=
  fun v hv => .of_none (h v hv)

variable {onInts : Int → Int → Except Value.OperationFault Value}
  {onFloats : Float → Float → Except Value.OperationFault Value}
  {onComplex : Number.Complex → Number.Complex → Except Value.OperationFault Value} {a b : Value}

/-- An operation on numbers is bounded if it is on integers and gives no integer on others. -/
theorem numeric
    (hints : ∀ m n, a.toInt? = some m → b.toInt? = some n → GivesBounded w (onInts m n))
    (hfloats : ∀ x y, Value.GivesNoInt (onFloats x y))
    (hcomplex : ∀ x y, Value.GivesNoInt (onComplex x y)) :
    GivesBounded w (Value.numeric onInts onFloats onComplex a b) :=
  fun _ h => Value.numeric_induction (fun m n u hm hn => hints m n hm hn u)
    (fun x y => of_givesNoInt (hfloats x y)) (fun x y => of_givesNoInt (hcomplex x y)) h

/-- An operation on real numbers is bounded if it is on integers and gives no integer on others. -/
theorem real
    (hints : ∀ m n, a.toInt? = some m → b.toInt? = some n → GivesBounded w (onInts m n))
    (hfloats : ∀ x y, Value.GivesNoInt (onFloats x y)) :
    GivesBounded w (Value.real onInts onFloats a b) :=
  fun _ h => Value.real_induction (fun m n u hm hn => hints m n hm hn u)
    (fun x y => of_givesNoInt (hfloats x y)) h

/-- An operation on integers is bounded if it is so on those that its operands are. -/
theorem withInts
    (hints : ∀ m n, a.toInt? = some m → b.toInt? = some n → GivesBounded w (onInts m n)) :
    GivesBounded w (Value.withInts onInts a b) :=
  fun _ h => Value.withInts_induction (fun m n u hm hn => hints m n hm hn u) h

end GivesBounded

section Operators

variable {a b : Value} {w : ℕ}

/-- A sum has one bit more than its terms at most. -/
theorem bounded_add (ha : Bounded w a) (hb : Bounded w b) :
    GivesBounded (w + 1) (Value.add a b) := by
  unfold Value.add
  split
  case h_5 =>
    refine .numeric (fun m n hm hn => ?_) (fun _ _ => .ok rfl) (fun _ _ => .ok rfl)
    exact .int (bitLength_add (ha m hm) (hb n hn))
  all_goals exact .of_givesNoInt (.ok rfl)

/-- A difference has one bit more than its terms at most. -/
theorem bounded_subtract (ha : Bounded w a) (hb : Bounded w b) :
    GivesBounded (w + 1) (Value.subtract a b) := by
  unfold Value.subtract
  split
  case h_1 => exact .of_givesNoInt (.ok rfl)
  case h_2 =>
    refine .numeric (fun m n hm hn => ?_) (fun _ _ => .ok rfl) (fun _ _ => .ok rfl)
    exact .int (bitLength_sub (ha m hm) (hb n hn))

/-- A product whose size has been checked has no more bits than the check allows. -/
theorem bounded_multiply (hcheck : checkSize .multiply a b = .ok ()) :
    GivesBounded maxBits (Value.multiply a b) := by
  intro v h
  obtain ⟨_, _, hrepeats⟩ | ⟨_, _, hrepeats⟩ | hproduct := Value.multiply_cases h
  · exact .of_none hrepeats.toInt?_eq_none
  · exact .of_none hrepeats.toInt?_eq_none
  · refine GivesBounded.numeric (fun m n hm hn => ?_) (fun _ _ => .ok rfl) (fun _ _ => .ok rfl)
      v hproduct
    simp only [checkSize, hm, hn] at hcheck
    split at hcheck
    case isTrue => cases hcheck
    case isFalse hsize => exact .int ((bitLength_mul m n).trans (Nat.not_lt.1 hsize))

/-- A quotient is no integer. -/
theorem givesNoInt_divide (a b : Value) : Value.GivesNoInt (Value.divide a b) := by
  intro v h
  refine Value.numeric_induction (fun m n u _ _ => Value.givesNoInt_divideInts m n u)
    (fun x y u => ?_) (fun x y u => Value.GivesNoInt.ofComplex _ u) h
  exact Value.GivesNoInt.ite (.error _) (.ok rfl) u

/-- A quotient that is rounded down has no more bits than the dividend. -/
theorem bounded_floorDivide (ha : Bounded w a) : GivesBounded w (Value.floorDivide a b) := by
  refine .real (fun m n hm _ => ?_) (fun _ _ => .ite (.error _) (.ok rfl))
  split
  · exact .error _
  · exact .int ((bitLength_fdiv m n).trans (ha m hm))

/-- A remainder has no more bits than the divisor. -/
theorem bounded_remainder (hb : Bounded w b) : GivesBounded w (Value.remainder a b) := by
  refine .real (fun m n _ hn => ?_) (fun _ _ => .ite (.error _) (.ok rfl))
  split
  case isTrue => exact .error _
  case isFalse hne => exact .int ((bitLength_fmod hne).trans (hb n hn))

/-- A power whose size has been checked has no more bits than the check allows. -/
theorem bounded_power (hcheck : checkSize .power a b = .ok ()) :
    GivesBounded maxBits (Value.power a b) := by
  refine .numeric (fun m n hm hn => ?_) Value.givesNoInt_powFloat (fun _ _ => .ofComplex _)
  unfold Value.powInts
  split
  case isFalse =>
    -- A negative exponent makes the power one of floating point numbers.
    intro v h
    obtain ⟨x, h⟩ := Value.exists_of_toFloat_bind h
    obtain ⟨y, h⟩ := Value.exists_of_toFloat_bind h
    exact .of_none (Value.givesNoInt_powFloat x y v h)
  case isTrue hnonneg =>
    refine .int ?_
    obtain hone | ⟨hlarge, hpos, hbits⟩ := bitLength_powNat m n.toNat
    · exact hone.trans (by decide)
    -- The check is made exactly where the power is multiplied out.
    refine hbits.trans ?_
    simp only [checkSize, hm, hn] at hcheck
    split at hcheck
    case isTrue => cases hcheck
    case isFalse hsize =>
      have hn : ((n.toNat : ℕ) : Int) = n := Int.toNat_of_nonneg hnonneg
      simp only [Bool.and_eq_true, decide_eq_true_eq, not_and, Int.not_lt] at hsize
      have hle := hsize ⟨by omega, hlarge⟩
      rw [← hn] at hle
      exact_mod_cast hle

/-- Bits moved up are no more than the check allows. -/
theorem bounded_shiftLeft (hcheck : checkSize .shiftLeft a b = .ok ()) :
    GivesBounded maxBits (Value.shiftLeft a b) := by
  refine .withInts fun m n hm hn => ?_
  split
  case isTrue => exact .error _
  case isFalse hnonneg =>
    refine .int ?_
    split
    case isTrue => decide
    case isFalse hne =>
      refine (bitLength_shiftLeft m n.toNat).trans ?_
      simp only [checkSize, hm, hn] at hcheck
      split at hcheck
      case isTrue => cases hcheck
      case isFalse hsize =>
        simp only [Bool.and_eq_true, decide_eq_true_eq, not_and, Int.not_lt] at hsize
        have hle := hsize hne
        omega

/-- Bits moved down are no more than there were. -/
theorem bounded_shiftRight (ha : Bounded w a) : GivesBounded w (Value.shiftRight a b) := by
  refine .withInts fun m n hm _ => ?_
  split
  · exact .error _
  · exact .int ((bitLength_shiftRight m _).trans (ha m hm))

/-- An operation on truth values or on bits is bounded if it is on bits. -/
theorem bounded_onBits {onBools : Bool → Bool → Bool} {onInts : Int → Int → Int}
    (hints : ∀ m n, a.toInt? = some m → b.toInt? = some n → bitLength (onInts m n) ≤ w + 1) :
    GivesBounded (w + 1) (Value.onBits onBools onInts a b) := by
  unfold Value.onBits
  split
  · exact .ok (.of_bool (Nat.le_add_left 1 w) _)
  · exact .withInts fun m n hm hn => .int (hints m n hm hn)

/-- The bits of either integer are one more than those of each at most. -/
theorem bounded_bitOr (ha : Bounded w a) (hb : Bounded w b) :
    GivesBounded (w + 1) (Value.bitOr a b) := by
  unfold Value.bitOr
  split
  · exact .of_givesNoInt (.ok rfl)
  · exact .of_givesNoInt (.ok rfl)
  · exact bounded_onBits fun m n hm hn => bitLength_orInt (ha m hm) (hb n hn)

/-- The bits of both integers are one more than those of each at most. -/
theorem bounded_bitAnd (ha : Bounded w a) (hb : Bounded w b) :
    GivesBounded (w + 1) (Value.bitAnd a b) := by
  unfold Value.bitAnd
  split
  · exact .of_givesNoInt (.ok rfl)
  · exact bounded_onBits fun m n hm hn => bitLength_andInt (ha m hm) (hb n hn)

/-- The bits that one integer has and the other has not are one more than those of each at most. -/
theorem bounded_bitXor (ha : Bounded w a) (hb : Bounded w b) :
    GivesBounded (w + 1) (Value.bitXor a b) := by
  unfold Value.bitXor
  split
  · exact .of_givesNoInt (.ok rfl)
  · exact bounded_onBits fun m n hm hn => bitLength_xorInt (ha m hm) (hb n hn)

/-- The result of an operator has one bit more than its operands at most, if the limit of the check
is not above these and the size of the result has been checked. -/
theorem bounded_apply (operator : BinaryOperator) (hw : maxBits ≤ w) (ha : Bounded w a)
    (hb : Bounded w b) (hcheck : checkSize operator a b = .ok ()) :
    GivesBounded (w + 1) (operator.apply a b) := by
  have hlimit : maxBits ≤ w + 1 := Nat.le_succ_of_le hw
  have hsucc : w ≤ w + 1 := Nat.le_succ w
  cases operator with
  | add => exact bounded_add ha hb
  | subtract => exact bounded_subtract ha hb
  | multiply => exact (bounded_multiply hcheck).mono hlimit
  | divide => exact .of_givesNoInt (givesNoInt_divide a b)
  | floorDivide => exact (bounded_floorDivide ha).mono hsucc
  | remainder => exact (bounded_remainder hb).mono hsucc
  | power => exact (bounded_power hcheck).mono hlimit
  | shiftLeft => exact (bounded_shiftLeft hcheck).mono hlimit
  | shiftRight => exact (bounded_shiftRight ha).mono hsucc
  | bitOr => exact bounded_bitOr ha hb
  | bitAnd => exact bounded_bitAnd ha hb
  | bitXor => exact bounded_bitXor ha hb
  | matrixMultiply => exact .error _

/-- The result of an operator has one bit more than its operand at most. -/
theorem bounded_applyUnary (operator : UnaryOperator) (ha : Bounded w a) :
    GivesBounded (w + 1) (operator.apply a) := by
  cases operator with
  | not => exact .ok (.of_bool (Nat.le_add_left 1 w) _)
  | minus =>
    simp only [UnaryOperator.apply]
    split
    case h_1 n hn =>
      refine .int ?_
      rw [bitLength_neg]
      exact (ha n (Value.toInt?_of_toNumeric? hn)).trans (Nat.le_succ w)
    all_goals first
      | exact .error _
      | exact .of_givesNoInt (.ok rfl)
  | plus =>
    simp only [UnaryOperator.apply]
    split
    case h_1 n hn => exact .int ((ha n (Value.toInt?_of_toNumeric? hn)).trans (Nat.le_succ w))
    all_goals first
      | exact .error _
      | exact .of_givesNoInt (.ok rfl)
  | invert =>
    simp only [UnaryOperator.apply]
    split
    case h_1 n hn => exact .int (bitLength_invert (ha n hn))
    case h_2 => exact .error _

end Operators

section Expression

variable {resolve : Resolver} {e : Expr} {bits : ℕ}

/-- Every expression within another gives an integer of at most one bit for each expression that it
is made of, besides those that literals and names have or the check allows. -/
theorem evalOperand_bounded
    (hliteral : ∀ v, Expr.Within (.constant v) e → Bounded bits v)
    (hname : ∀ name v shared, Expr.Within (.name name) e → resolve name = .found v shared →
      Bounded bits v) :
    ∀ d, Expr.Within d e → ∀ v, evalOperand resolve d = .ok v →
      Bounded (max bits maxBits + d.size) v.value := by
  refine Expr.Within.induction fun d hd ih v hv => ?_
  -- A part is smaller, which leaves a bit for what is done with it.
  obtain ⟨size, hsize⟩ : ∃ size, d.size = size + 1 := ⟨_, (Expr.size_eq d).trans (Nat.add_comm _ _)⟩
  have hpart : ∀ part ∈ d.parts, ∀ u, evalOperand resolve part = .ok u →
      Bounded (max bits maxBits + size) u.value := by
    intro part hmem u hu
    have hlt := Expr.size_lt_of_mem_parts hmem
    exact (ih part hmem u hu).mono (by omega)
  have hbits : bits ≤ max bits maxBits + size + 1 := by omega
  rw [hsize, ← Nat.add_assoc]
  have horigin := origin_of_evalOperand hv
  generalize v.value = given at horigin ⊢
  cases horigin with
  | literal => exact (hliteral _ hd).mono hbits
  | name h => exact (hname _ _ _ hd h).mono hbits
  | display => exact .of_none rfl
  | test _ b => exact .of_bool (Nat.le_add_left 1 _) b
  | @unary operator operand a _ hoperand h =>
    have ha := hpart operand (List.mem_singleton_self _) a hoperand
    exact bounded_applyUnary operator ha _ h
  | @binary operator left right a b _ hleft hright hcheck h =>
    have ha := hpart left List.mem_cons_self a hleft
    have hb := hpart right (List.mem_cons_of_mem _ List.mem_cons_self) b hright
    exact bounded_apply operator (by omega) ha hb hcheck _ h
  | part hmem h => exact (hpart _ hmem _ h).mono (Nat.le_succ _)

end Expression

/-- No condition gives a huge integer. In an expression that is made of `n` expressions, if no
literal and nothing that a name leads to is an integer of more than `bits` bits, then every
expression gives an integer of at most `n` bits more than that, or than the limit of the check if it
is higher, or no integer at all. This holds of all expressions within it, whether evaluation gets to
them or not, and so of the value of every text that writes the expression. -/
theorem eval_bounded (resolve : Resolver) (e : Expr) (bits : ℕ)
    (hliteral : ∀ v, Expr.Within (.constant v) e → Bounded bits v)
    (hname : ∀ name v shared, Expr.Within (.name name) e → resolve name = .found v shared →
      Bounded bits v) :
    (∀ d v, Expr.Within d e → eval resolve d = .ok v →
      Bounded (max bits maxBits + e.size) v) ∧
    (∀ text v, parse? (Text.strip text).toList = some e → evaluate resolve text = .ok v →
      Bounded (max bits maxBits + e.size) v) := by
  have hwithin : ∀ d v, Expr.Within d e → eval resolve d = .ok v →
      Bounded (max bits maxBits + e.size) v := by
    intro d v hd hv
    obtain ⟨a, ha, rfl⟩ := eval_eq_ok_iff.1 hv
    have hsize := hd.size_le
    exact (evalOperand_bounded hliteral hname d hd a ha).mono (by omega)
  refine ⟨hwithin, fun text v hparse hv => ?_⟩
  unfold evaluate at hv
  rw [hparse] at hv
  cases heval : eval resolve e with
  | error reason =>
    simp only [heval] at hv
    cases hv
  | ok u =>
    simp only [heval] at hv
    rw [← Except.ok.inj hv]
    exact hwithin e u .refl heval

/-- A number whose bits are moved up. -/
theorem eval_bounded_shift :
    let resolve : Resolver := fun _ => .found (.int (-5)) true
    let e : Expr := .binary .shiftLeft (.name "N") (.constant (.int 1000))
    ((eval resolve e).toOption.bind Value.toInt?).map bitLength = some 1003 ∧
      ∀ v, eval resolve e = .ok v → Bounded (max 10 maxBits + 3) v := by
  intro resolve e
  refine ⟨by decide +kernel, fun v hv => ?_⟩
  refine (eval_bounded resolve e 10 (fun u hu => ?_) fun name u shared _ hu => ?_).1 e v .refl hv
  · -- The only literal is the number of places.
    obtain h | ⟨part, hpart, hu⟩ := Expr.within_iff.1 hu
    · change Expr.constant u = .binary _ _ _ at h
      cases h
    obtain rfl | rfl := List.mem_pair.1 hpart
    · obtain h | ⟨_, hnone, _⟩ := Expr.within_iff.1 hu
      · cases h
      · cases hnone
    · obtain h | ⟨_, hnone, _⟩ := Expr.within_iff.1 hu
      · cases h
        exact .of_bitLength (by decide)
      · cases hnone
  · cases hu
    exact .of_bitLength (by decide)

end Hashmark.Condition
