import Hashmark.Condition.Evaluate
import Mathlib.Algebra.Order.Ring.Nat
import Mathlib.Tactic.Ring

/-!
# The number of bits of a result

How many bits the result of an operation on integers has, given how many its operands have. A power,
a shift to the left and a product may have many more, which is why their size is checked before they
are computed; every other operation adds one bit at most.

A number of bits bounds the size of an integer (`bitLength_le_iff`), so that each of these facts is
one about sizes and powers of two.
-/

namespace Hashmark.Condition

/-- An integer has no more than `w` bits exactly if its size is below the `w`-th power of two. -/
theorem bitLength_le_iff {n : Int} {w : ℕ} : bitLength n ≤ w ↔ n.natAbs < 2 ^ w := by
  unfold bitLength
  by_cases hn : n = 0
  · rw [if_pos hn, hn]
    exact iff_of_true (Nat.zero_le w) (Nat.two_pow_pos w)
  · rw [if_neg hn, Nat.succ_le_iff]
    exact Nat.log2_lt (Int.natAbs_ne_zero.2 hn)

/-- The size of an integer is below the power of two with as many bits. -/
theorem natAbs_lt_two_pow (n : Int) : n.natAbs < 2 ^ bitLength n :=
  bitLength_le_iff.1 (Nat.le_refl _)

/-- An integer of no larger size has no more bits. -/
theorem bitLength_le_of_natAbs_le {m n : Int} (h : m.natAbs ≤ n.natAbs) :
    bitLength m ≤ bitLength n :=
  bitLength_le_iff.2 (Nat.lt_of_le_of_lt h (natAbs_lt_two_pow n))

/-- A size that is at most a power of two takes one bit more than the exponent at most. -/
theorem bitLength_le_succ {n : Int} {w : ℕ} (h : n.natAbs ≤ 2 ^ w) : bitLength n ≤ w + 1 := by
  rw [bitLength_le_iff, pow_succ]
  have hpos := Nat.two_pow_pos w
  omega

/-- A truth value counts as an integer of one bit at most. -/
theorem bitLength_bool (b : Bool) : bitLength (if b then 1 else 0) ≤ 1 := by
  cases b <;> decide

/-- The change of sign keeps the number of bits. -/
theorem bitLength_neg (n : Int) : bitLength (-n) = bitLength n := by
  simp only [bitLength, Int.natAbs_neg, neg_eq_zero]

section Bounded

variable {m n : Int} {w : ℕ}

/-- A sum has one bit more than its terms at most. -/
theorem bitLength_add (hm : bitLength m ≤ w) (hn : bitLength n ≤ w) :
    bitLength (m + n) ≤ w + 1 := by
  rw [bitLength_le_iff] at hm hn ⊢
  calc (m + n).natAbs
      ≤ m.natAbs + n.natAbs := Int.natAbs_add_le m n
    _ < 2 ^ w + 2 ^ w := Nat.add_lt_add hm hn
    _ = 2 ^ (w + 1) := by rw [pow_succ, Nat.mul_two]

/-- A difference has one bit more than its terms at most. -/
theorem bitLength_sub (hm : bitLength m ≤ w) (hn : bitLength n ≤ w) :
    bitLength (m - n) ≤ w + 1 := by
  rw [sub_eq_add_neg]
  exact bitLength_add hm (by rwa [bitLength_neg])

/-- The bitwise complement has one bit more at most. -/
theorem bitLength_invert (hn : bitLength n ≤ w) : bitLength (-n - 1) ≤ w + 1 := by
  rw [bitLength_le_iff] at hn
  refine bitLength_le_succ ?_
  omega

/-- The operations on digits have one bit more than their operands at most, if on natural numbers
they do not leave the numbers below a power of two or come to its opposite. -/
theorem bitLength_bitwise {both left right neither : ℕ → ℕ → Int}
    (hboth : ∀ a b, a < 2 ^ w → b < 2 ^ w → (both a b).natAbs ≤ 2 ^ w)
    (hleft : ∀ a b, a < 2 ^ w → b < 2 ^ w → (left a b).natAbs ≤ 2 ^ w)
    (hright : ∀ a b, a < 2 ^ w → b < 2 ^ w → (right a b).natAbs ≤ 2 ^ w)
    (hneither : ∀ a b, a < 2 ^ w → b < 2 ^ w → (neither a b).natAbs ≤ 2 ^ w)
    (hm : bitLength m ≤ w) (hn : bitLength n ≤ w) :
    bitLength (Value.bitwise both left right neither m n) ≤ w + 1 := by
  rw [bitLength_le_iff] at hm hn
  refine bitLength_le_succ ?_
  -- A negative integer is told by the digits of its complement, which is smaller by one.
  cases m with
  | ofNat a =>
    cases n with
    | ofNat b => exact hboth a b hm hn
    | negSucc b => exact hright a b hm (Nat.lt_of_succ_lt hn)
  | negSucc a =>
    cases n with
    | ofNat b => exact hleft a b (Nat.lt_of_succ_lt hm) hn
    | negSucc b => exact hneither a b (Nat.lt_of_succ_lt hm) (Nat.lt_of_succ_lt hn)

/-- Digits that are not digits of another number are below the same power of two. -/
theorem without_lt {a : ℕ} (b : ℕ) (ha : a < 2 ^ w) : Value.without a b < 2 ^ w := by
  have hand : a &&& b < 2 ^ w := Nat.lt_of_le_of_lt Nat.and_le_left ha
  exact Nat.xor_lt_two_pow ha hand

/-- The bits that both integers have are one more than those of each at most. -/
theorem bitLength_andInt (hm : bitLength m ≤ w) (hn : bitLength n ≤ w) :
    bitLength (Value.andInt m n) ≤ w + 1 :=
  bitLength_bitwise (fun a _ _ hb => (Nat.and_lt_two_pow a hb).le)
    (fun a _ _ hb => (without_lt a hb).le) (fun _ b ha _ => (without_lt b ha).le)
    (fun _ _ ha hb => Nat.or_lt_two_pow ha hb) hm hn

/-- The bits that either integer has are one more than those of each at most. -/
theorem bitLength_orInt (hm : bitLength m ≤ w) (hn : bitLength n ≤ w) :
    bitLength (Value.orInt m n) ≤ w + 1 :=
  bitLength_bitwise (fun _ _ ha hb => (Nat.or_lt_two_pow ha hb).le)
    (fun _ b ha _ => without_lt b ha) (fun a _ _ hb => without_lt a hb)
    (fun a _ _ hb => Nat.and_lt_two_pow a hb) hm hn

/-- The bits that one integer has and the other has not are one more than those of each at most. -/
theorem bitLength_xorInt (hm : bitLength m ≤ w) (hn : bitLength n ≤ w) :
    bitLength (Value.xorInt m n) ≤ w + 1 :=
  bitLength_bitwise (fun _ _ ha hb => (Nat.xor_lt_two_pow ha hb).le)
    (fun _ _ ha hb => Nat.xor_lt_two_pow ha hb) (fun _ _ ha hb => Nat.xor_lt_two_pow ha hb)
    (fun _ _ ha hb => (Nat.xor_lt_two_pow ha hb).le) hm hn

end Bounded

/-- A quotient that is rounded down has no more bits than the dividend. -/
theorem bitLength_fdiv (m n : Int) : bitLength (m.fdiv n) ≤ bitLength m :=
  bitLength_le_of_natAbs_le (Int.natAbs_fdiv_le_natAbs m n)

/-- A remainder has no more bits than the divisor. -/
theorem bitLength_fmod {m n : Int} (hn : n ≠ 0) : bitLength (m.fmod n) ≤ bitLength n := by
  refine bitLength_le_of_natAbs_le ?_
  -- The remainder is that of the Euclidean division, or differs from it by the divisor.
  have hnonneg := Int.emod_nonneg m hn
  have hlt := Int.emod_lt m hn
  rw [Int.fmod_eq_emod]
  split
  case isTrue => omega
  case isFalse hnegative => omega

/-- Bits moved down are no more than there were. -/
theorem bitLength_shiftRight (m : Int) (n : ℕ) : bitLength (m >>> n) ≤ bitLength m := by
  rw [Int.shiftRight_eq_div_pow]
  exact bitLength_le_of_natAbs_le (Int.natAbs_ediv_le_natAbs _ _)

/-- A product has the bits of both factors together at most. -/
theorem bitLength_mul (m n : Int) : bitLength (m * n) ≤ bitLength m + bitLength n := by
  rw [bitLength_le_iff]
  calc (m * n).natAbs
      = m.natAbs * n.natAbs := Int.natAbs_mul m n
    _ < 2 ^ bitLength m * 2 ^ bitLength n :=
      Nat.mul_lt_mul'' (natAbs_lt_two_pow m) (natAbs_lt_two_pow n)
    _ = 2 ^ (bitLength m + bitLength n) := (pow_add 2 _ _).symm

/-- Bits moved up are as many more as the places that they are moved by, at most. -/
theorem bitLength_shiftLeft (m : Int) (n : ℕ) :
    bitLength (m * (Nat.pow 2 n : ℕ)) ≤ bitLength m + n := by
  rw [bitLength_le_iff, Int.natAbs_mul, pow_add]
  exact Nat.mul_lt_mul_of_pos_right (natAbs_lt_two_pow m) (Nat.two_pow_pos n)

/-- A power with a positive exponent has the bits of the base as many times as that says, at
most. -/
theorem bitLength_pow_le (m : Int) {n : ℕ} (hn : 0 < n) : bitLength (m ^ n) ≤ bitLength m * n := by
  rw [bitLength_le_iff]
  calc (m ^ n).natAbs
      = m.natAbs ^ n := Int.natAbs_pow m n
    _ < (2 ^ bitLength m) ^ n := Nat.pow_lt_pow_left (natAbs_lt_two_pow m) hn.ne'
    _ = 2 ^ (bitLength m * n) := (pow_mul 2 _ _).symm

/-- A power has the bits of the base as many times as the exponent says, at most; only that of an
exponent of zero and those of zero, one and minus one have more. -/
theorem bitLength_powNat (m : Int) (n : ℕ) :
    bitLength (Value.powNat m n) ≤ 1 ∨
      1 < m.natAbs ∧ 0 < n ∧ bitLength (Value.powNat m n) ≤ bitLength m * n := by
  unfold Value.powNat
  -- Zero, one and minus one come first, as in the definition.
  by_cases hzero : m = 0
  · rw [if_pos hzero]
    left
    split <;> decide
  by_cases hone : m = 1
  · rw [if_neg hzero, if_pos hone]
    exact .inl (by decide)
  by_cases hminus : m = -1
  · rw [if_neg hzero, if_neg hone, if_pos hminus]
    left
    split <;> decide
  rw [if_neg hzero, if_neg hone, if_neg hminus]
  have hlarge : 1 < m.natAbs := by omega
  rcases Nat.eq_zero_or_pos n with rfl | hn
  · left
    show bitLength (m ^ 0) ≤ 1
    rw [pow_zero]
    decide
  · exact .inr ⟨hlarge, hn, bitLength_pow_le m hn⟩

end Hashmark.Condition
