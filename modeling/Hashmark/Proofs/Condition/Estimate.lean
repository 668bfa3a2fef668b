import Hashmark.Proofs.Condition.Bits
import Hashmark.Proofs.Value.Arithmetic

/-!
# How close the size check comes

The check of a shift, a product and a power knows the numbers of bits of the operands and nothing
else of them. From these the bits of a shifted integer are known exactly, those of a product but for
one, and those of a power up to the exponent, which is less than half of the estimate because a base
other than zero, one and minus one has two bits. The bounds from above are those of the bits of
results; here are the ones from below (`bitLength_shiftLeft_eq`, `add_le_bitLength_mul`,
`mul_lt_bitLength_pow`). So the check lets no result through that has too many bits, and what it
refuses would have had too many, or nearly so, or more than half (`checkSize_tight`).
-/

namespace Hashmark

namespace Value

section Ints

variable {a b : Value} {m n : Int}

/-- An integer shifted to the left. -/
theorem shiftLeft_of_toInt? (hm : a.toInt? = some m) (hn : b.toInt? = some n) (hnonneg : 0 ≤ n) :
    shiftLeft a b = .ok (.int (m * 2 ^ n.toNat)) := by
  have hpow : ((Nat.pow 2 n.toNat : ℕ) : Int) = 2 ^ n.toNat := Nat.cast_pow 2 n.toNat
  simp only [shiftLeft, withInts, hm, hn]
  rw [if_neg (Int.not_lt.2 hnonneg), hpow]
  by_cases hzero : m = 0
  · rw [if_pos hzero, hzero, Int.zero_mul]
  · rw [if_neg hzero]

/-- The power of an integer other than zero, one and minus one. -/
theorem power_of_toInt? (hm : a.toInt? = some m) (hn : b.toInt? = some n) (hlarge : 1 < m.natAbs)
    (hnonneg : 0 ≤ n) : power a b = .ok (.int (m ^ n.toNat)) := by
  have hpow : powNat m n.toNat = m ^ n.toNat := by
    rw [powNat, if_neg (by omega), if_neg (by omega), if_neg (by omega)]
    rfl
  rw [power, numeric_of_toInt? hm hn, powInts, if_pos hnonneg, hpow]

end Ints

end Value

namespace Condition

open Value (BinaryOperator)

/-- An integer has more than `w` bits exactly if its size reaches the `w`-th power of two. -/
theorem lt_bitLength_iff {n : Int} {w : ℕ} : w < bitLength n ↔ 2 ^ w ≤ n.natAbs := by
  rw [← Nat.not_le, bitLength_le_iff, Nat.not_lt]

/-- The size of an integer other than zero reaches the power of two with one bit less. -/
theorem exists_two_pow_le {n : Int} (hn : n ≠ 0) :
    ∃ w, bitLength n = w + 1 ∧ 2 ^ w ≤ n.natAbs := by
  refine ⟨n.natAbs.log2, ?_, Nat.log2_self_le (Int.natAbs_ne_zero.2 hn)⟩
  rw [bitLength, if_neg hn]

section Below

variable {m n : Int}

/-- Bits moved up are as many more as the places that they are moved by. -/
theorem bitLength_shiftLeft_eq (hm : m ≠ 0) (n : ℕ) : bitLength (m * 2 ^ n) = bitLength m + n := by
  obtain ⟨w, hw, hle⟩ := exists_two_pow_le hm
  have hpow : ((Nat.pow 2 n : ℕ) : Int) = 2 ^ n := Nat.cast_pow 2 n
  have habove := bitLength_shiftLeft m n
  rw [hpow] at habove
  have hbelow : w + n < bitLength (m * 2 ^ n) := by
    rw [lt_bitLength_iff]
    calc 2 ^ (w + n)
        = 2 ^ w * 2 ^ n := pow_add 2 w n
      _ ≤ m.natAbs * 2 ^ n := Nat.mul_le_mul_right _ hle
      _ = (m * 2 ^ n).natAbs := by rw [Int.natAbs_mul, Int.natAbs_pow]; rfl
  omega

/-- A product has the bits of both factors together, or one less. -/
theorem add_le_bitLength_mul (hm : m ≠ 0) (hn : n ≠ 0) :
    bitLength m + bitLength n ≤ bitLength (m * n) + 1 := by
  obtain ⟨v, hv, hvle⟩ := exists_two_pow_le hm
  obtain ⟨w, hw, hwle⟩ := exists_two_pow_le hn
  have hbelow : v + w < bitLength (m * n) := by
    rw [lt_bitLength_iff]
    calc 2 ^ (v + w)
        = 2 ^ v * 2 ^ w := pow_add 2 v w
      _ ≤ m.natAbs * n.natAbs := Nat.mul_le_mul hvle hwle
      _ = (m * n).natAbs := (Int.natAbs_mul m n).symm
  omega

/-- A power has more bits than those of the base but one, as many times as the exponent says. -/
theorem mul_lt_bitLength_pow {w : ℕ} (hw : 2 ^ w ≤ m.natAbs) (n : ℕ) :
    w * n < bitLength (m ^ n) := by
  rw [lt_bitLength_iff]
  calc 2 ^ (w * n)
      = (2 ^ w) ^ n := pow_mul 2 w n
    _ ≤ m.natAbs ^ n := Nat.pow_le_pow_left hw n
    _ = (m ^ n).natAbs := (Int.natAbs_pow m n).symm

/-- The bits of a base other than zero, one and minus one, as many times as the exponent says, are
less than twice those of the power. -/
theorem mul_lt_two_mul_bitLength_pow (hm : 1 < m.natAbs) (n : ℕ) :
    bitLength m * n < 2 * bitLength (m ^ n) := by
  obtain ⟨w, hw, hle⟩ := exists_two_pow_le (n := m) (by omega)
  have hbelow := mul_lt_bitLength_pow hle n
  -- The base has two bits at least, so that leaving one away leaves half of them.
  have htwo : 1 < bitLength m := lt_bitLength_iff.2 hm
  have hhalf : bitLength m * n ≤ 2 * (w * n) := by
    rw [← Nat.mul_assoc]
    exact Nat.mul_le_mul_right n (by omega)
  omega

end Below

/-- The size check refuses an operation. -/
def Refuses (operator : BinaryOperator) (left right : Value) : Prop :=
  ∃ e, checkSize operator left right = .error e

section Refuses

variable {left right : Value} {l r : Int}

/-- An operation that is not refused passes the check. -/
theorem not_refuses_iff {operator : BinaryOperator} :
    ¬Refuses operator left right ↔ checkSize operator left right = .ok () := by
  rw [Refuses]
  cases checkSize operator left right with
  | error e => simp
  | ok done => simp

/-- A shift is refused for the bits of the integer and the places that it is moved by. -/
theorem refuses_shiftLeft_iff (hl : left.toInt? = some l) (hr : right.toInt? = some r) :
    Refuses .shiftLeft left right ↔ l ≠ 0 ∧ (maxBits : Int) < bitLength l + r := by
  simp only [Refuses, checkSize, hl, hr]
  split
  case isTrue h => simpa using h
  case isFalse h => simpa using h

/-- A product is refused for the bits of its factors. -/
theorem refuses_multiply_iff (hl : left.toInt? = some l) (hr : right.toInt? = some r) :
    Refuses .multiply left right ↔ maxBits < bitLength l + bitLength r := by
  simp only [Refuses, checkSize, hl, hr]
  split
  case isTrue h => simpa using h
  case isFalse h => simpa using h

/-- A power is refused for the bits of the base and the exponent. -/
theorem refuses_power_iff (hl : left.toInt? = some l) (hr : right.toInt? = some r) :
    Refuses .power left right ↔
      0 < r ∧ 1 < l.natAbs ∧ (maxBits : Int) < bitLength l * r := by
  simp only [Refuses, checkSize, hl, hr]
  split
  case isTrue h => simpa [and_assoc] using h
  case isFalse h => simpa [and_assoc] using h

/-- The size check of integers, truth values among them, is tight on both sides. A shift of an
integer other than zero is refused exactly if the result has more than 65536 bits. A product of such
integers has at most 65536 bits if it is not refused, and at least as many if it is. A power with a
positive exponent, of a base other than zero, one and minus one, has at most 65536 bits if it is not
refused, and more than half as many if it is. Other powers are not refused, nor is a shift of
zero. -/
theorem checkSize_tight (hl : left.toInt? = some l) (hr : right.toInt? = some r) :
    (l ≠ 0 → 0 ≤ r →
      Value.shiftLeft left right = .ok (.int (l * 2 ^ r.toNat)) ∧
      (Refuses .shiftLeft left right ↔ 65536 < bitLength (l * 2 ^ r.toNat))) ∧
    (l ≠ 0 → r ≠ 0 →
      Value.multiply left right = .ok (.int (l * r)) ∧
      (¬Refuses .multiply left right → bitLength (l * r) ≤ 65536) ∧
      (Refuses .multiply left right → 65536 ≤ bitLength (l * r))) ∧
    (0 < r → 1 < l.natAbs →
      Value.power left right = .ok (.int (l ^ r.toNat)) ∧
      (¬Refuses .power left right → bitLength (l ^ r.toNat) ≤ 65536) ∧
      (Refuses .power left right → 32768 < bitLength (l ^ r.toNat))) ∧
    (r ≤ 0 ∨ l.natAbs ≤ 1 → checkSize .power left right = .ok ()) ∧
    (l = 0 → checkSize .shiftLeft left right = .ok ()) := by
  have hmax : maxBits = 65536 := rfl
  rw [← not_refuses_iff, ← not_refuses_iff, refuses_shiftLeft_iff hl hr, refuses_multiply_iff hl hr,
    refuses_power_iff hl hr]
  refine ⟨fun hne hnonneg => ⟨Value.shiftLeft_of_toInt? hl hr hnonneg, ?_⟩,
    fun hne hne' => ⟨Value.multiply_of_toInt? hl hr, ?_⟩,
    fun hpos hlarge => ⟨Value.power_of_toInt? hl hr hlarge hpos.le, ?_⟩, ?_, ?_⟩
  · have hbits := bitLength_shiftLeft_eq hne r.toNat
    omega
  · have habove := bitLength_mul l r
    have hbelow := add_le_bitLength_mul hne hne'
    omega
  · -- The exponent is a natural number, for which the bounds of a power are stated.
    obtain ⟨n, rfl⟩ := Int.eq_ofNat_of_zero_le hpos.le
    have habove := bitLength_pow_le l (Int.natCast_pos.1 hpos)
    have hbelow := mul_lt_two_mul_bitLength_pow hlarge n
    have hcast : (bitLength l : Int) * (n : Int) = ((bitLength l * n : ℕ) : Int) := by push_cast; rfl
    rw [Int.toNat_natCast, hcast]
    omega
  · omega
  · omega

/-- A truth value counts as an integer of one bit: moved by 65536 places it has one bit more than
allowed, and by one place less as many as allowed. The negative of 2 to the 65535 may not be
formed as a product, though it has as many bits as allowed, nor may a power of three that has 51938
bits. -/
theorem checkSize_tight_truth :
    Refuses .shiftLeft (.bool true) (.int 65536) ∧ 65536 < bitLength (1 * 2 ^ 65536) ∧
    checkSize .shiftLeft (.bool true) (.int 65535) = .ok () ∧
    bitLength (1 * 2 ^ 65535) ≤ 65536 ∧
    Refuses .multiply (.int (2 ^ 65535)) (.int (-1)) ∧ 65536 ≤ bitLength (2 ^ 65535 * -1) ∧
    Refuses .power (.int 3) (.int 32769) ∧ 32768 < bitLength (3 ^ 32769) := by
  have hshift : Refuses .shiftLeft (.bool true) (.int 65536) :=
    (refuses_shiftLeft_iff rfl rfl).2 (by decide +kernel)
  have hallowed : ¬Refuses .shiftLeft (.bool true) (.int 65535) :=
    fun h => absurd ((refuses_shiftLeft_iff rfl rfl).1 h).2 (by decide +kernel)
  have hproduct : Refuses .multiply (.int (2 ^ 65535)) (.int (-1)) :=
    (refuses_multiply_iff rfl rfl).2 (by decide +kernel)
  have hpower : Refuses .power (.int 3) (.int 32769) :=
    (refuses_power_iff rfl rfl).2 (by decide +kernel)
  obtain ⟨hmoved, -⟩ := @checkSize_tight (.bool true) (.int 65536) _ _ rfl rfl
  obtain ⟨hmoved', -⟩ := @checkSize_tight (.bool true) (.int 65535) _ _ rfl rfl
  obtain ⟨-, hmultiplied, -⟩ := @checkSize_tight (.int (2 ^ 65535)) (.int (-1)) _ _ rfl rfl
  obtain ⟨-, -, hraised, -⟩ := @checkSize_tight (.int 3) (.int 32769) _ _ rfl rfl
  obtain ⟨-, hexact⟩ := hmoved (by decide) (by decide)
  obtain ⟨-, hexact'⟩ := hmoved' (by decide) (by decide)
  obtain ⟨-, -, hbelow⟩ := hmultiplied (by decide +kernel) (by decide)
  obtain ⟨-, -, hhalf⟩ := hraised (by decide) (by decide)
  exact ⟨hshift, hexact.1 hshift, not_refuses_iff.1 hallowed,
    Nat.not_lt.1 fun h => hallowed (hexact'.2 h), hproduct, hbelow hproduct, hpower, hhalf hpower⟩

end Refuses

end Condition

end Hashmark
