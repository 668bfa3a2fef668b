import Hashmark.Number.Floating
import Mathlib.Tactic.Ring
import Mathlib.Tactic.Positivity

/-!
# Integers beyond floating point

Which integers have a nearest number of double precision. Scaled by the power of two that brings it
to 53 bits, an integer is rounded to a mantissa (`nearestBits?_int`), and only a rounding up to
`2 ^ 53` at the largest exponent, or a larger exponent, runs out of the range. A half goes to the even
neighbour, and the largest mantissa is odd, so that the first integer out of the range is half a unit
above the largest number (`ofInt?_eq_none_iff`).
-/

namespace Hashmark.Number

/-- A quotient is rounded to an even number or beyond it if it is not further than a half below. -/
theorem le_roundHalfEven_iff {num den c : ℕ} (hden : 0 < den) (heven : c % 2 = 0) :
    c ≤ roundHalfEven num den ↔ 2 * c * den ≤ 2 * num + den := by
  have hsplit := Nat.div_add_mod num den
  have hrest := Nat.mod_lt num hden
  unfold roundHalfEven
  simp only [Bool.or_eq_true, Bool.and_eq_true, decide_eq_true_eq]
  generalize num / den = q at *
  generalize num % den = r at *
  subst hsplit
  rcases Nat.lt_trichotomy (q + 1) c with hlow | heq | hhigh
  · -- Too far below, even if it is rounded up.
    have hscaled : den * (q + 2) ≤ den * c := Nat.mul_le_mul_left den hlow
    refine iff_of_false ?_ ?_
    · split <;> omega
    · intro hle
      have hcomm : 2 * c * den = 2 * (den * c) := by ring
      have hexpand : den * (q + 2) = den * q + 2 * den := by ring
      omega
  · -- Just below: it is odd, and rounded up from a half on.
    subst heq
    have hexpand : 2 * (q + 1) * den = 2 * (den * q) + 2 * den := by ring
    rw [hexpand]
    split <;> omega
  -- Above, even if it is rounded down.
  · have hscaled : den * c ≤ den * q := Nat.mul_le_mul_left den (Nat.le_of_lt_succ hhigh)
    have hcomm : 2 * c * den = 2 * (den * c) := by ring
    refine iff_of_true ?_ (by omega)
    split <;> omega

/-- An integer, brought to 53 bits. -/
def mantissaOf (n : ℕ) : ℕ :=
  roundHalfEven (n * twoTo (52 - n.log2)) (1 * twoTo (n.log2 - 52))

/-- With a bit more, an integer has at least 54 bits. -/
theorem two_pow_le_wide {n : ℕ} (hn : n ≠ 0) :
    2 ^ 53 ≤ n * twoTo (-((n.log2 : ℤ) - 53)) / (1 * twoTo ((n.log2 : ℤ) - 53)) := by
  have hlog := Nat.log2_self_le hn
  have hpos : 0 < twoTo ((n.log2 : ℤ) - 53) := Nat.two_pow_pos _
  rw [Nat.one_mul, Nat.le_div_iff_mul_le hpos]
  calc 2 ^ 53 * twoTo ((n.log2 : ℤ) - 53)
      = 2 ^ n.log2 * twoTo (-((n.log2 : ℤ) - 53)) := by
        show 2 ^ 53 * 2 ^ ((n.log2 : ℤ) - 53).toNat = 2 ^ n.log2 * 2 ^ (-((n.log2 : ℤ) - 53)).toNat
        rw [← Nat.pow_add, ← Nat.pow_add]
        congr 1
        omega
    _ ≤ n * twoTo (-((n.log2 : ℤ) - 53)) := Nat.mul_le_mul_right _ hlog

/-- An integer has no nearest number if the bits of its exponent and its mantissa run out of the
range. -/
theorem nearestBits?_int {n : ℕ} (hn : n ≠ 0) :
    nearestBits? n 1 = none ↔ 2047 * 2 ^ 52 ≤ (n.log2 + 1022) * 2 ^ 52 + mantissaOf n := by
  have hwide := two_pow_le_wide hn
  have hone : Nat.log2 1 = 0 := by decide
  have hexponent : max ((n.log2 : ℤ) - 53 + 1) (-1074) = n.log2 - 52 := by omega
  have hne : ¬(n.log2 : ℤ) - 52 = -1074 := by omega
  have hfield : ((n.log2 : ℤ) - 52 + 1075).toNat = n.log2 + 1023 := by omega
  have hflip : -((n.log2 : ℤ) - 52) = 52 - n.log2 := by omega
  have hmantissa : roundHalfEven (n * twoTo (52 - n.log2)) (1 * twoTo (n.log2 - 52)) =
      mantissaOf n := rfl
  unfold nearestBits?
  simp only [hone, Int.natCast_zero, sub_zero, Nat.pow_eq, if_pos hwide, hexponent, if_neg hne,
    hfield, hflip, hmantissa]
  split <;> simp <;> omega

/-- The mantissa of an integer is at most an even number unless the integer is half a unit above
it. -/
theorem le_mantissaOf_iff {n c : ℕ} (heven : c % 2 = 0) :
    c ≤ mantissaOf n ↔
      2 * c * twoTo (n.log2 - 52) ≤ 2 * (n * twoTo (52 - n.log2)) + twoTo (n.log2 - 52) := by
  have hpos : 0 < 1 * twoTo (n.log2 - 52) := by
    rw [Nat.one_mul]
    exact Nat.two_pow_pos _
  rw [mantissaOf, le_roundHalfEven_iff hpos heven, Nat.one_mul]

/-- An integer, scaled, has 53 bits. -/
theorem scaled_bounds {n : ℕ} (hn : n ≠ 0) :
    2 ^ 52 * twoTo (n.log2 - 52) ≤ n * twoTo (52 - n.log2) ∧
      n * twoTo (52 - n.log2) < 2 ^ 53 * twoTo (n.log2 - 52) := by
  have hscale : ∀ k, 2 ^ (k + n.log2) * twoTo (52 - n.log2) = 2 ^ (k + 52) * twoTo (n.log2 - 52) := by
    intro k
    show 2 ^ (k + n.log2) * 2 ^ (52 - n.log2 : ℤ).toNat = 2 ^ (k + 52) * 2 ^ (n.log2 - 52 : ℤ).toNat
    rw [← Nat.pow_add, ← Nat.pow_add]
    congr 1
    omega
  have hlow := Nat.mul_le_mul_right (twoTo (52 - n.log2)) (Nat.log2_self_le hn)
  have hhigh := Nat.mul_lt_mul_of_pos_right (Nat.lt_log2_self (n := n))
    (Nat.two_pow_pos (52 - n.log2 : ℤ).toNat)
  have h0 := hscale 0
  have h1 := hscale 1
  rw [Nat.zero_add, Nat.zero_add] at h0
  rw [Nat.add_comm 1] at h1
  exact ⟨h0 ▸ hlow, h1 ▸ hhigh⟩

/-- The mantissa of an integer has 53 bits, or is rounded up to the first number of 54. -/
theorem mantissaOf_bounds {n : ℕ} (hn : n ≠ 0) :
    2 ^ 52 ≤ mantissaOf n ∧ mantissaOf n ≤ 2 ^ 53 + 1 := by
  obtain ⟨hlow, hhigh⟩ := scaled_bounds hn
  have hpos : 0 < twoTo (n.log2 - 52) := Nat.two_pow_pos _
  constructor
  · rw [le_mantissaOf_iff (by decide)]
    omega
  · by_contra hgt
    have hle := (le_mantissaOf_iff (n := n) (c := 2 ^ 53 + 2) (by decide)).1 (by omega)
    omega

/-- The unit of an integer with so many bits more than 53. -/
theorem twoTo_succ (k : ℕ) : twoTo (((k + 53 : ℕ) : ℤ) - 52) = 2 * 2 ^ k := by
  have hexponent : (((k + 53 : ℕ) : ℤ) - 52).toNat = k + 1 := by omega
  rw [twoTo, hexponent, Nat.pow_eq, Nat.pow_succ']

/-- The bits of an integer bound it from above; the power stands as a product, so that it is not
multiplied out. -/
theorem lt_two_pow_mul {n a b : ℕ} (hn : n ≠ 0) (h : n.log2 < a + b) : n < 2 ^ a * 2 ^ b := by
  rw [← Nat.pow_add]
  exact (Nat.log2_lt hn).1 h

/-- The bits of an integer bound it from below. -/
theorem two_pow_mul_le {n a b : ℕ} (hn : n ≠ 0) (h : a + b ≤ n.log2) : 2 ^ a * 2 ^ b ≤ n := by
  rw [← Nat.pow_add]
  exact (Nat.le_log2 hn).1 h

/-- An integer has no nearest number of double precision from half a unit above the largest one
on. -/
theorem ofInt?_eq_none_iff (n : ℤ) : ofInt? n = none ↔ (2 ^ 54 - 1) * 2 ^ 970 ≤ n.natAbs := by
  have hunit : 0 < 2 ^ 970 := by positivity
  unfold ofInt? nearest?
  split
  case isTrue hzero =>
    rw [hzero]
    exact iff_of_false (by simp) (Nat.not_le.2 (Nat.mul_pos (by decide) hunit))
  case isFalse hne =>
    rw [Option.map_eq_none_iff, nearestBits?_int hne]
    generalize n.natAbs = size at hne ⊢
    obtain ⟨hlow, hhigh⟩ := mantissaOf_bounds hne
    rcases Nat.lt_trichotomy size.log2 1023 with hless | heq | hmore
    · have hsize : size < 2 ^ 53 * 2 ^ 970 := lt_two_pow_mul hne (by omega)
      exact iff_of_false (by omega) (by omega)
    · -- At the largest exponent it is the rounding that decides.
      have hle := le_mantissaOf_iff (n := size) (c := 2 ^ 53) (by decide)
      have hunits : twoTo (((1023 : ℕ) : ℤ) - 52) = 2 * 2 ^ 970 := twoTo_succ 970
      have hscale : twoTo (52 - ((1023 : ℕ) : ℤ)) = 1 := rfl
      rw [heq, hunits, hscale, Nat.mul_one] at hle
      rw [heq]
      omega
    · have hsize : 2 ^ 54 * 2 ^ 970 ≤ size := two_pow_mul_le hne (by omega)
      exact iff_of_true (by omega) (by omega)

end Hashmark.Number
