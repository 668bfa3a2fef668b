import Hashmark.Number.Decimal
import Hashmark.Proofs.Number.Binary
import Mathlib.Algebra.Order.Field.Power
import Mathlib.Data.Rat.Cast.Order
import Mathlib.Tactic.FieldSimp
import Mathlib.Tactic.Linarith
import Mathlib.Tactic.Positivity
import Mathlib.Tactic.Ring

/-!
# The shortest digits of a number

The digits that a number is written with lie in the interval of what is rounded to it
(`shortest_rounds`), and these intervals are apart (`rounds_inj`), so that different numbers have
different digits. A decimal of seventeen digits is always near enough: its unit is at most the
10^16th part of the number, and half of that is less than a quarter of the last place. For this the
number must not be below the power of ten that the search for its magnitude ends with, which is so
because the search begins at most eight steps above it (`tenTo_guess_le`).
-/

namespace Hashmark.Number

/-- The quotient of a power with an exponent cut off below zero by that of the opposite exponent is
the power itself. -/
theorem pow_toNat_div (base : ℕ) (hbase : base ≠ 0) (k : ℤ) :
    ((base ^ k.toNat : ℕ) : ℚ) / ((base ^ (-k).toNat : ℕ) : ℚ) = (base : ℚ) ^ k := by
  have hb : (base : ℚ) ≠ 0 := by exact_mod_cast hbase
  push_cast
  rw [← zpow_natCast, ← zpow_natCast, ← zpow_sub₀ hb]
  congr 1
  omega

/-- A power of two as the quotient of two integers. -/
theorem twoTo_div (k : ℤ) : (twoTo k : ℚ) / (twoTo (-k) : ℚ) = 2 ^ k :=
  pow_toNat_div 2 (by decide) k

/-- A power of ten as the quotient of two integers. -/
theorem tenTo_div (k : ℤ) : (tenTo k : ℚ) / (tenTo (-k) : ℚ) = 10 ^ k :=
  pow_toNat_div 10 (by decide) k

/-- A power of two is positive. -/
theorem twoTo_pos (k : ℤ) : 0 < twoTo k :=
  Nat.pow_pos (by decide)

/-- A power of ten is positive. -/
theorem tenTo_pos (k : ℤ) : 0 < tenTo k :=
  Nat.pow_pos (by decide)

/-- The number that digits write. -/
def Digits.value (d : Digits) : ℚ :=
  d.digits * 10 ^ d.power

/-- How far the numbers that are rounded to a number reach below it, in quarters of the last place:
half a place, or a quarter if the number below is in reach of it. -/
def Binary.reach (b : Binary) : ℕ :=
  if b.mantissa = Nat.pow 2 52 && b.exponent != -1074 then 1 else 2

/-- The lower end of what is rounded to a number. -/
def Binary.low (b : Binary) : ℚ :=
  (4 * b.mantissa - b.reach) * 2 ^ (b.exponent - 2)

/-- The upper end of what is rounded to a number. -/
def Binary.high (b : Binary) : ℚ :=
  (4 * b.mantissa + 2) * 2 ^ (b.exponent - 2)

/-- A size is rounded to that of a number; the ends are if the mantissa is even. -/
def Binary.Rounds (b : Binary) (q : ℚ) : Prop :=
  if b.mantissa % 2 = 0 then b.low ≤ q ∧ q ≤ b.high else b.low < q ∧ q < b.high

/-- What is rounded to a number lies between the ends. -/
theorem Binary.Rounds.le {b : Binary} {q : ℚ} (h : b.Rounds q) : b.low ≤ q ∧ q ≤ b.high := by
  unfold Binary.Rounds at h
  split at h
  · exact h
  · exact ⟨h.1.le, h.2.le⟩

/-- What is rounded to a number with an odd mantissa lies strictly between the ends. -/
theorem Binary.Rounds.lt {b : Binary} {q : ℚ} (h : b.Rounds q) (hodd : b.mantissa % 2 = 1) :
    b.low < q ∧ q < b.high := by
  rwa [Binary.Rounds, if_neg (by omega)] at h

/-- Half a place below a number is at most what is rounded to it. -/
theorem Binary.reach_le (b : Binary) : b.reach ≤ 2 := by
  unfold Binary.reach
  split <;> omega

/-- Nothing that is rounded to a number is rounded to a larger one. -/
theorem rounds_lt_false {b b' : Binary} (hb : b.Canonical) (hb' : b'.Canonical) {q : ℚ}
    (h : b.Rounds q) (h' : b'.Rounds q)
    (hlt : b.exponent < b'.exponent ∨ b.exponent = b'.exponent ∧ b.mantissa < b'.mantissa) :
    False := by
  have hunit : (0 : ℚ) < 2 ^ (b.exponent - 2) := by positivity
  -- What is rounded to a number is within half a unit of it, and halfway only if the mantissa is
  -- even.
  have hhigh : q ≤ (4 * b.mantissa + 2) * 2 ^ (b.exponent - 2) := h.le.2
  have hhigh_lt : b.mantissa % 2 = 1 → q < (4 * b.mantissa + 2) * 2 ^ (b.exponent - 2) :=
    fun hodd => (h.lt hodd).2
  have hlow : (4 * b'.mantissa - b'.reach) * 2 ^ (b'.exponent - 2) ≤ q := h'.le.1
  have hlow_lt : b'.mantissa % 2 = 1 → (4 * b'.mantissa - b'.reach) * 2 ^ (b'.exponent - 2) < q :=
    fun hodd => (h'.lt hodd).1
  obtain hexponent | ⟨hexponent, hless⟩ := hlt
  · -- The larger exponent makes a unit at least twice as large, and a mantissa with all its bits.
    have hlead := hb'.leading (by have := hb.exponent_ge; omega)
    have hmantissa := hb.mantissa_lt
    have htwice : 2 * (2 : ℚ) ^ (b.exponent - 2) ≤ 2 ^ (b'.exponent - 2) := by
      have hpow : (2 : ℚ) ^ (b.exponent - 2 + 1) ≤ 2 ^ (b'.exponent - 2) :=
        zpow_le_zpow_right₀ (by norm_num) (by omega)
      rw [zpow_add₀ (by norm_num), zpow_one] at hpow
      linarith
    have hreach : 2 ^ 54 ≤ 4 * b'.mantissa + 1 - b'.reach := by
      unfold Binary.reach
      split
      · omega
      case isFalse hnarrow =>
        have hexponent' : b'.exponent ≠ -1074 := by have := hb.exponent_ge; omega
        have hne : b'.mantissa ≠ 2 ^ 52 := by simpa [hexponent'] using hnarrow
        omega
    -- The lower end of the larger number, in units of its own.
    have hreach : (2 ^ 54 - 1 : ℚ) ≤ 4 * b'.mantissa - b'.reach := by
      have hcast : ((2 ^ 54 + b'.reach : ℕ) : ℚ) ≤ ((4 * b'.mantissa + 1 : ℕ) : ℚ) := by
        exact_mod_cast (by omega)
      push_cast at hcast
      linarith
    have hstep : (2 ^ 54 - 1) * (2 * (2 : ℚ) ^ (b.exponent - 2)) ≤
        (4 * b'.mantissa - b'.reach) * 2 ^ (b'.exponent - 2) :=
      mul_le_mul hreach htwice (by positivity) (by linarith)
    generalize (2 : ℚ) ^ (b.exponent - 2) = unit at hunit hhigh hhigh_lt hstep
    obtain heven | hodd := Nat.mod_two_eq_zero_or_one b.mantissa
    · have hm : (b.mantissa : ℚ) + 2 ≤ 2 ^ 53 := by exact_mod_cast (by omega)
      nlinarith
    · have hm : (b.mantissa : ℚ) + 1 ≤ 2 ^ 53 := by exact_mod_cast hmantissa
      have hstrict := hhigh_lt hodd
      nlinarith
  · -- With one exponent, mantissas that are next to one another are not both even.
    have hreach : (b'.reach : ℚ) ≤ 2 := by exact_mod_cast b'.reach_le
    rw [← hexponent] at hlow hlow_lt
    generalize (2 : ℚ) ^ (b.exponent - 2) = unit at hunit hhigh hhigh_lt hlow hlow_lt
    obtain hfar | hnext : b.mantissa + 2 ≤ b'.mantissa ∨ b'.mantissa = b.mantissa + 1 := by omega
    · have hm : (b.mantissa : ℚ) + 2 ≤ b'.mantissa := by exact_mod_cast hfar
      nlinarith
    · have hm : (b'.mantissa : ℚ) = b.mantissa + 1 := by exact_mod_cast hnext
      rw [hm] at hlow hlow_lt
      obtain heven | hodd := Nat.mod_two_eq_zero_or_one b.mantissa
      · have hstrict := hlow_lt (by omega)
        nlinarith
      · have hstrict := hhigh_lt hodd
        nlinarith

/-- No size is rounded to two numbers. -/
theorem rounds_inj {b b' : Binary} (hb : b.Canonical) (hb' : b'.Canonical) {q : ℚ}
    (h : b.Rounds q) (h' : b'.Rounds q) :
    b.mantissa = b'.mantissa ∧ b.exponent = b'.exponent := by
  obtain hlt | heq | hgt := Int.lt_trichotomy b.exponent b'.exponent
  · exact (rounds_lt_false hb hb' h h' (.inl hlt)).elim
  · obtain hlt | heq' | hgt := Nat.lt_trichotomy b.mantissa b'.mantissa
    · exact (rounds_lt_false hb hb' h h' (.inr ⟨heq, hlt⟩)).elim
    · exact ⟨heq', heq⟩
    · exact (rounds_lt_false hb' hb h' h (.inr ⟨heq.symm, hgt⟩)).elim
  · exact (rounds_lt_false hb' hb h' h (.inl hgt)).elim

/-- A quotient of integers is below a power of ten if they are, the power being multiplied out. -/
theorem scaled_lt_iff {num den : ℕ} (hden : 0 < den) (k : ℤ) :
    num * tenTo (-k) < den * tenTo k ↔ (num : ℚ) / den < 10 ^ k := by
  have hd : (0 : ℚ) < den := by exact_mod_cast hden
  have ht : (0 : ℚ) < tenTo (-k) := by exact_mod_cast tenTo_pos (-k)
  rw [← tenTo_div, div_lt_div_iff₀ hd ht, mul_comm (tenTo k : ℚ)]
  exact_mod_cast Iff.rfl

/-- A quotient of integers is below a decimal if they are, the power being multiplied out. -/
theorem bound_lt_digits_iff {bound scale : ℕ} (hscale : 0 < scale) (d : ℕ) (k : ℤ) :
    bound * tenTo (-k) < d * tenTo k * scale ↔ (bound : ℚ) / scale < d * 10 ^ k := by
  have hs : (0 : ℚ) < scale := by exact_mod_cast hscale
  have ht : (0 : ℚ) < tenTo (-k) := by exact_mod_cast tenTo_pos (-k)
  rw [← tenTo_div, ← mul_div_assoc, div_lt_div_iff₀ hs ht]
  exact_mod_cast Iff.rfl

/-- A decimal is below a quotient of integers if they are, the power being multiplied out. -/
theorem digits_lt_bound_iff {bound scale : ℕ} (hscale : 0 < scale) (d : ℕ) (k : ℤ) :
    d * tenTo k * scale < bound * tenTo (-k) ↔ (d : ℚ) * 10 ^ k < bound / scale := by
  have hs : (0 : ℚ) < scale := by exact_mod_cast hscale
  have ht : (0 : ℚ) < tenTo (-k) := by exact_mod_cast tenTo_pos (-k)
  rw [← tenTo_div, ← mul_div_assoc, div_lt_div_iff₀ ht hs]
  exact_mod_cast Iff.rfl

/-- Digits that are found lie between the bounds. -/
theorem digitsWithin?_spec {num den low high scale count : ℕ} {closed : Bool} {places : ℤ}
    {d : Digits} (hscale : 0 < scale)
    (h : digitsWithin? num den low high scale closed places count = some d) :
    if closed then (low : ℚ) / scale ≤ d.value ∧ d.value ≤ high / scale
    else (low : ℚ) / scale < d.value ∧ d.value < high / scale := by
  simp only [digitsWithin?] at h
  obtain ⟨n, hfind, rfl⟩ := Option.map_eq_some_iff.1 h
  have hinside := List.find?_some hfind
  simp only [Digits.value]
  generalize places - count = k at hinside ⊢
  cases closed with
  | true =>
    simp only [if_true, Bool.and_eq_true, decide_eq_true_iff] at hinside ⊢
    rw [← not_lt, ← not_lt, digits_lt_bound_iff hscale, bound_lt_digits_iff hscale, not_lt,
      not_lt] at hinside
    exact hinside
  | false =>
    simp only [Bool.false_eq_true, if_false, Bool.and_eq_true, decide_eq_true_iff] at hinside ⊢
    rwa [digits_lt_bound_iff hscale, bound_lt_digits_iff hscale] at hinside

/-- A quotient of integers in units of a power of ten, rounded down. -/
theorem unit_le_lt (num : ℕ) {den : ℕ} (hden : 0 < den) (k : ℤ) :
    ((num * tenTo (-k) / (den * tenTo k) : ℕ) : ℚ) * 10 ^ k ≤ (num : ℚ) / den ∧
      (num : ℚ) / den < ((num * tenTo (-k) / (den * tenTo k) : ℕ) + 1 : ℚ) * 10 ^ k := by
  have hd : (0 : ℚ) < den := by exact_mod_cast hden
  have hup : (0 : ℚ) < tenTo (-k) := by exact_mod_cast tenTo_pos (-k)
  have hfloor := Nat.div_mul_le_self (num * tenTo (-k)) (den * tenTo k)
  have hceil := Nat.lt_div_mul_add (a := num * tenTo (-k))
    (Nat.mul_pos hden (tenTo_pos k))
  generalize num * tenTo (-k) / (den * tenTo k) = q at hfloor hceil ⊢
  rw [← tenTo_div, ← mul_div_assoc, ← mul_div_assoc, div_le_div_iff₀ hup hd, div_lt_div_iff₀ hd hup]
  have hfloor : (q : ℚ) * (den * tenTo k) ≤ num * tenTo (-k) := by exact_mod_cast hfloor
  have hceil : (num : ℚ) * tenTo (-k) < q * (den * tenTo k) + den * tenTo k := by
    exact_mod_cast hceil
  constructor <;> linarith

/-- Digits are found if the bounds leave room for half a unit of the last digit on both sides. -/
theorem digitsWithin?_isSome {num den low high scale count : ℕ} (closed : Bool) {places : ℤ}
    (hden : 0 < den) (hscale : 0 < scale)
    (hlow : (low : ℚ) / scale < (num : ℚ) / den - 10 ^ (places - count) / 2)
    (hhigh : (num : ℚ) / den + 10 ^ (places - count) / 2 < high / scale) :
    (digitsWithin? num den low high scale closed places count).isSome = true := by
  simp only [digitsWithin?, Option.isSome_map, List.find?_isSome]
  generalize places - count = k at hlow hhigh ⊢
  have hunit : (0 : ℚ) < 10 ^ k := by positivity
  obtain ⟨hfloor, hceil⟩ := unit_le_lt num hden k
  generalize num * tenTo (-k) / (den * tenTo k) = q at hfloor hceil ⊢
  have inside : ∀ d : ℕ, (low : ℚ) / scale < d * 10 ^ k → (d : ℚ) * 10 ^ k < high / scale →
      (if closed then decide (low * tenTo (-k) ≤ d * tenTo k * scale) &&
          decide (d * tenTo k * scale ≤ high * tenTo (-k))
        else decide (low * tenTo (-k) < d * tenTo k * scale) &&
          decide (d * tenTo k * scale < high * tenTo (-k))) = true := by
    intro d hd hd'
    rw [← bound_lt_digits_iff hscale] at hd
    rw [← digits_lt_bound_iff hscale] at hd'
    cases closed
    · simp [hd, hd']
    · simp [hd.le, hd'.le]
  -- The nearer one of the two neighbours is at most half a unit away.
  obtain hnear | hnear := le_total ((num : ℚ) / den - q * 10 ^ k) (10 ^ k / 2)
  · exact ⟨q, by split <;> simp, inside q (by linarith) (by linarith)⟩
  · refine ⟨q + 1, by split <;> simp, inside (q + 1) ?_ ?_⟩
    · push_cast
      linarith
    · push_cast
      linarith

/-- The power of ten below the one that the search ends with is at most the number, if the power of
ten that is as many steps below the guess is. -/
theorem tenTo_magnitude_le {num den : ℕ} (hden : 0 < den) (steps : ℕ) (guess : ℤ)
    (h : (10 : ℚ) ^ (guess - 1 - steps) ≤ (num : ℚ) / den) :
    (10 : ℚ) ^ (magnitude num den steps guess - 1) ≤ (num : ℚ) / den := by
  induction steps generalizing guess with
  | zero => simpa [magnitude] using h
  | succ steps ih =>
    simp only [magnitude, scaled_lt_iff hden]
    split
    · split
      · apply ih
        have hexponent : guess - 1 - 1 - (steps : ℤ) = guess - 1 - (steps + 1 : ℕ) := by omega
        rwa [hexponent]
      case isFalse hbefore => exact not_lt.1 hbefore
    case isFalse hbelow =>
      apply ih
      have hless : (10 : ℚ) ^ (guess + 1 - 1 - (steps : ℤ)) ≤ 10 ^ guess :=
        zpow_le_zpow_right₀ (by norm_num) (by omega)
      exact hless.trans (not_lt.1 hbelow)

/-- The guess for a power of two, made of the product with the logarithm, is not too large by more
than eight steps. -/
def guessFits (k : ℤ) : Bool :=
  tenTo (k * 30103 / 100000 - 8) * twoTo (-k) ≤ twoTo k * tenTo (-(k * 30103 / 100000 - 8))

/-- The guess fits for all powers of two that double precision has. -/
theorem guessFits_all : ((List.range 2200).all fun i => guessFits (i - 1100)) = true := by
  decide +kernel

/-- The search begins at most eight steps above a power of two. -/
theorem tenTo_guess_le {k : ℤ} (hlow : -1100 ≤ k) (hhigh : k < 1100) :
    (10 : ℚ) ^ (k * 30103 / 100000 - 8) ≤ 2 ^ k := by
  have hfits := List.all_eq_true.1 guessFits_all (k + 1100).toNat (List.mem_range.2 (by omega))
  have hk : (((k + 1100).toNat : ℕ) : ℤ) - 1100 = k := by omega
  rw [hk, guessFits, decide_eq_true_iff] at hfits
  have hten : (0 : ℚ) < tenTo (-(k * 30103 / 100000 - 8)) := by exact_mod_cast tenTo_pos _
  have htwo : (0 : ℚ) < twoTo (-k) := by exact_mod_cast twoTo_pos _
  rw [← tenTo_div, ← twoTo_div, div_le_div_iff₀ hten htwo]
  exact_mod_cast hfits

/-- The size of a number that is not zero, as the integers of the search for its digits. -/
theorem quarters_div (b : Binary) (n : ℕ) :
    ((n * twoTo (b.exponent - 2) : ℕ) : ℚ) / twoTo (2 - b.exponent) =
      n * 2 ^ (b.exponent - 2) := by
  have hflip : 2 - b.exponent = -(b.exponent - 2) := by omega
  rw [hflip, ← twoTo_div]
  push_cast
  ring

/-- The power of two between a quotient and its half, for a divisor that is a power of two. -/
theorem two_zpow_log2_le {num : ℕ} (hnum : num ≠ 0) (k : ℤ) :
    (2 : ℚ) ^ ((num.log2 : ℤ) - (twoTo k).log2) ≤ (num : ℚ) / twoTo k := by
  have hlog : (twoTo k).log2 = k.toNat := Nat.log2_two_pow
  have hle : ((2 ^ num.log2 : ℕ) : ℚ) ≤ num := by exact_mod_cast Nat.log2_self_le hnum
  have hscale : (twoTo k : ℚ) = 2 ^ k.toNat := by simp [twoTo]
  push_cast at hle
  rw [hlog, zpow_sub₀ (by norm_num), zpow_natCast, zpow_natCast, hscale]
  gcongr

/-- The search for the magnitude of a number begins within the range of double precision. -/
theorem log2_range {b : Binary} (hb : b.Canonical) (hne : b.mantissa ≠ 0) :
    -1100 ≤ ((4 * b.mantissa * twoTo (b.exponent - 2)).log2 : ℤ) - (twoTo (2 - b.exponent)).log2 ∧
      ((4 * b.mantissa * twoTo (b.exponent - 2)).log2 : ℤ) - (twoTo (2 - b.exponent)).log2 <
        1100 := by
  obtain ⟨hmantissa, hge, hle, -⟩ := hb
  have hpos := twoTo_pos (b.exponent - 2)
  have hlog : (twoTo (2 - b.exponent)).log2 = (2 - b.exponent).toNat := Nat.log2_two_pow
  have hvalue : 4 * b.mantissa * twoTo (b.exponent - 2) ≠ 0 := by positivity
  have hless : 4 * b.mantissa * twoTo (b.exponent - 2) < 2 ^ (55 + (b.exponent - 2).toNat) := by
    rw [Nat.pow_add]
    exact Nat.mul_lt_mul_of_pos_right (by omega) hpos
  have hlog' := (Nat.log2_lt hvalue).2 hless
  omega

/-- The power of ten below the one that the search for the magnitude of a number ends with is at
most the number. -/
theorem tenTo_places_le {b : Binary} (hb : b.Canonical) (hne : b.mantissa ≠ 0) :
    (10 : ℚ) ^ (magnitude (4 * b.mantissa * twoTo (b.exponent - 2)) (twoTo (2 - b.exponent)) 8
        ((((4 * b.mantissa * twoTo (b.exponent - 2)).log2 : ℤ) - (twoTo (2 - b.exponent)).log2) *
          30103 / 100000 + 1) - 1) ≤
      ((4 * b.mantissa * twoTo (b.exponent - 2) : ℕ) : ℚ) / twoTo (2 - b.exponent) := by
  have hpos := twoTo_pos (b.exponent - 2)
  obtain ⟨hlow, hhigh⟩ := log2_range hb hne
  have hguess := tenTo_guess_le hlow hhigh
  have hnum : 4 * b.mantissa * twoTo (b.exponent - 2) ≠ 0 := by positivity
  have hsize := two_zpow_log2_le hnum (2 - b.exponent)
  apply tenTo_magnitude_le (twoTo_pos _)
  refine le_trans ?_ (hguess.trans hsize)
  exact le_of_eq (congrArg _ (by push_cast; ring))

/-- Half a unit of the seventeenth digit is less than what a number reaches down to. -/
theorem half_unit_lt {b : Binary} (hb : b.Canonical) {places : ℤ}
    (hplaces : (10 : ℚ) ^ (places - 1) ≤ 4 * b.mantissa * 2 ^ (b.exponent - 2)) :
    (10 : ℚ) ^ (places - (16 + 1 : ℕ)) / 2 < b.reach * 2 ^ (b.exponent - 2) := by
  have hunit : (0 : ℚ) < 2 ^ (b.exponent - 2) := by positivity
  have hshift : (10 : ℚ) ^ (places - (16 + 1 : ℕ)) = 10 ^ (places - 1) / 10 ^ 16 := by
    have hsplit : places - (16 + 1 : ℕ) = places - 1 - (16 : ℕ) := by push_cast; ring
    rw [hsplit, zpow_sub₀ (by norm_num), zpow_natCast]
  have hmantissa : 4 * (b.mantissa : ℚ) / 10 ^ 16 / 2 < b.reach := by
    unfold Binary.reach
    split
    case isTrue hnarrow =>
      have hm : b.mantissa = 2 ^ 52 := by simp at hnarrow; exact hnarrow.1
      rw [hm]
      norm_num
    · have hm : (b.mantissa : ℚ) < 2 ^ 53 := by exact_mod_cast hb.mantissa_lt
      push_cast
      linarith
  calc (10 : ℚ) ^ (places - (16 + 1 : ℕ)) / 2
      ≤ 4 * b.mantissa * 2 ^ (b.exponent - 2) / 10 ^ 16 / 2 := by rw [hshift]; gcongr
    _ = 4 * b.mantissa / 10 ^ 16 / 2 * 2 ^ (b.exponent - 2) := by ring
    _ < b.reach * 2 ^ (b.exponent - 2) := by gcongr

/-- The digits of a number that is not zero are rounded to it. -/
theorem shortest_rounds {b : Binary} (hb : b.Canonical) (hne : b.mantissa ≠ 0) :
    b.Rounds (shortest b).value := by
  have hscale := twoTo_pos (2 - b.exponent)
  have hplaces := tenTo_places_le hb hne
  have hlow : ((4 * b.mantissa * twoTo (b.exponent - 2) -
      b.reach * twoTo (b.exponent - 2) : ℕ) : ℚ) / twoTo (2 - b.exponent) = b.low := by
    have hreach : b.reach ≤ 4 * b.mantissa := by have := b.reach_le; omega
    rw [← Nat.sub_mul, quarters_div, Nat.cast_sub hreach, Binary.low]
    push_cast
    ring
  have hhigh : ((4 * b.mantissa * twoTo (b.exponent - 2) +
      2 * twoTo (b.exponent - 2) : ℕ) : ℚ) / twoTo (2 - b.exponent) = b.high := by
    rw [← Nat.add_mul, quarters_div, Binary.high]
    push_cast
    ring
  have hreach : (if b.mantissa = Nat.pow 2 52 && b.exponent != -1074 then 1 else 2) = b.reach := rfl
  simp only [shortest, hreach]
  -- Only the value, its bounds and the scale matter from here on.
  generalize magnitude _ _ _ _ = places at hplaces ⊢
  have hvalue := quarters_div b (4 * b.mantissa)
  generalize 4 * b.mantissa * twoTo (b.exponent - 2) = value at hlow hhigh hplaces hvalue ⊢
  generalize value - b.reach * twoTo (b.exponent - 2) = low at hlow ⊢
  generalize value + 2 * twoTo (b.exponent - 2) = high at hhigh ⊢
  generalize twoTo (2 - b.exponent) = scale at hscale hlow hhigh hplaces hvalue ⊢
  have hquarters : ((4 * b.mantissa : ℕ) : ℚ) = 4 * b.mantissa := by push_cast; rfl
  -- With seventeen digits there is always a decimal number between the bounds.
  have hfound : (digitsWithin? value scale low high scale (b.mantissa % 2 = 0) places
      (16 + 1)).isSome = true := by
    rw [hvalue, hquarters] at hplaces
    have hhalf := half_unit_lt hb hplaces
    have hreach : (b.reach : ℚ) ≤ 2 := by exact_mod_cast b.reach_le
    have hunit : (0 : ℚ) < 2 ^ (b.exponent - 2) := by positivity
    apply digitsWithin?_isSome _ hscale hscale
    · rw [hlow, hvalue, hquarters, Binary.low]
      linarith
    · rw [hhigh, hvalue, hquarters, Binary.high]
      nlinarith
  -- So one is found, with this number of digits or fewer.
  have hsome : ((List.range 17).findSome? fun i =>
      digitsWithin? value scale low high scale (b.mantissa % 2 = 0) places (i + 1)).isSome = true :=
    List.findSome?_isSome_iff.2 ⟨16, by decide, hfound⟩
  obtain ⟨d, hd⟩ := Option.isSome_iff_exists.1 hsome
  obtain ⟨i, -, hi⟩ := List.exists_of_findSome?_eq_some hd
  have hspec := digitsWithin?_spec hscale hi
  rw [hlow, hhigh] at hspec
  rw [hd, Option.getD_some, Binary.Rounds]
  simpa using hspec

end Hashmark.Number
