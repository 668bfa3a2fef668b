import Hashmark.Number.Floating
import Mathlib

/-!
# Floating point numbers as integers

The integers of a finite number have the form that double precision allows (`Binary.Canonical`), and
they determine the number (`ofFloat?_inj`). The infinite numbers are determined by their sign, and
there is only one number that is none (`eq_of_ofFloat?_none`). Of the two zeros, which compare equal,
one has no minus sign (`eq_zero_of_beq`).
-/

namespace Hashmark.Number

/-- The integers that a finite number of double precision has. -/
structure Binary.Canonical (b : Binary) : Prop where
  /-- The mantissa has at most 53 bits. -/
  mantissa_lt : b.mantissa < 2 ^ 53
  /-- The exponent is not below the least one. -/
  exponent_ge : -1074 ≤ b.exponent
  /-- The exponent is not beyond the largest one. -/
  exponent_le : b.exponent ≤ 971
  /-- The mantissa has all its bits unless the exponent is the least one. -/
  leading : b.exponent ≠ -1074 → 2 ^ 52 ≤ b.mantissa

/-- A number is determined by its bits. -/
theorem toBits_inj {x y : Float} (h : x.toBits = y.toBits) : x = y := by
  obtain ⟨bits, hx⟩ := x
  obtain ⟨bits', hy⟩ := y
  obtain rfl : bits = bits' := h
  rfl

/-- Bits are those of a sign, an exponent, and a fraction. -/
theorem bits_split (bits : Nat) :
    bits = bits / 2 ^ 63 * 2 ^ 63 + bits / 2 ^ 52 % 2 ^ 11 * 2 ^ 52 + bits % 2 ^ 52 := by
  have hdiv : bits / 2 ^ 63 = bits / 2 ^ 52 / 2 ^ 11 := by omega
  have hlow := Nat.div_add_mod bits (2 ^ 52)
  have hhigh := Nat.div_add_mod (bits / 2 ^ 52) (2 ^ 11)
  rw [hdiv]
  generalize bits / 2 ^ 52 / 2 ^ 11 = sign at hhigh ⊢
  generalize bits / 2 ^ 52 % 2 ^ 11 = exponent at hhigh ⊢
  omega

/-- The sign of a number is the first of its bits. -/
theorem isNegative_iff (x : Float) : isNegative x = true ↔ x.toBits.toNat / 2 ^ 63 = 1 := by
  have hshift : (x.toBits >>> 63).toNat = x.toBits.toNat / 2 ^ 63 := by
    rw [UInt64.toNat_shiftRight, Nat.shiftRight_eq_div_pow]
    rfl
  rw [isNegative, beq_iff_eq, ← hshift, ← UInt64.toNat_inj]
  rfl

/-- The bits of a finite number are its sign, an exponent that is not the greatest one, and a
fraction. -/
theorem Binary.fields {x : Float} {b : Binary} (h : Binary.ofFloat? x = some b) :
    ∃ biased fraction : Nat, biased < 2047 ∧ fraction < 2 ^ 52 ∧
      x.toBits.toNat = b.negative.toNat * 2 ^ 63 + biased * 2 ^ 52 + fraction ∧
      (biased = 0 ∧ b.mantissa = fraction ∧ b.exponent = -1074 ∨
        0 < biased ∧ b.mantissa = 2 ^ 52 + fraction ∧ b.exponent = (biased : Int) - 1075) := by
  have hbits := x.toBits.toNat_lt
  have hsplit := bits_split x.toBits.toNat
  have hexponent := Nat.mod_lt (x.toBits.toNat / 2 ^ 52) (show 0 < 2 ^ 11 by decide)
  have hfraction := Nat.mod_lt x.toBits.toNat (show 0 < 2 ^ 52 by decide)
  simp only [Binary.ofFloat?, Nat.pow_eq] at h
  generalize x.toBits.toNat = bits at h hbits hsplit hexponent hfraction ⊢
  generalize bits / 2 ^ 52 % 2 ^ 11 = biased at h hsplit hexponent
  generalize bits % 2 ^ 52 = fraction at h hsplit hfraction
  have hsign : (bits / 2 ^ 63 == 1).toNat = bits / 2 ^ 63 := by
    obtain hzero | hone : bits / 2 ^ 63 = 0 ∨ bits / 2 ^ 63 = 1 := by omega
    · rw [hzero]; rfl
    · rw [hone]; rfl
  refine ⟨biased, fraction, ?_⟩
  split at h
  · cases h
  · split at h
    · obtain rfl := Option.some.inj h
      exact ⟨by omega, hfraction, by rw [hsign]; exact hsplit, .inl ⟨by omega, rfl, rfl⟩⟩
    · obtain rfl := Option.some.inj h
      exact ⟨by omega, hfraction, by rw [hsign]; exact hsplit, .inr ⟨by omega, rfl, rfl⟩⟩

/-- The integers of a finite number are those that double precision allows. -/
theorem Binary.canonical_of_ofFloat? {x : Float} {b : Binary}
    (h : Binary.ofFloat? x = some b) : b.Canonical := by
  obtain ⟨biased, fraction, hbiased, hfraction, -, hb⟩ := Binary.fields h
  exact ⟨by omega, by omega, by omega, by omega⟩

/-- The integers of a finite number determine it. -/
theorem Binary.ofFloat?_inj {x y : Float} {b : Binary} (hx : Binary.ofFloat? x = some b)
    (hy : Binary.ofFloat? y = some b) : x = y := by
  obtain ⟨biased, fraction, -, hfraction, hbits, hb⟩ := Binary.fields hx
  obtain ⟨biased', fraction', -, hfraction', hbits', hb'⟩ := Binary.fields hy
  apply toBits_inj
  apply UInt64.toNat_inj.1
  omega

/-- The exponent of a number, as the model of the numbers takes it from the bits. -/
theorem toNat_unpackExponent (x : Float) :
    (@Float.Model.UnpackedFloat.unpackExponent .binary64 x.toBits.toBitVec).toNat =
      x.toBits.toNat / 2 ^ 52 % 2 ^ 11 := by
  simp [Float.Model.UnpackedFloat.unpackExponent, Nat.shiftRight_eq_div_pow]

/-- The fraction of a number, as the model of the numbers takes it from the bits. -/
theorem toNat_unpackMantissa (x : Float) :
    (@Float.Model.UnpackedFloat.unpackMantissa .binary64 x.toBits.toBitVec).toNat =
      x.toBits.toNat % 2 ^ 52 := by
  simp [Float.Model.UnpackedFloat.unpackMantissa]

/-- A number that is not finite has the greatest exponent. -/
theorem unpackExponent_of_ofFloat?_none {x : Float} (h : Binary.ofFloat? x = none) :
    @Float.Model.UnpackedFloat.unpackExponent .binary64 x.toBits.toBitVec = -1#11 := by
  apply BitVec.eq_of_toNat_eq
  rw [toNat_unpackExponent]
  simp only [Binary.ofFloat?, Nat.pow_eq] at h
  split at h
  case isTrue hbiased =>
    rw [hbiased]
    rfl
  case isFalse => split at h <;> cases h

/-- A number that is not finite is none exactly if it has a fraction. -/
theorem isNaN_of_ofFloat?_none {x : Float} (h : Binary.ofFloat? x = none) :
    x.isNaN = true ↔ @Float.Model.UnpackedFloat.unpackMantissa .binary64 x.toBits.toBitVec ≠ 0#52 := by
  have hexponent := unpackExponent_of_ofFloat?_none h
  have hbits : x.toModel.toBits = x.toBits := rfl
  simp only [Float.isNaN, Float.Model.isNaN, Float.Model.unpack, Float.Model.UnpackedFloat.unpack,
    hbits, hexponent]
  by_cases hmantissa :
      @Float.Model.UnpackedFloat.unpackMantissa .binary64 x.toBits.toBitVec = 0#52
  · simp [hmantissa, Float.Model.UnpackedFloat.isNaN]
  · simp [hmantissa, Float.Model.UnpackedFloat.isNaN]

/-- A number that is not finite is determined by whether it is one, and by its sign if it is. -/
theorem eq_of_ofFloat?_none {x y : Float} (hx : Binary.ofFloat? x = none)
    (hy : Binary.ofFloat? y = none) (hnan : x.isNaN = y.isNaN)
    (hsign : x.isNaN = false → isNegative x = isNegative y) : x = y := by
  have hexponent := unpackExponent_of_ofFloat?_none hx
  have hexponent' := unpackExponent_of_ofFloat?_none hy
  apply toBits_inj
  cases hn : x.isNaN with
  | true =>
    -- There is one pattern of bits for what is no number.
    have hmantissa := (isNaN_of_ofFloat?_none hx).1 hn
    have hmantissa' := (isNaN_of_ofFloat?_none hy).1 (hnan ▸ hn)
    have hbits := x.toModel.valid.eq_packedNaN hexponent hmantissa
    have hbits' := y.toModel.valid.eq_packedNaN hexponent' hmantissa'
    exact UInt64.toBitVec_inj.1 (hbits.trans hbits'.symm)
  | false =>
    have hfraction : ∀ z : Float, Binary.ofFloat? z = none → z.isNaN = false →
        z.toBits.toNat % 2 ^ 52 = 0 := by
      intro z hz hn
      rw [← toNat_unpackMantissa]
      by_cases hzero : @Float.Model.UnpackedFloat.unpackMantissa .binary64 z.toBits.toBitVec = 0#52
      · rw [hzero]
        rfl
      · rw [(isNaN_of_ofFloat?_none hz).2 hzero] at hn
        exact absurd hn.symm Bool.false_ne_true
    have hfx := hfraction x hx hn
    have hfy := hfraction y hy (hnan ▸ hn)
    have hex := congrArg BitVec.toNat hexponent
    have hey := congrArg BitVec.toNat hexponent'
    rw [toNat_unpackExponent] at hex hey
    have hs : x.toBits.toNat / 2 ^ 63 = 1 ↔ y.toBits.toNat / 2 ^ 63 = 1 := by
      rw [← isNegative_iff, ← isNegative_iff, hsign hn]
    have hbits := x.toBits.toNat_lt
    have hbits' := y.toBits.toNat_lt
    have hsame : x.toBits.toNat / 2 ^ 63 = y.toBits.toNat / 2 ^ 63 := by omega
    apply UInt64.toNat_inj.1
    rw [bits_split x.toBits.toNat, bits_split y.toBits.toNat, hsame, hex, hey, hfx, hfy]

/-- Only zeros compare equal to zero. -/
theorem eq_zero_of_compare {u : Float.Model.UnpackedFloat} {sign : Float.Model.UnpackedFloat.Sign}
    (h : (u.compare (.zero sign) == some .eq) = true) : ∃ sign', u = .zero sign' := by
  cases u with
  | infinity s => cases s <;> cases h
  | notANumber => cases h
  | zero s => exact ⟨s, rfl⟩
  | finite s => cases s <;> cases h

/-- A number that compares equal to zero and has no minus sign is zero. -/
theorem eq_zero_of_beq {x : Float} (h : (x == 0.0) = true) (hsign : isNegative x = false) :
    x = 0.0 := by
  have hzero : (0.0 : Float).toModel.unpack = .zero .positive := rfl
  have hbits : x.toModel.toBits = x.toBits := rfl
  have hcompare : (x.toModel.unpack.compare (0.0 : Float).toModel.unpack == some .eq) = true := h
  rw [hzero] at hcompare
  obtain ⟨sign, hunpack⟩ := eq_zero_of_compare hcompare
  -- Both the exponent and the mantissa of a zero are zero; only its sign is free.
  have hparts : x.toBits.toNat / 2 ^ 52 % 2 ^ 11 = 0 ∧ x.toBits.toNat % 2 ^ 52 = 0 := by
    rw [← toNat_unpackExponent, ← toNat_unpackMantissa]
    simp only [Float.Model.unpack, Float.Model.UnpackedFloat.unpack, hbits] at hunpack
    split at hunpack
    · split at hunpack <;> cases hunpack
    · split at hunpack
      case isTrue hexponent =>
        split at hunpack
        case isTrue hmantissa =>
          rw [hexponent, hmantissa]
          exact ⟨rfl, rfl⟩
        · cases hunpack
      · cases hunpack
  have hplus : x.toBits.toNat / 2 ^ 63 ≠ 1 := by
    rw [ne_eq, ← isNegative_iff, hsign]
    exact Bool.false_ne_true
  have hlt := x.toBits.toNat_lt
  have hsplit := bits_split x.toBits.toNat
  rw [hparts.1, hparts.2] at hsplit
  apply toBits_inj
  apply UInt64.toNat_inj.1
  rw [show (0.0 : Float).toBits.toNat = 0 from rfl]
  omega

end Hashmark.Number
