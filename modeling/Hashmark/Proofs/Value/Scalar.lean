import Hashmark.Proofs.Number.Decimal
import Hashmark.Proofs.Text.Quoted
import Hashmark.Value.Text

/-!
# The texts of numbers as values

Integers and numbers in floating point are determined by their texts, and so are complex numbers:
each part is a numeral, with or without a fraction of zero, and ends at a sign or at the mark of the
imaginary part (`complexText_append_inj`). Only complex numbers have that mark, and only integers
have no point, no exponent, and no letter, so that the kinds are told apart.
-/

namespace Hashmark.Value

open Number

/-- A part of a complex number writes the part. -/
theorem writes_partText (x : Float) : Writes (partText x).toList x := by
  have hwrites := writes_floatText x
  unfold partText
  simp only
  split
  case isFalse => simpa using hwrites
  case isTrue hdrop =>
    have hsplit := List.take_append_drop ((floatText x).toList.length - 2) (floatText x).toList
    rw [hdrop] at hsplit
    rw [String.toList_ofList]
    generalize (floatText x).toList.take ((floatText x).toList.length - 2) = before at hsplit ⊢
    unfold Writes at hwrites ⊢
    -- What is left out, a point and a zero, is the end of no special value, and of a number it is
    -- the fraction.
    cases hb : Binary.ofFloat? x with
    | none =>
      simp only [hb] at hwrites
      have hlast := congrArg List.getLast? (hsplit.trans hwrites)
      simp only [List.getLast?_append, specialText] at hlast
      split at hlast
      · simp at hlast
      · split at hlast <;> simp at hlast
    | some b =>
      simp only [hb] at hwrites ⊢
      obtain ⟨n, hn, htext⟩ := hwrites
      have hsign : '.' ∉ signText b.negative := by unfold signText; split <;> simp
      obtain ⟨hfraction, hexponent, hbefore⟩ :=
        Numeral.fraction_of_text hn.valid (htext.symm.trans hsplit.symm) hsign
      -- A fraction of one zero adds nothing to the value.
      have hvalue : (Numeral.mk n.whole [] Option.none).value = n.value := by
        simp only [Numeral.value, Numeral.power, hfraction, hexponent]
        rw [← List.replicate_one, ofDigitChars_append_zeros]
        push_cast
        simp
        ring
      refine ⟨⟨n.whole, [], Option.none⟩, ⟨⟨hn.valid.whole, hn.valid.whole_ne, by simp [Numeral.AllDigits],
        by simp, by simp⟩, ?_, ?_⟩, ?_⟩
      · exact fun hzero => hvalue.trans (hn.zero hzero)
      · exact fun hne => hvalue ▸ hn.rounds hne
      · rw [hbefore]
        simp [Numeral.text, Numeral.pointed, Numeral.marked]

/-- The sign between the parts of a complex number, if the second one has none of its own, and that
part. -/
def signedPart (im : List Char) : List Char :=
  if im.head? = some '-' then im else '+' :: im

/-- Whether a complex number is written as its imaginary part: the real part is zero and has no
minus sign. -/
def isImaginary (z : Number.Complex) : Bool :=
  z.re == 0.0 && !isNegative z.re

/-- A complex number is written as its imaginary part with the mark of one. -/
theorem toList_complexText_imaginary {z : Number.Complex} (h : isImaginary z = true) :
    (complexText z).toList = (partText z.im).toList ++ ['j'] := by
  unfold isImaginary at h
  rw [complexText, if_pos h, String.toList_append]
  rfl

/-- A complex number is written as both parts in parentheses. -/
theorem toList_complexText {z : Number.Complex} (h : isImaginary z = false) :
    (complexText z).toList = '(' :: ((partText z.re).toList ++
      (signedPart (partText z.im).toList ++ ['j', ')'])) := by
  obtain ⟨c, rest, hcons⟩ := List.exists_cons_of_ne_nil (writes_partText z.im).ne_nil
  unfold isImaginary at h
  rw [complexText, if_neg (by rw [h]; exact Bool.false_ne_true)]
  simp only [String.toList_append, hcons, signedPart, List.cons_append, List.head?_cons,
    Option.some.injEq]
  by_cases hc : c = '-'
  · simp [hc]
  · simp [hc]

/-- The mark of an imaginary part ends a numeral. -/
theorem ends_mark (rest : List Char) : Numeral.Ends ('j' :: rest) := by
  simp [Numeral.Ends]

/-- The sign of an imaginary part ends a numeral. -/
theorem ends_signedPart (im rest : List Char) (hne : im ≠ []) :
    Numeral.Ends (signedPart im ++ rest) := by
  obtain ⟨c, cs, rfl⟩ := List.exists_cons_of_ne_nil hne
  unfold signedPart
  split
  case isTrue hminus =>
    obtain rfl : c = '-' := by simpa using hminus
    simp [Numeral.Ends]
  · simp [Numeral.Ends]

/-- An imaginary part is determined by its text with a sign. -/
theorem signedPart_append_inj {a b : Float} {x y : List Char}
    (h : signedPart (partText a).toList ++ 'j' :: x = signedPart (partText b).toList ++ 'j' :: y) :
    a = b ∧ x = y := by
  have hmark := writes_append_inj (writes_partText a) (writes_partText b) (ends_mark x) (ends_mark y)
  unfold signedPart at h
  have hdone : (partText a).toList ++ 'j' :: x = (partText b).toList ++ 'j' :: y → a = b ∧ x = y :=
    fun h => ⟨(hmark h).1, (List.cons.inj (hmark h).2).2⟩
  obtain ⟨c, cs, hc⟩ := List.exists_cons_of_ne_nil (writes_partText a).ne_nil
  obtain ⟨d, ds, hd⟩ := List.exists_cons_of_ne_nil (writes_partText b).ne_nil
  split at h
  case isTrue hminus =>
    split at h
    · exact hdone h
    · rw [hc] at h hminus
      obtain rfl : c = '-' := by simpa using hminus
      cases (List.cons.inj h).1
  case isFalse =>
    split at h
    case isTrue hminus =>
      rw [hd] at h hminus
      obtain rfl : d = '-' := by simpa using hminus
      cases (List.cons.inj h).1
    · exact hdone (List.cons.inj h).2

/-- Complex numbers written as their imaginary parts are determined by their texts. -/
theorem imaginary_inj {z w : Number.Complex} (hz : isImaginary z = true) (hw : isImaginary w = true)
    (h : (complexText z).toList = (complexText w).toList) : z = w := by
  rw [toList_complexText_imaginary hz, toList_complexText_imaginary hw] at h
  have him := (writes_append_inj (writes_partText z.im) (writes_partText w.im) (ends_mark [])
    (ends_mark []) h).1
  have hzero : ∀ {v : Number.Complex}, isImaginary v = true → v.re = 0.0 := by
    intro v hv
    rw [isImaginary, Bool.and_eq_true, Bool.not_eq_true'] at hv
    exact eq_zero_of_beq hv.1 hv.2
  have hre := (hzero hz).trans (hzero hw).symm
  cases z
  cases w
  simp_all

/-- Complex numbers written in parentheses end at the closing one and are determined by their
texts. -/
theorem complexText_append_inj {z w : Number.Complex} (hz : isImaginary z = false) (hw : isImaginary w = false)
    {x y : List Char} (h : (complexText z).toList ++ x = (complexText w).toList ++ y) :
    z = w ∧ x = y := by
  rw [toList_complexText hz, toList_complexText hw] at h
  simp only [List.cons_append, List.append_assoc, List.cons.injEq, true_and] at h
  obtain ⟨hre, hrest⟩ := writes_append_inj (writes_partText z.re) (writes_partText w.re)
    (ends_signedPart _ _ (writes_partText z.im).ne_nil)
    (ends_signedPart _ _ (writes_partText w.im).ne_nil) h
  obtain ⟨him, hend⟩ := signedPart_append_inj hrest
  refine ⟨?_, (List.cons.inj hend).2⟩
  cases z
  cases w
  simp_all

/-- The characters that names and numbers are written with. -/
def isBare (c : Char) : Bool :=
  c.isAlphanum || c = '.' || c = '+' || c = '-'

/-- Characters of numbers are such characters. -/
theorem isBare_of_isNumberChar {c : Char} (h : isNumberChar c = true) : isBare c = true := by
  rw [isNumberChar, Bool.or_eq_true] at h
  obtain hdigit | hother := h
  · simp [isBare, Char.isAlphanum, hdigit]
  · have hall : ∀ c ∈ ['.', 'e', '+', '-', 'n', 'a', 'i', 'f'], isBare c = true :=
      List.all_eq_true.1 (by decide)
    exact hall c (by simpa using hother)

/-- The characters between the parentheses around a complex number are those of numbers and the
mark. -/
theorem isBare_parts (z : Number.Complex) : ∀ c ∈ (partText z.re).toList ++
    (signedPart (partText z.im).toList ++ ['j']), isBare c = true := by
  intro c hc
  obtain hc | hc := List.mem_append.1 hc
  · exact isBare_of_isNumberChar ((writes_partText z.re).isNumberChar c hc)
  · obtain hc | hc := List.mem_append.1 hc
    · rw [signedPart] at hc
      split at hc
      · exact isBare_of_isNumberChar ((writes_partText z.im).isNumberChar c hc)
      · obtain rfl | hc := List.mem_cons.1 hc
        · rfl
        · exact isBare_of_isNumberChar ((writes_partText z.im).isNumberChar c hc)
    · obtain rfl := List.mem_singleton.1 hc
      rfl

/-- An integer is written as its sign and the digits of its size. -/
theorem toList_intText (n : Int) :
    (intText n).toList = signText (decide (n < 0)) ++ Nat.toDigits 10 n.natAbs := by
  cases n with
  | ofNat n =>
    have hsign : ¬(Int.ofNat n < 0) := by simp
    simp only [hsign, decide_false]
    exact Nat.toList_repr
  | negSucc n =>
    have hsign : Int.negSucc n < 0 := Int.negSucc_lt_zero n
    simp only [hsign, decide_true]
    have htext : intText (Int.negSucc n) = "-" ++ (n + 1).repr := rfl
    rw [htext, String.toList_append, Nat.toList_repr]
    rfl

/-- The characters of an integer are digits and a sign. -/
theorem intText_chars (n : Int) : ∀ c ∈ (intText n).toList, c.isDigit = true ∨ c = '-' := by
  intro c hc
  rw [toList_intText, signText] at hc
  obtain hc | hc := List.mem_append.1 hc
  · split at hc
    · exact .inr (List.mem_singleton.1 hc)
    · cases hc
  · exact .inl (Nat.isDigit_of_mem_toDigits (by decide) (by decide) hc)

/-- An integer is determined by its text. -/
theorem intText_inj {n m : Int} (h : (intText n).toList = (intText m).toList) : n = m := by
  have hdigits : ∀ k : ℕ, Numeral.AllDigits (Nat.toDigits 10 k) := fun k c hc =>
    Nat.isDigit_of_mem_toDigits (by decide) (by decide) hc
  have hvalid : ∀ k : ℕ, (Numeral.mk (Nat.toDigits 10 k) [] Option.none).Valid := fun k =>
    ⟨hdigits k, Nat.toDigits_ne_nil, by simp [Numeral.AllDigits], by simp, by simp⟩
  have htext : ∀ k : ℕ, (Numeral.mk (Nat.toDigits 10 k) [] Option.none).text =
      Nat.toDigits 10 k := by
    simp [Numeral.text, Numeral.pointed, Numeral.marked]
  rw [toList_intText, toList_intText, ← htext, ← htext m.natAbs] at h
  have hend : Numeral.Ends [] := by simp [Numeral.Ends]
  obtain ⟨hsign, hnumeral, -⟩ := signed_append_inj (hvalid n.natAbs) (hvalid m.natAbs) hend hend
    (congrArg (· ++ []) h)
  have hread := congrArg (fun n => Nat.ofDigitChars 10 n.whole 0) hnumeral
  simp only [Nat.ofDigitChars_ten_toDigits] at hread
  have hless : n < 0 ↔ m < 0 := by simpa using hsign
  omega

end Hashmark.Value
