import Hashmark.Pass.State
import Hashmark.Proofs.Condition.Parts
import Hashmark.Proofs.Value.Arithmetic

/-!
# Repeated sequences in conditions

Before a text, bytes or a tuple is repeated, the length of the result is checked, so that such a
product never has more members than the limit (`eval_product`). A list is not checked. No expression
writes one, but the text of a macro may, and a condition can then repeat it far beyond the limit
(`evaluate_long_list`).
-/

namespace Hashmark.Condition

open Value (Repeats BinaryOperator)

section Check

variable {a b v : Value} {length : ℕ} {n : Int}

/-- A sequence that is no list is checked before it is repeated. -/
theorem repeatedLength?_of_sequenceLength? (h : a.sequenceLength? = some length)
    (hlist : ∀ items, a ≠ .list items) : repeatedLength? a = some length := by
  cases a with
  | list items => exact absurd rfl (hlist items)
  | text | bytes | tuple => exact h
  | _ => cases h

/-- A sequence is no integer. -/
theorem toInt?_of_repeatedLength? (h : repeatedLength? a = some length) : a.toInt? = none := by
  cases a with
  | text | bytes | tuple => rfl
  | _ => cases h

/-- A repetition that the check allows has at most as many members as the limit says. -/
theorem length_le_of_checkRepetition (h : checkRepetition a b = .ok ())
    (ha : repeatedLength? a = some length) (hb : b.toInt? = some n) :
    length * n.toNat ≤ maxLength := by
  simp only [checkRepetition, ha, hb] at h
  split at h
  case isTrue => cases h
  case isFalse hle =>
    -- A negative count leaves nothing, whatever the check says.
    rcases Int.le_total 0 n with hn | hn
    · have hcast : ((n.toNat : ℕ) : Int) = n := Int.toNat_of_nonneg hn
      rw [← hcast] at hle
      exact_mod_cast Int.not_lt.1 hle
    · rw [Int.toNat_of_nonpos hn, Nat.mul_zero]
      exact Nat.zero_le _

/-- A repetition of more members than the limit says is refused. -/
theorem checkRepetition_of_lt (ha : repeatedLength? a = some length) (hb : b.toInt? = some n)
    (h : (maxLength : Int) < length * n) :
    checkRepetition a b = .error (naming .sequenceTooLong b) := by
  simp only [checkRepetition, ha, hb, if_pos h]

/-- A product of a sequence and an integer, in either order, is checked as the repetition that it
is. -/
theorem checkSize_multiply (ha : repeatedLength? a = some length) (hb : b.toInt? = some n) :
    checkSize .multiply a b = checkRepetition a b ∧
      checkSize .multiply b a = checkRepetition a b := by
  have hnone := toInt?_of_repeatedLength? ha
  have hcount : repeatedLength? b = none := by
    cases hlength : repeatedLength? b with
    | none => rfl
    | some other =>
      rw [toInt?_of_repeatedLength? hlength] at hb
      cases hb
  -- An integer is no sequence, so that the check in the other order allows everything.
  have hother : checkRepetition b a = .ok () := by
    unfold checkRepetition
    rw [hcount]
  simp only [checkSize, hnone, hb, hother]
  constructor
  · cases checkRepetition a b <;> rfl
  · trivial

/-- A sequence that is no list and repeats another repeats one that is checked. -/
theorem repeatedLength?_of_repeats {count : ℕ} (h : Repeats count a v)
    (hlist : ∀ items, v ≠ .list items) :
    ∃ length, repeatedLength? a = some length ∧ v.sequenceLength? = some (length * count) := by
  obtain ⟨length, ha, hv⟩ := h.length
  refine ⟨length, repeatedLength?_of_sequenceLength? ha ?_, hv⟩
  rintro items rfl
  cases h
  exact hlist _ rfl

/-- A product of numbers is no sequence. -/
theorem sequenceLength?_of_numeric
    (h : Value.numeric (fun m n => .ok (.int (m * n))) (fun x y => .ok (.float (x * y)))
      (fun z w => .ok (.complex (z.mul w))) a b = .ok v) : v.sequenceLength? = none := by
  refine Value.numeric_induction (motive := fun u => u.sequenceLength? = none)
    (fun m n u _ _ hu => ?_) (fun x y u hu => ?_) (fun x y u hu => ?_) h <;>
    rw [← Except.ok.inj hu] <;> rfl

/-- A product that is a sequence and no list has at most as many members as the limit says, if its
size has been checked. -/
theorem length_le_of_multiply (hcheck : checkSize .multiply a b = .ok ())
    (h : Value.multiply a b = .ok v) (hv : v.sequenceLength? = some length)
    (hlist : ∀ items, v ≠ .list items) : length ≤ maxLength := by
  obtain ⟨n, hn, hrepeats⟩ | ⟨n, hn, hrepeats⟩ | hproduct := Value.multiply_cases h
  · obtain ⟨members, hmembers, hlength⟩ := repeatedLength?_of_repeats hrepeats hlist
    rw [(checkSize_multiply hmembers hn).1] at hcheck
    rw [hv] at hlength
    rw [Option.some.inj hlength]
    exact length_le_of_checkRepetition hcheck hmembers hn
  · obtain ⟨members, hmembers, hlength⟩ := repeatedLength?_of_repeats hrepeats hlist
    rw [(checkSize_multiply hmembers hn).2] at hcheck
    rw [hv] at hlength
    rw [Option.some.inj hlength]
    exact length_le_of_checkRepetition hcheck hmembers hn
  · rw [sequenceLength?_of_numeric hproduct] at hv
    cases hv

/-- A product that is a list consists of the members of one that is an operand. -/
theorem list_of_multiply {copies : List Value} (h : Value.multiply a b = .ok (.list copies)) :
    ∃ items n, (a = .list items ∧ b.toInt? = some n ∨ a.toInt? = some n ∧ b = .list items) ∧
      copies = Value.repeatItems items n.toNat := by
  obtain ⟨n, hn, hrepeats⟩ | ⟨n, hn, hrepeats⟩ | hproduct := Value.multiply_cases h
  · cases hrepeats with
    | list items => exact ⟨items, n, .inl ⟨rfl, hn⟩, rfl⟩
  · cases hrepeats with
    | list items => exact ⟨items, n, .inr ⟨hn, rfl⟩, rfl⟩
  · have hnone := sequenceLength?_of_numeric hproduct
    cases hnone

end Check

section Product

variable {resolve : Resolver} {left right : Expr} {a b v : Value}

/-- A product of expressions is that of their values, if its size is allowed. -/
theorem eval_multiply (hleft : eval resolve left = .ok a) (hright : eval resolve right = .ok b) :
    eval resolve (.binary .multiply left right) =
      match checkSize .multiply a b with
      | .error e => .error e
      | .ok () => ofOperation (Value.multiply a b) := by
  obtain ⟨l, hl, rfl⟩ := eval_eq_ok_iff.1 hleft
  obtain ⟨r, hr, rfl⟩ := eval_eq_ok_iff.1 hright
  unfold eval
  rw [evalOperand, hl, hr]
  swap
  · exact BinaryOperator.noConfusion
  simp only [applyBinary]
  cases checkSize .multiply l.value r.value with
  | error e => rfl
  | ok =>
    simp only [Value.BinaryOperator.apply]
    cases Value.multiply l.value r.value <;> rfl

/-- A product that has a value is one of values whose size is allowed. -/
theorem eval_multiply_eq_ok (h : eval resolve (.binary .multiply left right) = .ok v) :
    ∃ a b, eval resolve left = .ok a ∧ eval resolve right = .ok b ∧
      checkSize .multiply a b = .ok () ∧ Value.multiply a b = .ok v := by
  obtain ⟨operand, hoperand, rfl⟩ := eval_eq_ok_iff.1 h
  obtain ⟨a, b, hleft, hright, happly⟩ := evalOperand_binary_eq_ok hoperand
  obtain ⟨hcheck, hresult⟩ := applyBinary_eq_ok happly
  exact ⟨a.value, b.value, eval_eq_ok_iff.2 ⟨a, hleft, rfl⟩, eval_eq_ok_iff.2 ⟨b, hright, rfl⟩,
    hcheck, hresult⟩

end Product

/-- Conditions do not repeat a text, bytes or a tuple beyond the limit, whatever names lead to:

* a product that is a sequence and no list has at most as many members as the limit says;
* a repetition of a text, bytes or a tuple that would have more is refused, in either order of the
  operands;
* a product that is a list has the members of one of its operands, which is a list, as often as the
  other says, so that it too keeps within the limit if the length of that list times the count
  does. -/
theorem eval_product (resolve : Resolver) (left right : Expr) :
    (∀ v length, eval resolve (.binary .multiply left right) = .ok v →
      v.sequenceLength? = some length → (∀ items, v ≠ .list items) → length ≤ maxLength) ∧
    (∀ sequence count length n,
      (eval resolve left = .ok sequence ∧ eval resolve right = .ok count ∨
        eval resolve left = .ok count ∧ eval resolve right = .ok sequence) →
      repeatedLength? sequence = some length → count.toInt? = some n →
      (maxLength : Int) < length * n →
      eval resolve (.binary .multiply left right) =
        .error (naming .sequenceTooLong count)) ∧
    (∀ copies, eval resolve (.binary .multiply left right) = .ok (.list copies) →
      ∃ items count n,
        (eval resolve left = .ok (.list items) ∧ eval resolve right = .ok count ∨
          eval resolve left = .ok count ∧ eval resolve right = .ok (.list items)) ∧
        count.toInt? = some n ∧ copies.length = items.length * n.toNat) := by
  refine ⟨?_, ?_, ?_⟩
  · intro v length hv hlength hlist
    obtain ⟨a, b, -, -, hcheck, hproduct⟩ := eval_multiply_eq_ok hv
    exact length_le_of_multiply hcheck hproduct hlength hlist
  · intro sequence count length n hoperands hlength hn hlt
    have hrefused := checkRepetition_of_lt hlength hn hlt
    obtain ⟨hfirst, hsecond⟩ := checkSize_multiply hlength hn
    obtain ⟨hleft, hright⟩ | ⟨hleft, hright⟩ := hoperands
    · rw [eval_multiply hleft hright, hfirst, hrefused]
    · rw [eval_multiply hleft hright, hsecond, hrefused]
  · intro copies hcopies
    obtain ⟨a, b, hleft, hright, -, hproduct⟩ := eval_multiply_eq_ok hcopies
    obtain ⟨items, n, hoperands, rfl⟩ := list_of_multiply hproduct
    have hlength := Value.length_repeatItems items n.toNat
    obtain ⟨rfl, hn⟩ | ⟨hn, rfl⟩ := hoperands
    · exact ⟨items, b, n, .inl ⟨hleft, hright⟩, hn, hlength⟩
    · exact ⟨items, a, n, .inr ⟨hleft, hright⟩, hn, hlength⟩

/-- A text of two characters that is to be repeated once too often, and once. -/
theorem eval_product_text :
    let resolve : Resolver := fun _ => .found (.text "ab") true
    eval resolve (.binary .multiply (.constant (.int 524289)) (.name "T")) =
        .error (.sequenceTooLong "524289") ∧
      ∃ v, eval resolve (.binary .multiply (.name "T") (.constant (.bool true))) = .ok v ∧
        v.sequenceLength? = some 2 ∧ 2 ≤ maxLength := by
  intro resolve
  obtain ⟨-, hrefused, -⟩ := eval_product resolve (.constant (.int 524289)) (.name "T")
  obtain ⟨hlimit, -, -⟩ := eval_product resolve (.name "T") (.constant (.bool true))
  have hname : naming .sequenceTooLong (.int 524289) = .sequenceTooLong "524289" := by
    decide +kernel
  constructor
  · rw [← hname]
    exact hrefused (.text "ab") (.int 524289) 2 524289 (.inr ⟨rfl, rfl⟩) rfl rfl (by decide)
  · exact ⟨.text "ab", rfl, rfl, hlimit (.text "ab") 2 rfl rfl fun _ h => nomatch h⟩

/-- A macro that is read as a list of one member can be repeated to a list of more members than the
limit says. -/
theorem evaluate_long_list :
    let env : Pass.Environment := ⟨{}, ⟨[], ⟨"/", []⟩, 0⟩⟩
    let state : Pass.State :=
      { Pass.State.start .scoped with macros := ⟨[⟨"L", "[0]", .unknown, none⟩]⟩ }
    ∃ copies, evaluate (Pass.lookup env state) "L * 1048577" = .ok (.list copies) ∧
      copies.length = 1048577 ∧ maxLength < copies.length := by
  intro env state
  have hparse : parse? (Text.strip "L * 1048577").toList =
      some (.binary .multiply (.name "L") (.constant (.int 1048577))) := by
    cbv
  have hlist : eval (Pass.lookup env state) (.name "L") = .ok (.list [.int 0]) := rfl
  have hcount : eval (Pass.lookup env state) (.constant (.int 1048577)) = .ok (.int 1048577) := rfl
  -- The list is not computed here; its length is known from how it is made.
  have hproduct : Value.multiply (.list [.int 0]) (.int 1048577) =
      .ok (.list (Value.repeatItems [.int 0] 1048577)) :=
    Value.repeatSequence_list (by decide) (by decide) (by decide)
  have hlength := Value.length_repeatItems [Value.int 0] 1048577
  refine ⟨Value.repeatItems [.int 0] 1048577, ?_, hlength, ?_⟩
  · unfold evaluate
    simp only [hparse]
    rw [eval_multiply hlist hcount, hproduct]
    rfl
  · rw [hlength]
    decide

end Hashmark.Condition
