import Hashmark.Proofs.Condition.Composed
import Hashmark.Proofs.Literal

/-!
# Literals in conditions

A text that is a literal and that has a value as a condition as well is put together from values
that are written out (`isComposed_of_ofExpr`). Evaluation gives the value of the literal, but with a
tuple in the place of every list (`evalOperand_of_ofExpr`), and asks for no name
(`evalOperand_congr`).
-/

namespace Hashmark.Literal

open Condition (Composed Expr IsComposed IsFrozen Operand Resolver evalItems evalOperand)

variable {resolve : Resolver}

/-- A number without sign is written out. -/
theorem eq_constant_of_number? {e : Expr} {v : Value} (h : number? e = some v) :
    e = .constant v := by
  unfold number? at h
  split at h
  case h_4 => cases h
  all_goals rw [← Option.some.inj h]

/-- A number with a sign or without is put together from values. -/
theorem isComposed_of_signedNumber? {e : Expr} {v : Value} (h : signedNumber? e = some v) :
    IsComposed e := by
  unfold signedNumber? at h
  split at h
  · rw [eq_constant_of_number? h]
    exact .unary (.inl rfl) (.constant trivial)
  · split at h
    case h_1 u hnumber =>
      rw [eq_constant_of_number? hnumber]
      exact .unary (.inr rfl) (.constant trivial)
    case h_2 => cases h
  · rw [eq_constant_of_number? h]
    exact .constant trivial

/-- A complex number is put together from its parts. -/
theorem complexNumber_eq_ok {operation : Value → Value → Except Value.OperationFault Value}
    {left right : Expr} {v : Value} (h : complexNumber operation left right = .ok v) :
    ∃ real z, signedNumber? left = some real ∧ number? right = some (.complex z) ∧
      operation real (.complex z) = .ok v := by
  unfold complexNumber at h
  split at h
  · cases h
  case h_2 real z _ hleft hright =>
    split at h
    case h_1 u hoperation =>
      obtain rfl := Except.ok.inj h
      exact ⟨real, z, hleft, hright, hoperation⟩
    case h_2 => cases h
  · cases h

/-- Members that are literals are so each. -/
theorem ofExpr_of_ofItems {es : List Expr} {vs : List Value} (h : ofItems es = .ok vs) :
    ∀ e ∈ es, ∃ v, ofExpr e = .ok v := by
  induction es generalizing vs with
  | nil => exact nofun
  | cons d es ih =>
    rw [ofItems] at h
    split at h
    · cases h
    case h_2 v hd =>
      split at h
      · cases h
      case h_2 vs' hes => exact List.forall_mem_cons.2 ⟨⟨v, hd⟩, ih hes⟩

/-- Members that have values have one each. -/
theorem evalOperand_of_evalItems {es : List Expr} {vs : List Value}
    (h : evalItems resolve es = .ok vs) : ∀ e ∈ es, ∃ o, evalOperand resolve e = .ok o := by
  induction es generalizing vs with
  | nil => exact nofun
  | cons d es ih =>
    rw [evalItems] at h
    split at h
    · cases h
    case h_2 v hd =>
      split at h
      · cases h
      case h_2 vs' hes => exact List.forall_mem_cons.2 ⟨⟨v, hd⟩, ih hes⟩

/-- What is a literal and has a value is put together from values. -/
theorem isComposed_of_ofExpr {e : Expr} {v : Value} {o : Operand} (h : ofExpr e = .ok v)
    (ho : evalOperand resolve e = .ok o) : IsComposed e := by
  induction hsize : e.size using Nat.strongRecOn generalizing e v o with
  | ind n ih =>
    subst hsize
    -- The induction is on the size of the expression; the members of displays are smaller.
    have hitems : ∀ {items : List Expr} {vs us : List Value}, items = e.parts →
        ofItems items = .ok vs → evalItems resolve items = .ok us →
          ∀ d ∈ items, IsComposed d := by
      rintro items vs us rfl hvs hus d hd
      obtain ⟨w, hw⟩ := ofExpr_of_ofItems hvs d hd
      obtain ⟨p, hp⟩ := evalOperand_of_evalItems hus d hd
      exact ih d.size (Expr.size_lt_of_mem_parts hd) hw hp rfl
    rw [ofExpr.eq_def] at h
    split at h
    case h_1 => exact .constant trivial
    case h_2 items =>
      rw [evalOperand] at ho
      split at h
      · cases h
      case h_2 vs hvs =>
        split at ho
        · cases ho
        case h_2 us hus => exact .tuple (hitems rfl hvs hus)
    case h_3 items =>
      rw [evalOperand] at ho
      split at h
      · cases h
      case h_2 vs hvs =>
        split at ho
        · cases ho
        case h_2 us hus => exact .list (hitems rfl hvs hus)
    -- Sets and dictionaries are no values of conditions.
    case h_4 | h_5 | h_6 =>
      rw [evalOperand] at ho
      cases ho
    -- A sum of two numbers is a complex one, of which the second part is a constant.
    case h_7 left right =>
      obtain ⟨real, z, hleft, hright, -⟩ := complexNumber_eq_ok h
      rw [eq_constant_of_number? hright]
      exact .binary (.inl rfl) (isComposed_of_signedNumber? hleft) (.constant trivial)
    case h_8 left right =>
      obtain ⟨real, z, hleft, hright, -⟩ := complexNumber_eq_ok h
      rw [eq_constant_of_number? hright]
      exact .binary (.inr rfl) (isComposed_of_signedNumber? hleft) (.constant trivial)
    case h_9 =>
      split at h
      case h_1 u hu => exact isComposed_of_signedNumber? hu
      case h_2 => cases h

/-- A number with a sign or without has the same value in a condition. -/
theorem evalOperand_of_signedNumber? {e : Expr} {v : Value} {o : Operand}
    (h : signedNumber? e = some v) (ho : evalOperand resolve e = .ok o) : o.value = v := by
  have hconstant : ∀ {u : Value} {p : Operand}, evalOperand resolve (.constant u) = .ok p →
      p = .fresh u := by
    intro u p hp
    rw [evalOperand] at hp
    exact (Except.ok.inj hp).symm
  unfold signedNumber? at h
  split at h
  case h_1 =>
    obtain rfl := eq_constant_of_number? h
    rw [evalOperand, evalOperand] at ho
    have hplus := Condition.applyUnary_eq_ok ho
    obtain ⟨n, rfl⟩ | ⟨x, rfl⟩ | ⟨z, rfl⟩ := number?_cases h
    all_goals exact (Except.ok.inj hplus).symm
  case h_2 =>
    split at h
    case h_1 u hnumber =>
      obtain rfl := eq_constant_of_number? hnumber
      rw [evalOperand, evalOperand] at ho
      have hminus := Condition.applyUnary_eq_ok ho
      rw [show (Operand.fresh u).value = u from rfl] at hminus
      rw [hminus] at h
      exact Option.some.inj h
    case h_2 => cases h
  case h_3 =>
    obtain rfl := eq_constant_of_number? h
    rw [hconstant ho]
    rfl

/-- A sum or a difference that is a complex number has the same value in a condition. -/
theorem evalOperand_of_complexNumber {operator : Value.BinaryOperator} {left right : Expr}
    {v : Value} {o : Operand} (h : complexNumber operator.apply left right = .ok v)
    (ho : evalOperand resolve (.binary operator left right) = .ok o) : o.value = v := by
  obtain ⟨real, z, hleft, hright, hoperation⟩ := complexNumber_eq_ok h
  obtain ⟨a, b, ha, hb, happly⟩ := Condition.evalOperand_binary_eq_ok ho
  obtain ⟨-, happly⟩ := Condition.applyBinary_eq_ok happly
  obtain rfl := eq_constant_of_number? hright
  rw [evalOperand] at hb
  obtain rfl := Except.ok.inj hb
  rw [evalOperand_of_signedNumber? hleft ha] at happly
  exact Except.ok.inj (happly.symm.trans hoperation)

/-- A complex number is no list. -/
theorem isFrozen_of_complexNumber {operator : Value.BinaryOperator} {left right : Expr} {v : Value}
    (hsum : operator = .add ∨ operator = .subtract)
    (h : complexNumber operator.apply left right = .ok v) : IsFrozen v := by
  obtain ⟨real, z, hleft, -, hoperation⟩ := complexNumber_eq_ok h
  -- An integer is rounded first, if it is not too large.
  have hrounded : ∀ {n : ℤ} {f : Float → Number.Complex},
      ((Value.toFloat n).bind fun x => .ok (.complex (f x))) = .ok v → IsFrozen v := by
    intro n f hbind
    cases hx : Value.toFloat n with
    | error fault =>
      rw [hx] at hbind
      cases hbind
    | ok x =>
      rw [hx] at hbind
      obtain rfl := Except.ok.inj hbind
      rfl
  obtain ⟨n, rfl⟩ | ⟨x, rfl⟩ | ⟨w, rfl⟩ := signedNumber?_cases hleft
  · obtain rfl | rfl := hsum <;> exact hrounded hoperation
  all_goals
    obtain rfl | rfl := hsum
    all_goals
      obtain rfl := Except.ok.inj hoperation
      rfl

/-- Values of members are those of the literals, each with a tuple in the place of every list. -/
theorem evalItems_of_ofItems {items : List Expr} {vs us : List Value}
    (hitems : ∀ e ∈ items, ∀ v o, ofExpr e = .ok v → evalOperand resolve e = .ok o →
      o.value = v.frozen)
    (h : ofItems items = .ok vs) (hus : evalItems resolve items = .ok us) :
    us = Value.frozenItems vs := by
  induction items generalizing vs us with
  | nil =>
    rw [ofItems] at h
    rw [evalItems] at hus
    rw [← Except.ok.inj h, ← Except.ok.inj hus, Value.frozenItems]
  | cons e es ih =>
    obtain ⟨he, hes⟩ := List.forall_mem_cons.1 hitems
    rw [ofItems] at h
    rw [evalItems] at hus
    split at h
    · cases h
    case h_2 v hv =>
      split at h
      · cases h
      case h_2 vs' hvs =>
        split at hus
        · cases hus
        case h_2 o ho =>
          split at hus
          · cases hus
          case h_2 us' hus' =>
            rw [← Except.ok.inj h, ← Except.ok.inj hus, Value.frozenItems, he v o hv ho,
              ih hes hvs hus']

/-- The value of a literal in a condition is that of the literal, with a tuple in the place of every
list. -/
theorem evalOperand_of_ofExpr {e : Expr} (he : Composed IsFrozen e) {v : Value} {o : Operand}
    (h : ofExpr e = .ok v) (ho : evalOperand resolve e = .ok o) : o.value = v.frozen := by
  induction he generalizing v o with
  | constant hu =>
    rw [ofExpr] at h
    rw [evalOperand] at ho
    rw [← Except.ok.inj h, ← Except.ok.inj ho, hu]
    rfl
  | tuple _ ih | list _ ih =>
    rw [ofExpr] at h
    rw [evalOperand] at ho
    split at h
    · cases h
    case h_2 vs hvs =>
      split at ho
      · cases ho
      case h_2 us hus =>
        rw [← Except.ok.inj h, ← Except.ok.inj ho, Value.frozen]
        exact congrArg Value.tuple (evalItems_of_ofItems (fun e he v o => ih e he) hvs hus)
  -- The sign of a number is part of the literal.
  | unary =>
    rw [ofExpr.eq_def] at h
    simp only at h
    split at h
    case h_1 u hu =>
      obtain rfl := Except.ok.inj h
      rw [evalOperand_of_signedNumber? hu ho]
      obtain ⟨n, rfl⟩ | ⟨x, rfl⟩ | ⟨z, rfl⟩ := signedNumber?_cases hu <;> rfl
    case h_2 => cases h
  | @binary operator hsum left right =>
    have hcomplex : complexNumber operator.apply left right = .ok v := by
      obtain rfl | rfl := hsum
      all_goals
        rw [ofExpr] at h
        exact h
    rw [evalOperand_of_complexNumber hcomplex ho, isFrozen_of_complexNumber hsum hcomplex]

/-- No name has a part in the value of an expression put together from values. -/
theorem evalOperand_congr {kind : Value → Prop} {e : Expr} (he : Composed kind e)
    (resolve other : Resolver) : evalOperand resolve e = evalOperand other e := by
  have hitems : ∀ {items : List Expr},
      (∀ d ∈ items, evalOperand resolve d = evalOperand other d) →
        evalItems resolve items = evalItems other items := by
    intro items h
    induction items with
    | nil => rw [evalItems, evalItems]
    | cons d items ih =>
      obtain ⟨hd, hrest⟩ := List.forall_mem_cons.1 h
      rw [evalItems, evalItems, hd, ih hrest]
  induction he with
  | constant => rw [evalOperand, evalOperand]
  | tuple _ ih => rw [evalOperand, evalOperand, hitems ih]
  | list _ ih => rw [evalOperand, evalOperand, hitems ih]
  | unary _ _ ih => rw [evalOperand, evalOperand, ih]
  | binary hsum _ _ hleft hright =>
    obtain rfl | rfl := hsum
    all_goals
      rw [evalOperand, evalOperand, hleft, hright]
      all_goals
        intro heq
        cases heq

/-- A text that is a literal and has a value as a condition without names writes an expression put
together from values without lists. -/
theorem exists_composed {text : String} {v w : Value} (h : parse text = .ok v)
    (hw : Condition.evaluate (fun _ => .undefined) text = .ok w) :
    ∃ e o, Condition.parse? (Text.strip text).toList = some e ∧ Composed IsFrozen e ∧
      ofExpr e = .ok v ∧ evalOperand (fun _ => .undefined) e = .ok o ∧ o.value = w := by
  unfold parse at h
  split at h
  · cases h
  case h_2 e hparse =>
    unfold Condition.evaluate at hw
    split at hw
    · cases hw
    case h_2 e' hparse' =>
      obtain rfl := Condition.parse?_strip hparse hparse'
      split at hw
      case h_1 u hu =>
        obtain rfl := Except.ok.inj hw
        obtain ⟨o, ho, hvalue⟩ := Condition.eval_eq_ok_iff.1 hu
        have hcomposed := Condition.composed_of_parse? hparse' (isComposed_of_ofExpr h ho)
        exact ⟨e, o, hparse', hcomposed, h, ho, hvalue⟩
      case h_2 => cases hw

/-- A text that is a literal and has a value as a condition without names has that of the literal,
with a tuple in the place of every list. -/
theorem evaluate_of_parse {text : String} {v w : Value} (h : parse text = .ok v)
    (hw : Condition.evaluate (fun _ => .undefined) text = .ok w) : w = v.frozen := by
  obtain ⟨e, o, -, hcomposed, hv, ho, rfl⟩ := exists_composed h hw
  exact evalOperand_of_ofExpr hcomposed hv ho

end Hashmark.Literal
