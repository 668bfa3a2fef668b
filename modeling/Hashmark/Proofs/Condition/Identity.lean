import Hashmark.Proofs.Condition.Parts

/-!
# Conditions that do not ask which object a value is

Only two comparisons look at more of their operands than the values: they ask whether the operands
are the same object. An expression without such comparisons (`Expr.IgnoresIdentity`) has the same
value whichever objects its names lead to, as long as they lead to the same values
(`evalOperand_alike`). The induction is over the expressions within it, and what one operation does
with operands of the same values is said in one lemma for each.
-/

namespace Hashmark.Condition

/-- The comparisons that ask whether their operands are the same object. -/
def Comparison.AsksIdentity : Comparison → Prop
  | .identical | .notIdentical => True
  | _ => False

/-- No comparison within an expression asks whether its operands are the same object. -/
def Expr.IgnoresIdentity (e : Expr) : Prop :=
  ∀ first links, Expr.Within (.comparison first links) e → ∀ link ∈ links, ¬link.1.AsksIdentity

/-- What a name leads to, but for which object it is. -/
def Lookup.forget : Lookup → Lookup
  | .found v _ => .found v .fresh
  | other => other

/-- Operands with the same value, or the same fault. -/
inductive Alike : Except EvalFault Operand → Except EvalFault Operand → Prop
  /-- The same fault. -/
  | error (fault : EvalFault) : Alike (.error fault) (.error fault)
  /-- The same value. -/
  | ok {a b : Operand} (h : a.value = b.value) : Alike (.ok a) (.ok b)

/-- A result is like itself. -/
theorem Alike.refl (result : Except EvalFault Operand) : Alike result result := by
  cases result with
  | error fault => exact .error fault
  | ok a => exact .ok rfl

/-- Results that are alike have the same value. -/
theorem Alike.map_value {one other : Except EvalFault Operand} (h : Alike one other) :
    one.map Operand.value = other.map Operand.value := by
  cases h with
  | error fault => rfl
  | ok h => exact congrArg Except.ok h

section Operations

variable {a a' b b' : Operand}

/-- An operator with one operand looks at its value. -/
theorem applyUnary_alike (operator : Value.UnaryOperator) (ha : a.value = a'.value) :
    Alike (applyUnary operator a) (applyUnary operator a') := by
  unfold applyUnary
  rw [ha]
  cases ofOperation (operator.apply a'.value) with
  | error fault => exact .error fault
  | ok v => exact .ok rfl

/-- An operator with two operands looks at their values. -/
theorem applyBinary_alike (operator : Value.BinaryOperator) (ha : a.value = a'.value)
    (hb : b.value = b'.value) : Alike (applyBinary operator a b) (applyBinary operator a' b') := by
  unfold applyBinary
  rw [ha, hb]
  cases checkSize operator a'.value b'.value with
  | error fault => exact .error fault
  | ok done =>
    simp only
    cases ofOperation (operator.apply a'.value b'.value) with
    | error fault => exact .error fault
    | ok v => exact .ok rfl

/-- A comparison that does not ask for identity looks at the values of its operands. -/
theorem compareOperands_alike {comparison : Comparison} (h : ¬comparison.AsksIdentity)
    (ha : a.value = a'.value) (hb : b.value = b'.value) :
    compareOperands comparison a b = compareOperands comparison a' b' := by
  cases comparison with
  | identical => exact absurd trivial h
  | notIdentical => exact absurd trivial h
  | _ => simp only [compareOperands, ha, hb]

end Operations

section Expressions

variable {one other : Resolver}

/-- A name has the same value. -/
theorem lookupName_alike (h : ∀ name, (one name).forget = (other name).forget) (name : String) :
    Alike (lookupName one name) (lookupName other name) := by
  have hname := h name
  unfold lookupName
  cases hone : one name <;> cases hother : other name <;> rw [hone, hother] at hname
  case found.found v shared v' shared' =>
    obtain ⟨rfl, -⟩ := Lookup.found.inj hname
    exact .ok rfl
  case undefined.undefined => exact .error _
  case overflow.overflow => exact .error _
  all_goals cases hname

/-- A name is defined or not, whichever object it leads to. -/
theorem isDefined_forget (h : ∀ name, (one name).forget = (other name).forget) (name : String) :
    isDefined one name = isDefined other name := by
  have hname := h name
  unfold isDefined
  cases hone : one name <;> cases hother : other name <;> rw [hone, hother] at hname
  all_goals cases hname

/-- Members that are alike have the same values. -/
theorem evalItems_alike {items : List Expr}
    (h : ∀ e ∈ items, Alike (evalOperand one e) (evalOperand other e)) :
    evalItems one items = evalItems other items := by
  induction items with
  | nil => rw [evalItems, evalItems]
  | cons e es ih =>
    obtain ⟨he, hes⟩ := List.forall_mem_cons.1 h
    rw [evalItems, evalItems, ih hes]
    generalize evalOperand one e = first at he
    generalize evalOperand other e = second at he
    cases he with
    | error fault => rfl
    | ok hvalue => simp only [hvalue]

/-- Operands that are alike decide a connective alike. -/
theorem evalConnected_alike {connective : Connective} {es : List Expr}
    (h : ∀ e ∈ es, Alike (evalOperand one e) (evalOperand other e)) {last last' : Operand}
    (hlast : last.value = last'.value) :
    Alike (evalConnected one connective last es) (evalConnected other connective last' es) := by
  induction es generalizing last last' with
  | nil =>
    rw [evalConnected, evalConnected]
    exact .ok hlast
  | cons e es ih =>
    obtain ⟨he, hes⟩ := List.forall_mem_cons.1 h
    rw [evalConnected, evalConnected]
    generalize evalOperand one e = first at he
    generalize evalOperand other e = second at he
    cases he with
    | error fault => exact .error fault
    | ok hvalue =>
      simp only [hvalue]
      split
      · exact .ok hvalue
      · exact ih hes hvalue

/-- Chains of comparisons between operands that are alike hold alike, if none of them asks for
identity. -/
theorem evalLinks_alike {links : List (Comparison × Expr)}
    (hasks : ∀ link ∈ links, ¬link.1.AsksIdentity)
    (h : ∀ link ∈ links, Alike (evalOperand one link.2) (evalOperand other link.2))
    {left left' : Operand} (hleft : left.value = left'.value) :
    Alike (evalLinks one left links) (evalLinks other left' links) := by
  induction links generalizing left left' with
  | nil =>
    rw [evalLinks, evalLinks]
    exact .ok rfl
  | cons link links ih =>
    obtain ⟨comparison, e⟩ := link
    obtain ⟨hcomparison, hrest⟩ := List.forall_mem_cons.1 hasks
    obtain ⟨he, hes⟩ := List.forall_mem_cons.1 h
    rw [evalLinks, evalLinks]
    dsimp only at he hcomparison
    generalize evalOperand one e = first at he
    generalize evalOperand other e = second at he
    cases he with
    | error fault => exact .error fault
    | ok hvalue =>
      simp only [compareOperands_alike hcomparison hleft hvalue]
      split
      · exact .error _
      · exact ih hrest hes hvalue
      · exact .ok rfl

/-- An expression that does not ask for identity has the same value whichever objects its names lead
to. -/
theorem evalOperand_alike (h : ∀ name, (one name).forget = (other name).forget) {e : Expr}
    (he : e.IgnoresIdentity) : Alike (evalOperand one e) (evalOperand other e) := by
  refine Expr.Within.induction (motive := fun d => Alike (evalOperand one d) (evalOperand other d))
    (fun d hd ih => ?_) e .refl
  cases d with
  | constant v =>
    rw [evalOperand, evalOperand]
    exact .ok rfl
  | name n =>
    rw [evalOperand, evalOperand]
    exact lookupName_alike h n
  | tuple items | list items =>
    have hitems : evalItems one items = evalItems other items := evalItems_alike ih
    rw [evalOperand, evalOperand, hitems]
    exact .refl _
  | set | dict | starred | other =>
    rw [evalOperand, evalOperand]
    exact .error _
  | call callee arguments hasNamed =>
    rw [evalOperand, evalOperand]
    split
    · rw [isDefined_forget h]
      exact .refl _
    · exact .error _
  | unary operator operand =>
    have hoperand := ih operand (List.mem_singleton_self _)
    rw [evalOperand, evalOperand]
    generalize evalOperand one operand = first at hoperand
    generalize evalOperand other operand = second at hoperand
    cases hoperand with
    | error fault => exact .error fault
    | ok ha => exact applyUnary_alike operator ha
  | binary operator left right =>
    have hleft := ih left List.mem_cons_self
    have hright := ih right (List.mem_cons_of_mem _ List.mem_cons_self)
    by_cases hmatrix : operator = .matrixMultiply
    · rw [hmatrix, evalOperand, evalOperand]
      exact .error _
    rw [evalOperand, evalOperand]
    · generalize evalOperand one left = first at hleft
      generalize evalOperand other left = second at hleft
      generalize evalOperand one right = third at hright
      generalize evalOperand other right = fourth at hright
      cases hleft with
      | error fault => exact .error fault
      | ok ha =>
        cases hright with
        | error fault => exact .error fault
        | ok hb => exact applyBinary_alike operator ha hb
    · exact hmatrix
    · exact hmatrix
  | connected connective operands =>
    rw [evalOperand, evalOperand]
    exact evalConnected_alike ih rfl
  | comparison first links =>
    obtain ⟨hfirst, hlinks⟩ := List.forall_mem_cons.1 ih
    rw [evalOperand, evalOperand]
    generalize evalOperand one first = left at hfirst
    generalize evalOperand other first = left' at hfirst
    cases hfirst with
    | error fault => exact .error fault
    | ok hleft =>
      exact evalLinks_alike (he first links hd)
        (fun link hlink => hlinks _ (List.mem_map_of_mem hlink)) hleft
  | choice test whenTrue whenFalse =>
    have htest := ih test List.mem_cons_self
    rw [evalOperand, evalOperand]
    generalize evalOperand one test = first at htest
    generalize evalOperand other test = second at htest
    cases htest with
    | error fault => exact .error fault
    | ok hvalue =>
      simp only [hvalue]
      split
      · exact ih whenTrue (List.mem_cons_of_mem _ List.mem_cons_self)
      · exact ih whenFalse (List.mem_cons_of_mem _ (List.mem_cons_of_mem _ List.mem_cons_self))

/-- A text that writes such an expression, if any, is true or not whichever objects its names lead
to. -/
theorem isTruthy_forget (h : ∀ name, (one name).forget = (other name).forget) {text : String}
    (htext : ∀ e, parse? (Text.strip text).toList = some e → e.IgnoresIdentity) :
    isTruthy one text = isTruthy other text := by
  unfold isTruthy evaluate
  cases hparse : parse? (Text.strip text).toList with
  | none => rfl
  | some e =>
    have heval : eval one e = eval other e := (evalOperand_alike h (htext e hparse)).map_value
    simp only [heval]

end Expressions

end Hashmark.Condition
