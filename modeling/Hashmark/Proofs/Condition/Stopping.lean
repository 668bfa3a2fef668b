import Hashmark.Condition.Evaluate
import Mathlib

/-!
# Operands that are not evaluated

A connective has the result of the first operand that decides it, or else that of the last one
(`evalOperand_connected`), and a chain of comparisons that of the conjunction of its links, although
each operand between two links is evaluated once only (`evalOperand_chain`). So the operands behind
one that decides may be exchanged for any others, and so may the expression that a choice leaves out
(`Exchangeable`). Evaluation never looks into the value of a part for anything else than the result
of the part, so that the exchange may be made anywhere in an expression (`Surrounds.congr`).
-/

namespace Hashmark.Condition

/-- A result that the operands of a connective leave to no other operand: it decides the connective
by its truth, or it is none. -/
def Connective.Decides (connective : Connective) : Except EvalFault Operand → Prop
  | .ok v => connective.isDecided v.value = true
  | .error _ => True

instance (connective : Connective) : DecidablePred connective.Decides
  | .ok v => inferInstanceAs (Decidable (connective.isDecided v.value = true))
  | .error _ => inferInstanceAs (Decidable True)

/-- The comparisons that a chain consists of, each by itself. -/
def conjuncts : Expr → List (Comparison × Expr) → List Expr
  | _, [] => []
  | left, (comparison, right) :: rest =>
    .comparison left [(comparison, right)] :: conjuncts right rest

section Connected

variable {resolve : Resolver} {connective : Connective} {front : List Expr} {e : Expr}

/-- The result of operands is that of the first one that decides, or else that of the last one. -/
theorem evalConnected_eq (last : Operand)
    (hfront : ∀ d ∈ front, ¬connective.Decides (evalOperand resolve d)) {rest : List Expr}
    (he : connective.Decides (evalOperand resolve e) ∨ rest = []) :
    evalConnected resolve connective last (front ++ e :: rest) = evalOperand resolve e := by
  induction front generalizing last with
  | nil =>
    rw [List.nil_append, evalConnected]
    cases hv : evalOperand resolve e with
    | error fault => rfl
    | ok v =>
      rw [hv] at he
      obtain hdecided | rfl := he
      · exact if_pos hdecided
      · simp only [evalConnected, ite_self]
  | cons d front ih =>
    obtain ⟨hd, hfront⟩ := List.forall_mem_cons.1 hfront
    rw [List.cons_append, evalConnected]
    cases hv : evalOperand resolve d with
    | error fault =>
      rw [hv] at hd
      exact absurd trivial hd
    | ok v =>
      rw [hv] at hd
      have hgoes : ¬connective.isDecided v.value = true := hd
      simp only
      rw [if_neg hgoes]
      exact ih v hfront

/-- A connective has the result of the first operand that decides it, or else that of the last
one. -/
theorem evalOperand_connected
    (hfront : ∀ d ∈ front, ¬connective.Decides (evalOperand resolve d)) {rest : List Expr}
    (he : connective.Decides (evalOperand resolve e) ∨ rest = []) :
    evalOperand resolve (.connected connective (front ++ e :: rest)) = evalOperand resolve e := by
  rw [evalOperand]
  exact evalConnected_eq _ hfront he

/-- Behind an operand that decides any operands will do. -/
theorem evalConnected_behind (last : Operand)
    (h : ∃ d ∈ front, connective.Decides (evalOperand resolve d)) (rest rest' : List Expr) :
    evalConnected resolve connective last (front ++ rest) =
      evalConnected resolve connective last (front ++ rest') := by
  induction front generalizing last with
  | nil =>
    obtain ⟨d, hmem, -⟩ := h
    cases hmem
  | cons d front ih =>
    rw [List.cons_append, List.cons_append, evalConnected, evalConnected]
    cases hv : evalOperand resolve d with
    | error fault => rfl
    | ok v =>
      simp only
      split
      · rfl
      case isFalse hd =>
        -- This operand does not decide, so that a later one does.
        refine ih v ?_
        obtain ⟨d', hmem, hdecides⟩ := h
        obtain rfl | hmem := List.mem_cons.1 hmem
        · rw [hv] at hdecides
          exact absurd hdecides hd
        · exact ⟨d', hmem, hdecides⟩

end Connected

section Chain

variable {resolve : Resolver}

/-- A comparison by itself is true or false, if it has a result. -/
theorem evalLinks_single (left : Operand) (comparison : Comparison) (e : Expr) :
    evalLinks resolve left [(comparison, e)] =
      match evalOperand resolve e with
      | .error fault => .error fault
      | .ok right => (compareOperands comparison left right).map fun b => .fresh (.bool b) := by
  rw [evalLinks]
  cases evalOperand resolve e with
  | error fault => rfl
  | ok right =>
    simp only
    cases compareOperands comparison left right with
    | error fault => rfl
    | ok b => cases b <;> rfl

/-- The links of a chain are evaluated as the conjunction of the comparisons that it consists of. -/
theorem evalLinks_eq {first : Expr} {left : Operand} (hfirst : evalOperand resolve first = .ok left)
    (links : List (Comparison × Expr)) :
    evalLinks resolve left links =
      evalConnected resolve .and (.fresh (.bool true)) (conjuncts first links) := by
  -- The induction is along the chain: each link passes its right operand on to the next.
  induction links generalizing first left with
  | nil => rfl
  | cons link links ih =>
    obtain ⟨comparison, e⟩ := link
    have hlink : evalOperand resolve (.comparison first [(comparison, e)]) =
        evalLinks resolve left [(comparison, e)] := by
      rw [evalOperand, hfirst]
    rw [conjuncts, evalConnected, hlink, evalLinks_single, evalLinks]
    cases hright : evalOperand resolve e with
    | error fault => rfl
    | ok right =>
      simp only
      cases compareOperands comparison left right with
      | error fault => rfl
      | ok b =>
        cases b with
        | false => rfl
        | true => exact ih hright

/-- A chain of comparisons has the result of the conjunction of the comparisons that it consists
of. -/
theorem evalOperand_chain (first : Expr) (link : Comparison × Expr)
    (links : List (Comparison × Expr)) :
    evalOperand resolve (.comparison first (link :: links)) =
      evalOperand resolve (.connected .and (conjuncts first (link :: links))) := by
  obtain ⟨comparison, e⟩ := link
  rw [evalOperand, evalOperand]
  cases hfirst : evalOperand resolve first with
  | ok left => exact evalLinks_eq hfirst _
  | error fault => rw [conjuncts, evalConnected, evalOperand, hfirst]

/-- Behind a link that does not hold, or fails, any links will do. -/
theorem evalLinks_behind {left : Operand} {front : List (Comparison × Expr)}
    (h : Connective.and.Decides (evalLinks resolve left front))
    (rest : List (Comparison × Expr)) :
    evalLinks resolve left (front ++ rest) = evalLinks resolve left front := by
  induction front generalizing left with
  | nil => cases h
  | cons link front ih =>
    obtain ⟨comparison, e⟩ := link
    rw [evalLinks] at h
    rw [List.cons_append, evalLinks, evalLinks]
    cases hright : evalOperand resolve e with
    | error fault => rfl
    | ok right =>
      rw [hright] at h
      simp only at h ⊢
      cases hholds : compareOperands comparison left right with
      | error fault => rfl
      | ok b =>
        rw [hholds] at h
        cases b with
        | false => rfl
        | true => exact ih h

end Chain

/-- Two expressions of which one comes from the other by exchanging what evaluation does not come to,
or a chain of comparisons for a conjunction. -/
inductive Exchangeable (resolve : Resolver) : Expr → Expr → Prop
  /-- The operands of a connective behind one that decides. -/
  | operands {connective : Connective} {front : List Expr}
      (h : ∃ e ∈ front, connective.Decides (evalOperand resolve e)) (rest rest' : List Expr) :
      Exchangeable resolve (.connected connective (front ++ rest))
        (.connected connective (front ++ rest'))
  /-- The links of a chain behind the part of it that is not true. -/
  | links {first : Expr} {front : List (Comparison × Expr)}
      (h : Connective.and.Decides (evalOperand resolve (.comparison first front)))
      (rest rest' : List (Comparison × Expr)) :
      Exchangeable resolve (.comparison first (front ++ rest)) (.comparison first (front ++ rest'))
  /-- The second expression of a choice whose test is true or fails. -/
  | whenFalse {test : Expr} (h : Connective.or.Decides (evalOperand resolve test))
      (whenTrue whenFalse whenFalse' : Expr) :
      Exchangeable resolve (.choice test whenTrue whenFalse) (.choice test whenTrue whenFalse')
  /-- The first expression of a choice whose test is false or fails. -/
  | whenTrue {test : Expr} (h : Connective.and.Decides (evalOperand resolve test))
      (whenTrue whenTrue' whenFalse : Expr) :
      Exchangeable resolve (.choice test whenTrue whenFalse) (.choice test whenTrue' whenFalse)
  /-- A chain for the conjunction of the comparisons that it consists of. -/
  | chain (first : Expr) (link : Comparison × Expr) (links : List (Comparison × Expr)) :
      Exchangeable resolve (.comparison first (link :: links))
        (.connected .and (conjuncts first (link :: links)))

/-- Such expressions have the same result. -/
theorem Exchangeable.evalOperand_eq {resolve : Resolver} {e e' : Expr}
    (h : Exchangeable resolve e e') : evalOperand resolve e = evalOperand resolve e' := by
  cases h with
  | operands h rest rest' =>
    rw [evalOperand, evalOperand]
    exact evalConnected_behind _ h rest rest'
  | @links first front h rest rest' =>
    rw [evalOperand] at h
    rw [evalOperand, evalOperand]
    cases hfirst : evalOperand resolve first with
    | error fault => rfl
    | ok left =>
      rw [hfirst] at h
      simp only at h ⊢
      rw [evalLinks_behind h, evalLinks_behind h]
  | @whenFalse test h whenTrue whenFalse whenFalse' =>
    rw [evalOperand, evalOperand]
    cases htest : evalOperand resolve test with
    | error fault => rfl
    | ok v =>
      rw [htest] at h
      have htrue : v.value.isTrue = true := h
      simp only
      rw [if_pos htrue, if_pos htrue]
  | @whenTrue test h whenTrue whenTrue' whenFalse =>
    rw [evalOperand, evalOperand]
    cases htest : evalOperand resolve test with
    | error fault => rfl
    | ok v =>
      rw [htest] at h
      have hdecided : (!v.value.isTrue) = true := h
      have hfalse : ¬v.value.isTrue = true := by
        rw [Bool.not_eq_true, ← Bool.not_eq_true']
        exact hdecided
      simp only
      rw [if_neg hfalse, if_neg hfalse]
  | chain first link links => exact evalOperand_chain first link links

/-- What stands around an expression in one that it is evaluated for. -/
inductive Surrounds : (Expr → Expr) → Prop
  /-- Nothing. -/
  | nothing : Surrounds fun e => e
  /-- The other members of a display between parentheses, or without any. -/
  | tuple {around : Expr → Expr} (h : Surrounds around) (front rest : List Expr) :
      Surrounds fun e => .tuple (front ++ around e :: rest)
  /-- The other members of a display between square brackets. -/
  | list {around : Expr → Expr} (h : Surrounds around) (front rest : List Expr) :
      Surrounds fun e => .list (front ++ around e :: rest)
  /-- An operator with one operand. -/
  | unary {around : Expr → Expr} (h : Surrounds around) (operator : Value.UnaryOperator) :
      Surrounds fun e => .unary operator (around e)
  /-- An operator and its right operand. -/
  | left {around : Expr → Expr} (h : Surrounds around) (operator : Value.BinaryOperator)
      (right : Expr) : Surrounds fun e => .binary operator (around e) right
  /-- An operator and its left operand. -/
  | right {around : Expr → Expr} (h : Surrounds around) (operator : Value.BinaryOperator)
      (left : Expr) : Surrounds fun e => .binary operator left (around e)
  /-- A connective and its other operands. -/
  | connected {around : Expr → Expr} (h : Surrounds around) (connective : Connective)
      (front rest : List Expr) : Surrounds fun e => .connected connective (front ++ around e :: rest)
  /-- The links behind the first operand of a chain. -/
  | first {around : Expr → Expr} (h : Surrounds around) (links : List (Comparison × Expr)) :
      Surrounds fun e => .comparison (around e) links
  /-- The first operand of a chain and its other links. -/
  | link {around : Expr → Expr} (h : Surrounds around) (first : Expr)
      (front : List (Comparison × Expr)) (comparison : Comparison)
      (rest : List (Comparison × Expr)) :
      Surrounds fun e => .comparison first (front ++ (comparison, around e) :: rest)
  /-- The two expressions of a choice. -/
  | test {around : Expr → Expr} (h : Surrounds around) (whenTrue whenFalse : Expr) :
      Surrounds fun e => .choice (around e) whenTrue whenFalse
  /-- The test of a choice and its second expression. -/
  | whenTrue {around : Expr → Expr} (h : Surrounds around) (test whenFalse : Expr) :
      Surrounds fun e => .choice test (around e) whenFalse
  /-- The test of a choice and its first expression. -/
  | whenFalse {around : Expr → Expr} (h : Surrounds around) (test whenTrue : Expr) :
      Surrounds fun e => .choice test whenTrue (around e)

section Surrounds

variable {resolve : Resolver} {e e' : Expr}

/-- Members with the same results have the same values. -/
theorem evalItems_congr (h : evalOperand resolve e = evalOperand resolve e')
    (front rest : List Expr) :
    evalItems resolve (front ++ e :: rest) = evalItems resolve (front ++ e' :: rest) := by
  induction front with
  | nil => rw [List.nil_append, List.nil_append, evalItems, evalItems, h]
  | cons d front ih => rw [List.cons_append, List.cons_append, evalItems, evalItems, ih]

/-- Operands with the same results decide a connective alike. -/
theorem evalConnected_congr (h : evalOperand resolve e = evalOperand resolve e')
    (connective : Connective) (last : Operand) (front rest : List Expr) :
    evalConnected resolve connective last (front ++ e :: rest) =
      evalConnected resolve connective last (front ++ e' :: rest) := by
  induction front generalizing last with
  | nil => rw [List.nil_append, List.nil_append, evalConnected, evalConnected, h]
  | cons d front ih =>
    rw [List.cons_append, List.cons_append, evalConnected, evalConnected]
    simp only [ih]

/-- Links to operands with the same results hold alike. -/
theorem evalLinks_congr (h : evalOperand resolve e = evalOperand resolve e') (left : Operand)
    (front : List (Comparison × Expr)) (comparison : Comparison)
    (rest : List (Comparison × Expr)) :
    evalLinks resolve left (front ++ (comparison, e) :: rest) =
      evalLinks resolve left (front ++ (comparison, e') :: rest) := by
  induction front generalizing left with
  | nil => rw [List.nil_append, List.nil_append, evalLinks, evalLinks, h]
  | cons link front ih =>
    obtain ⟨comparison', d⟩ := link
    rw [List.cons_append, List.cons_append, evalLinks, evalLinks]
    simp only [ih]

/-- An expression has the same result around expressions with the same result. -/
theorem Surrounds.congr {around : Expr → Expr} (haround : Surrounds around)
    (h : evalOperand resolve e = evalOperand resolve e') :
    evalOperand resolve (around e) = evalOperand resolve (around e') := by
  induction haround with
  | nothing => exact h
  | tuple _ front rest ih => rw [evalOperand, evalOperand, evalItems_congr ih]
  | list _ front rest ih => rw [evalOperand, evalOperand, evalItems_congr ih]
  | unary _ operator ih => rw [evalOperand, evalOperand, ih]
  | left _ operator right ih => cases operator <;> simp only [evalOperand, ih]
  | right _ operator left ih => cases operator <;> simp only [evalOperand, ih]
  | connected _ connective front rest ih =>
    rw [evalOperand, evalOperand, evalConnected_congr ih]
  | first _ links ih => rw [evalOperand, evalOperand, ih]
  | link _ first front comparison rest ih =>
    rw [evalOperand, evalOperand]
    simp only [evalLinks_congr ih]
  | test _ whenTrue whenFalse ih => rw [evalOperand, evalOperand, ih]
  | whenTrue _ test whenFalse ih => rw [evalOperand, evalOperand, ih]
  | whenFalse _ test whenTrue ih => rw [evalOperand, evalOperand, ih]

end Surrounds

/-- Two conditions come to the same: they have the same value, or none for the same reason. -/
inductive SameOutcome : Except ConditionError Value → Except ConditionError Value → Prop
  /-- They have the same value. -/
  | value (v : Value) : SameOutcome (.ok v) (.ok v)
  /-- They have no value for the same reason. -/
  | reason (text text' : String) (reason : EvalFault) :
      SameOutcome (.error (.noValue text reason)) (.error (.noValue text' reason))

/-- Texts that write expressions with the same result come to the same. -/
theorem sameOutcome_of_parse? {resolve : Resolver} {text text' : String} {e e' : Expr}
    (hparse : parse? (Text.strip text).toList = some e)
    (hparse' : parse? (Text.strip text').toList = some e') (h : eval resolve e = eval resolve e') :
    SameOutcome (evaluate resolve text) (evaluate resolve text') := by
  unfold evaluate
  rw [hparse, hparse']
  simp only [h]
  cases eval resolve e' with
  | ok v => exact .value v
  | error reason => exact .reason text text' reason

/-- Connectives, chains of comparisons and choices are decided from left to right, and evaluation
stops there:

* a connective has the result of the first operand that decides it, which is its failure if it
  fails, or else that of the last operand;
* exchanging what stands behind that operand, behind the part of a chain that is not true, or in the
  place of the expression that a choice leaves out, and exchanging a chain for the conjunction of
  its comparisons, changes no result, wherever in an expression it is done, and the conditions that
  write the two expressions have the same value, or none for the same reason. -/
theorem evaluate_exchanged (resolve : Resolver) :
    (∀ (connective : Connective) (front rest : List Expr) (e : Expr),
      (∀ d ∈ front, ¬connective.Decides (evalOperand resolve d)) →
      connective.Decides (evalOperand resolve e) ∨ rest = [] →
      eval resolve (.connected connective (front ++ e :: rest)) = eval resolve e) ∧
    ∀ (e e' : Expr) (around : Expr → Expr), Exchangeable resolve e e' → Surrounds around →
      eval resolve (around e) = eval resolve (around e') ∧
      ∀ text text' : String, parse? (Text.strip text).toList = some (around e) →
        parse? (Text.strip text').toList = some (around e') →
        SameOutcome (evaluate resolve text) (evaluate resolve text') := by
  constructor
  · intro connective front rest e hfront he
    unfold eval
    rw [evalOperand_connected hfront he]
  · intro e e' around h haround
    have heval : eval resolve (around e) = eval resolve (around e') := by
      unfold eval
      rw [haround.congr h.evalOperand_eq]
    exact ⟨heval, fun text text' hparse hparse' => sameOutcome_of_parse? hparse hparse' heval⟩

/-- A forbidden call in the place of an undefined name behind a zero, and a chain that stops in front
of an undefined name. -/
theorem evaluate_exchanged_behind_zero :
    let resolve : Resolver := fun _ => .undefined
    eval resolve (.connected .and [.constant (.int 0), .name "x"]) =
        eval resolve (.constant (.int 0)) ∧
      SameOutcome (evaluate resolve "1 if 0 and x else 2")
        (evaluate resolve "1 if 0 and open(x) else 2") ∧
      SameOutcome (evaluate resolve "1 < 0 < x") (evaluate resolve "1 < 0 and 0 < x") := by
  intro resolve
  obtain ⟨hconnected, hexchanged⟩ := evaluate_exchanged resolve
  have hdecides : Connective.and.Decides (evalOperand resolve (.constant (.int 0))) := by
    decide
  refine ⟨hconnected .and [] _ _ (fun d hd => nomatch hd) (.inl hdecides), ?_, ?_⟩
  · refine (hexchanged
      (.connected .and ([.constant (.int 0)] ++ [.name "x"]))
      (.connected .and ([.constant (.int 0)] ++ [.call (.name "open") [.name "x"] false])) _
      (.operands ⟨_, List.mem_singleton_self _, hdecides⟩ _ _)
      (.test .nothing (.constant (.int 1)) (.constant (.int 2)))).2 _ _ ?_ ?_
    · cbv
    · cbv
  · refine (hexchanged _ _ _
      (.chain (.constant (.int 1)) (.order .less, .constant (.int 0)) [(.order .less, .name "x")])
      .nothing).2 _ _ ?_ ?_
    · cbv
    · cbv

end Hashmark.Condition
