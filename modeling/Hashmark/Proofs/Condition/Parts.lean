import Hashmark.Condition.Evaluate
import Mathlib.Algebra.Order.BigOperators.Group.List
import Mathlib.Algebra.Order.Ring.Nat
import Mathlib.Logic.Relation

/-!
# Expressions within expressions

The expressions that an expression is put together from (`Expr.parts`), those that are anywhere
within it (`Expr.Within`), and how many it is made of (`Expr.size`). An expression is larger than
its parts, so that what holds of an expression whenever it holds of its parts holds of all
(`Expr.Within.induction`). The value of an expression has one of a few origins
(`origin_of_evalOperand`), most of which are values of its parts.
-/

namespace Hashmark.Condition

namespace Expr

/-- The expressions that an expression is put together from. -/
def parts : Expr → List Expr
  | .constant _ | .name _ | .other _ => []
  | .tuple items | .list items | .set items | .connected _ items => items
  | .dict entries => entries.flatMap fun entry => entry.1.toList ++ [entry.2]
  | .call callee arguments _ => callee :: arguments
  | .unary _ operand => [operand]
  | .binary _ left right => [left, right]
  | .comparison first links => first :: links.map Prod.snd
  | .choice test whenTrue whenFalse => [test, whenTrue, whenFalse]
  | .starred inner => [inner]

/-- An expression is another or anywhere within it. -/
abbrev Within : Expr → Expr → Prop :=
  Relation.ReflTransGen fun d e => d ∈ e.parts

mutual

/-- The number of expressions that an expression is made of, itself included. -/
def size : Expr → ℕ
  | .constant _ | .name _ | .other _ => 1
  | .tuple items | .list items | .set items | .connected _ items => 1 + sizes items
  | .dict entries => 1 + entrySizes entries
  | .call callee arguments _ => 1 + (callee.size + sizes arguments)
  | .unary _ operand => 1 + operand.size
  | .binary _ left right => 1 + (left.size + right.size)
  | .comparison first links => 1 + (first.size + linkSizes links)
  | .choice test whenTrue whenFalse => 1 + (test.size + whenTrue.size + whenFalse.size)
  | .starred inner => 1 + inner.size

/-- The number of expressions that several are made of. -/
def sizes : List Expr → ℕ
  | [] => 0
  | e :: es => e.size + sizes es

/-- The number of expressions that the entries of a dictionary are made of. -/
def entrySizes : List (Option Expr × Expr) → ℕ
  | [] => 0
  | (none, value) :: entries => value.size + entrySizes entries
  | (some key, value) :: entries => key.size + value.size + entrySizes entries

/-- The number of expressions that the links of a chain are made of. -/
def linkSizes : List (Comparison × Expr) → ℕ
  | [] => 0
  | (_, e) :: links => e.size + linkSizes links

end

/-- Several expressions are made of as many as each of them together. -/
theorem sizes_eq_sum (es : List Expr) : sizes es = (es.map size).sum := by
  induction es with
  | nil => rfl
  | cons e es ih => rw [sizes, ih, List.map_cons, List.sum_cons]

/-- The entries of a dictionary are made of as many expressions as their keys and values. -/
theorem entrySizes_eq_sum (entries : List (Option Expr × Expr)) :
    entrySizes entries =
      ((entries.flatMap fun entry => entry.1.toList ++ [entry.2]).map size).sum := by
  induction entries with
  | nil => rfl
  | cons entry entries ih =>
    obtain ⟨key, value⟩ := entry
    rw [List.flatMap_cons, List.map_append, List.sum_append, ← ih]
    cases key with
    | none => rfl
    | some key =>
      show key.size + value.size + entrySizes entries = key.size + (value.size + 0) + _
      rw [Nat.add_zero]

/-- The links of a chain are made of as many expressions as their operands. -/
theorem linkSizes_eq_sum (links : List (Comparison × Expr)) :
    linkSizes links = ((links.map Prod.snd).map size).sum := by
  induction links with
  | nil => rfl
  | cons link links ih =>
    obtain ⟨comparison, e⟩ := link
    rw [linkSizes, ih, List.map_cons, List.map_cons, List.sum_cons]

/-- An expression is made of itself and of what its parts are made of. -/
theorem size_eq (e : Expr) : e.size = 1 + (e.parts.map size).sum := by
  cases e with
  | constant | name | other => rfl
  | tuple items | list items | set items | connected connective items =>
    rw [size, sizes_eq_sum]
    rfl
  | dict entries => rw [size, entrySizes_eq_sum, parts]
  | call callee arguments => rw [size, sizes_eq_sum, parts, List.map_cons, List.sum_cons]
  | comparison first links =>
    rw [size, linkSizes_eq_sum, parts, List.map_cons, List.sum_cons]
  | unary | starred => rfl
  | binary operator left right => rfl
  | choice test whenTrue whenFalse =>
    show 1 + (test.size + whenTrue.size + whenFalse.size) =
      1 + (test.size + (whenTrue.size + (whenFalse.size + 0)))
    omega

/-- An expression is larger than each of its parts. -/
theorem size_lt_of_mem_parts {d e : Expr} (h : d ∈ e.parts) : d.size < e.size := by
  have hsum : d.size ≤ (e.parts.map size).sum := List.le_sum_of_mem (List.mem_map_of_mem h)
  rw [size_eq e]
  omega

/-- An expression is within another if it is the same or within a part of it. -/
theorem within_iff {d e : Expr} : Within d e ↔ d = e ∨ ∃ part ∈ e.parts, Within d part := by
  rw [Within, Relation.ReflTransGen.cases_tail_iff, eq_comm]
  simp only [and_comm]

/-- An expression is at least as large as those within it. -/
theorem Within.size_le {d e : Expr} (h : Within d e) : d.size ≤ e.size := by
  induction h with
  | refl => exact Nat.le_refl _
  | tail _ hpart ih => exact ih.trans (size_lt_of_mem_parts hpart).le

/-- What holds of each expression within another if it holds of its parts holds of all of them. -/
theorem Within.induction {e : Expr} {motive : Expr → Prop}
    (h : ∀ d, Within d e → (∀ part ∈ d.parts, motive part) → motive d) :
    ∀ d, Within d e → motive d := by
  intro d
  induction hsize : d.size using Nat.strongRecOn generalizing d with
  | ind n ih =>
    intro hd
    refine h d hd fun part hpart => ?_
    have hlt := size_lt_of_mem_parts hpart
    rw [hsize] at hlt
    exact ih part.size hlt part rfl (.head hpart hd)

end Expr

section Evaluation

variable {resolve : Resolver} {v : Operand}

/-- An operator that is applied and gives a value has been applied to operands of a size that is
allowed. -/
theorem applyBinary_eq_ok {operator : Value.BinaryOperator} {left right : Operand}
    (h : applyBinary operator left right = .ok v) :
    checkSize operator left.value right.value = .ok () ∧
      operator.apply left.value right.value = .ok v.value := by
  unfold applyBinary at h
  split at h
  · cases h
  case h_2 hcheck =>
    cases happly : operator.apply left.value right.value with
    | error e =>
      rw [happly] at h
      cases h
    | ok u =>
      rw [happly] at h
      rw [← Except.ok.inj h]
      exact ⟨hcheck, rfl⟩

/-- An operator with one operand that gives a value has been applied to one. -/
theorem applyUnary_eq_ok {operator : Value.UnaryOperator} {operand : Operand}
    (h : applyUnary operator operand = .ok v) : operator.apply operand.value = .ok v.value := by
  unfold applyUnary at h
  cases happly : operator.apply operand.value with
  | error e =>
    rw [happly] at h
    cases h
  | ok u =>
    rw [happly] at h
    rw [← Except.ok.inj h]

/-- An expression with two operands has a value only if both operands have. -/
theorem evalOperand_binary_eq_ok {operator : Value.BinaryOperator} {left right : Expr}
    (h : evalOperand resolve (.binary operator left right) = .ok v) :
    ∃ a b, evalOperand resolve left = .ok a ∧ evalOperand resolve right = .ok b ∧
      applyBinary operator a b = .ok v := by
  by_cases hmatrix : operator = .matrixMultiply
  · rw [hmatrix, evalOperand] at h
    cases h
  rw [evalOperand] at h
  swap
  · exact hmatrix
  split at h
  · cases h
  case h_2 a hleft =>
    split at h
    · cases h
    case h_2 b hright => exact ⟨a, b, hleft, hright, h⟩

/-- A connective gives the value of one of its operands, unless it has none. -/
theorem evalConnected_eq_ok {connective : Connective} {last : Operand} {es : List Expr}
    (h : evalConnected resolve connective last es = .ok v) :
    v = last ∨ ∃ e ∈ es, evalOperand resolve e = .ok v := by
  induction es generalizing last with
  | nil => exact .inl (Except.ok.inj (by rwa [evalConnected] at h)).symm
  | cons e es ih =>
    rw [evalConnected] at h
    split at h
    · cases h
    case h_2 u he =>
      split at h
      · -- The operand decides.
        exact .inr ⟨e, List.mem_cons_self, he.trans h⟩
      · obtain rfl | ⟨d, hd, hv⟩ := ih h
        · exact .inr ⟨e, List.mem_cons_self, he⟩
        · exact .inr ⟨d, List.mem_cons_of_mem e hd, hv⟩

/-- A chain of comparisons gives a truth value. -/
theorem evalLinks_eq_ok {left : Operand} {links : List (Comparison × Expr)}
    (h : evalLinks resolve left links = .ok v) : ∃ b, v.value = .bool b := by
  induction links generalizing left with
  | nil =>
    rw [evalLinks] at h
    rw [← Except.ok.inj h]
    exact ⟨true, rfl⟩
  | cons link links ih =>
    obtain ⟨comparison, e⟩ := link
    rw [evalLinks] at h
    split at h
    · cases h
    case h_2 right hright =>
      split at h
      · cases h
      · exact ih h
      · -- The link does not hold, and those behind it are not looked at.
        rw [← Except.ok.inj h]
        exact ⟨false, rfl⟩

/-- A display of values gives a tuple. -/
theorem evalOperand_display_eq_ok {items : List Expr}
    (h : evalOperand resolve (.tuple items) = .ok v ∨ evalOperand resolve (.list items) = .ok v) :
    ∃ vs, v.value = .tuple vs := by
  rw [evalOperand, evalOperand, or_self] at h
  split at h
  · cases h
  case h_2 vs hitems =>
    rw [← Except.ok.inj h]
    exact ⟨vs, rfl⟩

/-- What a name gives is what it leads to. -/
theorem lookupName_eq_ok {name : String} (h : lookupName resolve name = .ok v) :
    ∃ shared, resolve name = .found v.value shared := by
  unfold lookupName at h
  split at h
  case h_3 u shared hfound =>
    rw [← Except.ok.inj h]
    exact ⟨shared, hfound⟩
  all_goals cases h

/-- Whether a name leads to something is a truth value. -/
theorem isDefined_eq_ok {name : String} (h : isDefined resolve name = .ok v) :
    ∃ b, v.value = .bool b := by
  unfold isDefined at h
  split at h
  · rw [← Except.ok.inj h]
    exact ⟨false, rfl⟩
  · cases h
  · rw [← Except.ok.inj h]
    exact ⟨true, rfl⟩

/-- Where the value of an expression comes from. -/
inductive Origin (resolve : Resolver) : Expr → Value → Prop
  /-- It is written out. -/
  | literal (v : Value) : Origin resolve (.constant v) v
  /-- A name leads to it. -/
  | name {n : String} {v : Value} {shared : Sharing} (h : resolve n = .found v shared) :
      Origin resolve (.name n) v
  /-- It is a display of values. -/
  | display (e : Expr) (vs : List Value) : Origin resolve e (.tuple vs)
  /-- It is the outcome of a test. -/
  | test (e : Expr) (b : Bool) : Origin resolve e (.bool b)
  /-- An operator with one operand gives it. -/
  | unary {operator : Value.UnaryOperator} {e : Expr} {a : Operand} {v : Value}
      (he : evalOperand resolve e = .ok a) (h : operator.apply a.value = .ok v) :
      Origin resolve (.unary operator e) v
  /-- An operator with two operands gives it, after its size has been checked. -/
  | binary {operator : Value.BinaryOperator} {left right : Expr} {a b : Operand} {v : Value}
      (hleft : evalOperand resolve left = .ok a) (hright : evalOperand resolve right = .ok b)
      (hcheck : checkSize operator a.value b.value = .ok ())
      (h : operator.apply a.value b.value = .ok v) : Origin resolve (.binary operator left right) v
  /-- It is the value of a part. -/
  | part {e part : Expr} {a : Operand} (hpart : part ∈ e.parts)
      (h : evalOperand resolve part = .ok a) : Origin resolve e a.value

/-- The value of an expression comes from one of these. -/
theorem origin_of_evalOperand {e : Expr} (h : evalOperand resolve e = .ok v) :
    Origin resolve e v.value := by
  cases e with
  | constant u =>
    rw [evalOperand] at h
    rw [← Except.ok.inj h]
    exact .literal u
  | name n =>
    rw [evalOperand] at h
    obtain ⟨shared, hfound⟩ := lookupName_eq_ok h
    exact .name hfound
  | tuple items =>
    obtain ⟨vs, htuple⟩ := evalOperand_display_eq_ok (.inl h)
    rw [htuple]
    exact .display _ vs
  | list items =>
    obtain ⟨vs, htuple⟩ := evalOperand_display_eq_ok (.inr h)
    rw [htuple]
    exact .display _ vs
  | set | dict | starred | other =>
    rw [evalOperand] at h
    cases h
  | call callee arguments hasNamed =>
    rw [evalOperand] at h
    split at h
    · obtain ⟨b, hb⟩ := isDefined_eq_ok h
      rw [hb]
      exact .test _ b
    · cases h
  | unary operator operand =>
    rw [evalOperand] at h
    split at h
    · cases h
    case h_2 a hoperand => exact .unary hoperand (applyUnary_eq_ok h)
  | binary operator left right =>
    obtain ⟨a, b, hleft, hright, happly⟩ := evalOperand_binary_eq_ok h
    obtain ⟨hcheck, hresult⟩ := applyBinary_eq_ok happly
    exact .binary hleft hright hcheck hresult
  | connected connective operands =>
    rw [evalOperand] at h
    -- The value is that of the operand that decides, or of the connective if there is none.
    obtain rfl | ⟨operand, hmem, hoperand⟩ := evalConnected_eq_ok h
    · cases connective <;> exact .test _ _
    · exact .part hmem hoperand
  | comparison first links =>
    rw [evalOperand] at h
    split at h
    · cases h
    · obtain ⟨b, hb⟩ := evalLinks_eq_ok h
      rw [hb]
      exact .test _ b
  | choice test whenTrue whenFalse =>
    rw [evalOperand] at h
    split at h
    · cases h
    · -- The test is a part too, but its value is not that of the choice.
      split at h
      · exact .part (List.mem_cons_of_mem _ List.mem_cons_self) h
      · exact .part (List.mem_cons_of_mem _ (List.mem_cons_of_mem _ List.mem_cons_self)) h

/-- An expression has a value if it gives an operand of the value. -/
theorem eval_eq_ok_iff {e : Expr} {u : Value} :
    eval resolve e = .ok u ↔ ∃ a, evalOperand resolve e = .ok a ∧ a.value = u := by
  unfold eval
  cases evalOperand resolve e with
  | error fault =>
    constructor
    · intro h
      cases h
    · rintro ⟨_, h, _⟩
      cases h
  | ok a =>
    constructor
    · intro h
      exact ⟨a, rfl, Except.ok.inj h⟩
    · rintro ⟨b, hb, rfl⟩
      rw [Except.ok.inj hb]
      rfl

end Evaluation

end Hashmark.Condition
