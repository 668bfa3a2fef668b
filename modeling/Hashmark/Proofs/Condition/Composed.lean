import Hashmark.Proofs.Condition.Blanks
import Hashmark.Proofs.Condition.Parts
import Hashmark.Proofs.Value.Frozen

/-!
# Expressions put together from values

Displays, signs, sums and differences of values that are written out (`Composed`) are what a literal
may be and a condition may evaluate. Such an expression is read as an operation, and nothing that
would go on with a comparison, a connective or a choice stands behind it
(`operation_of_expression`). The values themselves are those of single words, so that none of them
is a list: functions of the grammar that can read such an expression at all compose it from values
without lists (`readsComposed`), and so does the expression that a text writes
(`composed_of_parse?`).
-/

namespace Hashmark.Condition

open Text (isDigit)

/-- The numbers among words. -/
def HoldsNumbers (ts : List Token) : Prop :=
  ∀ v, .number v ∈ ts → IsNumber v

/-- The first word of a text is a number if it is one. -/
theorem isNumber_of_nextWord? {brackets cs outer rest : List Char} {c : Char} {v : Value}
    (h : nextWord? brackets c cs = some (some (.number v), outer, rest)) : IsNumber v := by
  -- A word is a number if it was read as one,
  have hnumber : ∀ {one : Option (Value × List Char)}
      {f : Value × List Char → Option Token × List Char × List Char}, Gives (IsNumber ·.1) one →
      (∀ a, (f a).1 = some (.number a.1)) →
      one.map f = some (some (.number v), outer, rest) → IsNumber v := by
    intro one f hone hf h
    obtain ⟨a, ha, hfa⟩ := Option.map_eq_some_iff.1 h
    have hv := (hf a).symm.trans (congrArg Prod.fst hfa)
    rw [← Token.number.inj (Option.some.inj hv)]
    exact hone a ha
  -- and is none if something else was read.
  have hword : ∀ {α : Type} {one : Option α} {f : α → Option Token × List Char × List Char},
      (∀ a, one = some a → (f a).1 ≠ some (.number v)) →
      one.map f ≠ some (some (.number v), outer, rest) := by
    intro α one f hf heq
    obtain ⟨a, ha, hfa⟩ := Option.map_eq_some_iff.1 heq
    exact hf a ha (congrArg Prod.fst hfa)
  -- The kinds of words in their order, from comments to symbols.
  unfold nextWord? at h
  split at h
  · cases h
  split at h
  · split at h
    · cases h
    · exact absurd h (hword (by simp))
  split at h
  · split at h <;> cases h
  split at h
  · exact absurd h (hword (by simp))
  split at h
  · exact hnumber (givesNumber_number? _) (fun _ => rfl) h
  split at h
  · refine absurd h (hword fun token htoken heq => ?_)
    obtain rfl := Option.some.inj heq
    simp only [wordToken?] at htoken
    split at htoken
    · cases htoken
    · split at htoken <;> cases htoken
  split at h
  · exact hnumber (givesNumber_fractionEnd _ _) (fun _ => rfl) h
  · obtain ⟨found, -, hfound⟩ := Option.bind_eq_some_iff.1 h
    exact absurd hfound (hword (by simp))

/-- The numbers among the words of a text are numbers. -/
theorem holdsNumbers_of_wordsFrom? {n : Nat} {brackets text : List Char} {ts : List Token}
    (h : wordsFrom? n brackets text = some ts) : HoldsNumbers ts := by
  induction n generalizing brackets text ts with
  | zero => cases h
  | succ n ih =>
    obtain ⟨lead, rest, rfl, hlead, hrest⟩ := exists_layout text
    rw [wordsFrom?_layout hlead] at h
    cases rest with
    | nil =>
      rw [eq_nil_of_wordsFrom?_nil h]
      exact nofun
    | cons c cs =>
      rw [wordsFrom?_cons (hrest c rfl)] at h
      obtain ⟨⟨token, outer, behind⟩, hnext, hwords⟩ := Option.bind_eq_some_iff.1 h
      obtain ⟨us, hus, rfl⟩ := Option.map_eq_some_iff.1 hwords
      intro v hv
      obtain hv | hv := List.mem_append.1 hv
      · rw [Option.mem_toList] at hv
        rw [Option.mem_def.1 hv] at hnext
        exact isNumber_of_nextWord? hnext
      · exact ih hus v hv

/-- The numbers among the words of an expression are numbers. -/
theorem holdsNumbers_of_words? {text : List Char} {ts : List Token} (h : words? text = some ts) :
    HoldsNumbers ts := by
  unfold words? at h
  split at h
  · cases h
  · split at h
    · cases h
    · exact holdsNumbers_of_wordsFrom? h

/-- Words at the end of others hold no other numbers. -/
theorem HoldsNumbers.of_suffix {ts us : List Token} (h : HoldsNumbers ts) (hsuffix : us <:+ ts) :
    HoldsNumbers us :=
  fun v hv => h v (hsuffix.subset hv)

section Shape

/-- An expression is put together from values that are written out by displays, signs, sums and
differences. -/
inductive Composed (kind : Value → Prop) : Expr → Prop
  /-- A value of the kind. -/
  | constant {v : Value} (h : kind v) : Composed kind (.constant v)
  /-- Members between parentheses, or without any. -/
  | tuple {items : List Expr} (h : ∀ e ∈ items, Composed kind e) : Composed kind (.tuple items)
  /-- Members between square brackets. -/
  | list {items : List Expr} (h : ∀ e ∈ items, Composed kind e) : Composed kind (.list items)
  /-- A sign. -/
  | unary {operator : Value.UnaryOperator} (hsign : operator = .plus ∨ operator = .minus)
      {e : Expr} (h : Composed kind e) : Composed kind (.unary operator e)
  /-- A sum or a difference. -/
  | binary {operator : Value.BinaryOperator} (hsum : operator = .add ∨ operator = .subtract)
      {left right : Expr} (hleft : Composed kind left) (hright : Composed kind right) :
      Composed kind (.binary operator left right)

/-- What is put together from values of a kind is so from values of a wider kind. -/
theorem Composed.imp {kind wider : Value → Prop} (h : ∀ v, kind v → wider v) {e : Expr}
    (he : Composed kind e) : Composed wider e := by
  induction he with
  | constant hv => exact .constant (h _ hv)
  | tuple _ ih => exact .tuple ih
  | list _ ih => exact .list ih
  | unary hsign _ ih => exact .unary hsign ih
  | binary hsum _ _ hleft hright => exact .binary hsum hleft hright

/-- An expression is put together from any values that are written out. -/
abbrev IsComposed : Expr → Prop :=
  Composed fun _ => True

/-- An expression that is known by its form only is not put together from values. -/
theorem not_isComposed_other (form : Form) : ¬IsComposed (.other form) := by
  intro h
  cases h

/-- A call is not put together from values. -/
theorem not_isComposed_call (callee : Expr) (positional : List Expr) (hasNamed : Bool) :
    ¬IsComposed (.call callee positional hasNamed) := by
  intro h
  cases h

/-- A set is not put together from values. -/
theorem not_isComposed_set (es : List Expr) : ¬IsComposed (.set es) := by
  intro h
  cases h

/-- A dictionary is not put together from values. -/
theorem not_isComposed_dict (entries : List (Option Expr × Expr)) :
    ¬IsComposed (.dict entries) := by
  intro h
  cases h

/-- What stands behind an expression that is put together from values continues no comparison, no
connective and no choice. -/
structure Quiet (rest : Words) : Prop where
  /-- No comparison. -/
  comparison : comparison? rest = none
  /-- No conjunction. -/
  conjunction : atKeyword "and" rest = false
  /-- No disjunction. -/
  disjunction : atKeyword "or" rest = false
  /-- No choice. -/
  choice : atKeyword "if" rest = false

/-- Operands under a connective are no such expression, unless there is one only. -/
theorem eq_nil_of_composed {connective : Connective} {e : Expr} {es : List Expr}
    (h : IsComposed (connectedOf connective (e :: es))) : es = [] := by
  cases es with
  | nil => rfl
  | cons d ds => cases h

/-- A negation or a comparison is no such expression. -/
theorem operation_of_inversion {n : Nat} {ts rest : Words} {e : Expr}
    (h : inversion (n + 1) ts = some (e, rest)) (he : IsComposed e) :
    operation n 0 ts = some (e, rest) ∧ comparison? rest = none ∧ atKeyword "not" ts = false := by
  rw [inversion] at h
  split at h
  · obtain ⟨⟨operand, ts'⟩, -, heq⟩ := Option.bind_eq_some_iff.1 h
    obtain ⟨rfl, rfl⟩ := Prod.mk.inj (Option.some.inj heq)
    cases he with
    | unary hsign => obtain hsign | hsign := hsign <;> cases hsign
  case isFalse hnot =>
    obtain ⟨⟨first, ts'⟩, hfirst, h⟩ := Option.bind_eq_some_iff.1 h
    obtain ⟨⟨chain, ts''⟩, hlinks, heq⟩ := Option.bind_eq_some_iff.1 h
    obtain ⟨rfl, rfl⟩ := Prod.mk.inj (Option.some.inj heq)
    cases chain with
    | cons link chain => cases he
    | nil =>
      cases n with
      | zero => cases hlinks
      | succ n =>
        rw [links] at hlinks
        split at hlinks
        case h_1 hnone =>
          obtain ⟨-, rfl⟩ := Prod.mk.inj (Option.some.inj hlinks)
          exact ⟨hfirst, hnone, Bool.eq_false_iff.2 hnot⟩
        case h_2 =>
          obtain ⟨_, -, hlinks⟩ := Option.bind_eq_some_iff.1 hlinks
          obtain ⟨_, -, hlinks⟩ := Option.bind_eq_some_iff.1 hlinks
          cases hlinks

/-- Where operands are read under a connective, such an expression is one operand by itself, behind
which the connective does not stand. -/
theorem operand_of_connected {connective : Connective} {keyword : String}
    {operand : Nat → Words → Option (Expr × Words)}
    {further : Nat → Words → Option (List Expr × Words)} (hzero : ∀ ts, further 0 ts = none)
    (hsucc : ∀ n ts, further (n + 1) ts =
      if atKeyword keyword ts then do
        let (e, ts) ← operand n (ts.drop 1)
        let (es, ts) ← further n ts
        some (e :: es, ts)
      else some ([], ts))
    {n : Nat} {ts rest : Words} {e : Expr}
    (h : (do
      let (e, ts) ← operand n ts
      let (es, ts) ← further n ts
      some (connectedOf connective (e :: es), ts)) = some (e, rest)) (he : IsComposed e) :
    operand n ts = some (e, rest) ∧ atKeyword keyword rest = false := by
  obtain ⟨⟨first, ts'⟩, hfirst, h⟩ := Option.bind_eq_some_iff.1 h
  obtain ⟨⟨es, ts''⟩, hfurther, heq⟩ := Option.bind_eq_some_iff.1 h
  obtain ⟨rfl, rfl⟩ := Prod.mk.inj (Option.some.inj heq)
  obtain rfl := eq_nil_of_composed he
  cases n with
  | zero =>
    rw [hzero] at hfurther
    cases hfurther
  | succ n =>
    rw [hsucc] at hfurther
    split at hfurther
    · obtain ⟨_, -, hfurther⟩ := Option.bind_eq_some_iff.1 hfurther
      obtain ⟨_, -, hfurther⟩ := Option.bind_eq_some_iff.1 hfurther
      cases hfurther
    case isFalse hkeyword =>
      obtain ⟨-, rfl⟩ := Prod.mk.inj (Option.some.inj hfurther)
      exact ⟨hfirst, Bool.eq_false_iff.2 hkeyword⟩

/-- A conjunction is no such expression. -/
theorem inversion_of_conjunction {n : Nat} {ts rest : Words} {e : Expr}
    (h : conjunction (n + 1) ts = some (e, rest)) (he : IsComposed e) :
    inversion n ts = some (e, rest) ∧ atKeyword "and" rest = false := by
  rw [conjunction] at h
  exact operand_of_connected (fun _ => rfl) (fun _ _ => by rw [conjunctionRest]) h he

/-- A disjunction is no such expression. -/
theorem conjunction_of_disjunction {n : Nat} {ts rest : Words} {e : Expr}
    (h : disjunction (n + 1) ts = some (e, rest)) (he : IsComposed e) :
    conjunction n ts = some (e, rest) ∧ atKeyword "or" rest = false := by
  rw [disjunction] at h
  exact operand_of_connected (fun _ => rfl) (fun _ _ => by rw [disjunctionRest]) h he

/-- A function or a choice is no such expression. -/
theorem disjunction_of_expression {n : Nat} {ts rest : Words} {e : Expr}
    (h : expression (n + 1) ts = some (e, rest)) (he : IsComposed e) :
    disjunction n ts = some (e, rest) ∧ atKeyword "if" rest = false ∧
      atKeyword "lambda" ts = false := by
  rw [expression] at h
  split at h
  · obtain ⟨_, -, h⟩ := Option.bind_eq_some_iff.1 h
    obtain ⟨_, -, h⟩ := Option.bind_eq_some_iff.1 h
    obtain ⟨_, -, heq⟩ := Option.bind_eq_some_iff.1 h
    obtain ⟨rfl, rfl⟩ := Prod.mk.inj (Option.some.inj heq)
    cases he
  case isFalse hlambda =>
    obtain ⟨⟨whenTrue, ts'⟩, hfirst, h⟩ := Option.bind_eq_some_iff.1 h
    simp only at h
    split at h
    · obtain ⟨_, -, h⟩ := Option.bind_eq_some_iff.1 h
      obtain ⟨_, -, h⟩ := Option.bind_eq_some_iff.1 h
      obtain ⟨_, -, heq⟩ := Option.bind_eq_some_iff.1 h
      obtain ⟨rfl, rfl⟩ := Prod.mk.inj (Option.some.inj heq)
      cases he
    case isFalse hif =>
      obtain ⟨rfl, rfl⟩ := Prod.mk.inj (Option.some.inj h)
      exact ⟨hfirst, Bool.eq_false_iff.2 hif, Bool.eq_false_iff.2 hlambda⟩

/-- An expression that is put together from values is read as an operation. -/
theorem operation_of_expression {n : Nat} {ts rest : Words} {e : Expr}
    (h : expression n ts = some (e, rest)) (he : IsComposed e) :
    ∃ k, n = k + 4 ∧ operation k 0 ts = some (e, rest) ∧ Quiet rest := by
  match n with
  | 0 => cases h
  | 1 => obtain ⟨⟨⟩, -⟩ := disjunction_of_expression h he
  | 2 =>
    obtain ⟨h, -⟩ := disjunction_of_expression h he
    obtain ⟨⟨⟩, -⟩ := conjunction_of_disjunction h he
  | 3 =>
    obtain ⟨h, -⟩ := disjunction_of_expression h he
    obtain ⟨h, -⟩ := conjunction_of_disjunction h he
    obtain ⟨⟨⟩, -⟩ := inversion_of_conjunction h he
  | k + 4 =>
    obtain ⟨h, hchoice, -⟩ := disjunction_of_expression h he
    obtain ⟨h, hdisjunction⟩ := conjunction_of_disjunction h he
    obtain ⟨h, hconjunction⟩ := inversion_of_conjunction h he
    obtain ⟨h, hcomparison, -⟩ := operation_of_inversion h he
    exact ⟨k, rfl, h, hcomparison, hconjunction, hdisjunction, hchoice⟩

end Shape

section Reading

/-- A value is no list and has none in it. -/
abbrev IsFrozen (v : Value) : Prop :=
  v.frozen = v

/-- A number has no list in it. -/
theorem IsNumber.isFrozen {v : Value} (h : IsNumber v) : IsFrozen v := by
  cases h <;> rfl

/-- What is read is put together from values without lists, if it is put together from values at all,
and leaves no other numbers. -/
def Composes (read : Words → Option (Expr × Words)) : Prop :=
  ∀ ts e rest, read ts = some (e, rest) → IsComposed e → HoldsNumbers ts →
    Composed IsFrozen e ∧ HoldsNumbers rest

/-- The words behind a symbol. -/
theorem eq_of_expectSymbol {s : String} {ts rest : Words} (h : expectSymbol s ts = some rest) :
    ts = .symbol s :: rest := by
  unfold expectSymbol at h
  split at h
  · split at h
    case isTrue hs =>
      obtain rfl := Option.some.inj h
      rw [hs]
    case isFalse => cases h
  · cases h

/-- The words behind a symbol hold no other numbers. -/
theorem HoldsNumbers.behind {s : String} {ts rest : Words} (hts : HoldsNumbers ts)
    (h : expectSymbol s ts = some rest) : HoldsNumbers rest := by
  rw [eq_of_expectSymbol h] at hts
  exact hts.of_suffix (List.suffix_cons _ _)

/-- What stands behind an expression leaves it as it is, or makes it one that is not put together from
values. -/
theorem eq_or_not_isComposed_of_trailers {n : Nat} {e e' : Expr} {ts rest : Words}
    (h : trailers n e ts = some (e', rest)) : (e' = e ∧ rest = ts) ∨ ¬IsComposed e' := by
  -- A member, a call and a part of something are no such expressions.
  have hother : ∀ {e : Expr} {ts : Words}, ¬IsComposed e → (e' = e ∧ rest = ts) ∨ ¬IsComposed e' →
      ¬IsComposed e' := by
    rintro e ts he (⟨rfl, -⟩ | he')
    · exact he
    · exact he'
  induction n generalizing e ts with
  | zero => cases h
  | succ n ih =>
    rw [trailers.eq_def] at h
    simp only at h
    split at h
    · exact .inr (hother (not_isComposed_other _) (ih h))
    · cases h
    · obtain ⟨_, -, h⟩ := Option.bind_eq_some_iff.1 h
      exact .inr (hother (not_isComposed_call _ _ _) (ih h))
    · obtain ⟨_, -, h⟩ := Option.bind_eq_some_iff.1 h
      exact .inr (hother (not_isComposed_other _) (ih h))
    · obtain ⟨rfl, rfl⟩ := Prod.mk.inj (Option.some.inj h)
      exact .inl ⟨rfl, rfl⟩

/-- What stands between braces is not put together from values. -/
theorem gives_braces (n : Nat) (ts : Words) :
    Gives (fun answer => ¬IsComposed answer.1) (braces n ts) := by
  cases n with
  | zero => exact .none
  | succ n =>
    rw [braces]
    split
    · exact .some (not_isComposed_dict _)
    refine .ite ?_ (.bind ?_)
    · exact .bind fun _ => .bind fun _ => .some (not_isComposed_dict _)
    rintro ⟨first, ts⟩
    refine .ite (.bind ?_) (.ite ?_ ?_)
    · -- A dictionary, or what goes through others to make one.
      rintro ⟨value, ts⟩
      refine .ite ?_ (.bind fun _ => .some (not_isComposed_dict _))
      exact .bind fun _ => .bind fun _ => .some (not_isComposed_other _)
    · exact .ite .none (.bind fun _ => .bind fun _ => .some (not_isComposed_other _))
    · exact .bind fun _ => .some (not_isComposed_set _)

/-- What is handed out is not put together from values. -/
theorem gives_yieldedRest (n : Nat) (ts : Words) :
    Gives (fun answer => ¬IsComposed answer.1) (yieldedRest n ts) := by
  induction n generalizing ts with
  | zero => exact .none
  | succ n ih =>
    rw [yieldedRest]
    split
    · exact .some (not_isComposed_other _)
    · refine .bind fun ts => ?_
      split
      · exact .some (not_isComposed_other _)
      · exact .ite .none (.bind fun _ => ih _)

/-- Handing out values is not put together from values. -/
theorem gives_yielding (n : Nat) (ts : Words) :
    Gives (fun answer => ¬IsComposed answer.1) (yielding n ts) := by
  cases n with
  | zero => exact .none
  | succ n =>
    rw [yielding]
    split
    · exact .some (not_isComposed_other _)
    · split
      · exact .bind fun _ => .bind fun _ => .some (not_isComposed_other _)
      · exact .ite .none (.bind fun _ => gives_yieldedRest n _)

/-- Quotations stand for a value without lists, or for none. -/
theorem isFrozen_of_joinQuotations? {qs : List Quotation} {e : Expr}
    (h : joinQuotations? qs = some e) (he : IsComposed e) : Composed IsFrozen e := by
  simp only [joinQuotations?] at h
  split at h
  · obtain rfl := Option.some.inj h
    exact .constant rfl
  split at h
  · cases h
  split at h
  · obtain rfl := Option.some.inj h
    exact .constant rfl
  · obtain rfl := Option.some.inj h
    cases he

/-- The words behind quotations. -/
theorem quotations_suffix (ts : Words) : (quotations ts).2 <:+ ts := by
  fun_induction quotations ts with
  | case1 q ts qs rest heq ih =>
    rw [heq] at ih
    exact ih.trans (List.suffix_cons _ _)
  | case2 => exact List.suffix_rfl

/-- Every function of the grammar that can read what is put together from values composes it, up to a
bound. -/
structure ReadsComposed (n : Nat) : Prop where
  /-- An expression. -/
  expression : Composes (expression n)
  /-- An expression that may be named. -/
  namedExpression : Composes (namedExpression n)
  /-- A member of a display. -/
  displayItem : Composes (displayItem n)
  /-- The further members of a display. -/
  displayRest : ∀ close ts es rest, displayRest n close ts = some (es, rest) →
    (∀ e ∈ es, IsComposed e) → HoldsNumbers ts →
      (∀ e ∈ es, Composed IsFrozen e) ∧ HoldsNumbers rest
  /-- An operation. -/
  operation : ∀ level, Composes (operation n level)
  /-- The further operands of an operation. -/
  operationRest : ∀ level left ts e rest, operationRest n level left ts = some (e, rest) →
    IsComposed e → IsComposed left ∧ (Composed IsFrozen left → HoldsNumbers ts →
      Composed IsFrozen e ∧ HoldsNumbers rest)
  /-- A power behind signs. -/
  signed : Composes (signed n)
  /-- An atom with what stands behind it. -/
  primary : Composes (primary n)
  /-- An atom. -/
  atom : Composes (atom n)
  /-- What is between parentheses. -/
  group : Composes (group n)
  /-- What is between square brackets. -/
  listDisplay : Composes (listDisplay n)

/-- Nothing is read with no steps. -/
theorem readsComposed_zero : ReadsComposed 0 where
  expression := nofun
  namedExpression := nofun
  displayItem := nofun
  displayRest := nofun
  operation := nofun
  operationRest := nofun
  signed := nofun
  primary := nofun
  atom := nofun
  group := nofun
  listDisplay := nofun

variable {n : Nat}

/-- An expression is one that its operation composes. -/
theorem composes_expression (ih : ∀ k < n, ReadsComposed k) : Composes (expression n) := by
  intro ts e rest h he hts
  obtain ⟨k, rfl, hoperation, -⟩ := operation_of_expression h he
  exact (ih k (by omega)).operation 0 ts e rest hoperation he hts

/-- A named expression is not put together from values. -/
theorem composes_namedExpression (ih : ReadsComposed n) : Composes (namedExpression (n + 1)) := by
  intro ts e rest h he hts
  rw [namedExpression] at h
  split at h
  · obtain ⟨_, -, heq⟩ := Option.bind_eq_some_iff.1 h
    obtain ⟨rfl, -⟩ := Prod.mk.inj (Option.some.inj heq)
    cases he
  · exact ih.expression ts e rest h he hts

/-- A starred operand is not put together from values. -/
theorem composes_displayItem (ih : ReadsComposed n) : Composes (displayItem (n + 1)) := by
  intro ts e rest h he hts
  rw [displayItem] at h
  split at h
  · obtain ⟨_, -, heq⟩ := Option.bind_eq_some_iff.1 h
    obtain ⟨rfl, -⟩ := Prod.mk.inj (Option.some.inj heq)
    cases he
  · exact ih.namedExpression ts e rest h he hts

/-- The further members of a display are composed one after the other. -/
theorem composes_displayRest (ih : ReadsComposed n) (close : String) {ts rest : Words}
    {es : List Expr} (h : displayRest (n + 1) close ts = some (es, rest))
    (hes : ∀ e ∈ es, IsComposed e) (hts : HoldsNumbers ts) :
    (∀ e ∈ es, Composed IsFrozen e) ∧ HoldsNumbers rest := by
  rw [displayRest] at h
  split at h
  case h_1 hclose =>
    obtain ⟨rfl, rfl⟩ := Prod.mk.inj (Option.some.inj h)
    exact ⟨List.forall_mem_nil _, hts.behind hclose⟩
  obtain ⟨ts', hcomma, h⟩ := Option.bind_eq_some_iff.1 h
  have hts' := hts.behind hcomma
  split at h
  case h_1 hclose =>
    obtain ⟨rfl, rfl⟩ := Prod.mk.inj (Option.some.inj h)
    exact ⟨List.forall_mem_nil _, hts'.behind hclose⟩
  obtain ⟨⟨e, ts''⟩, hitem, h⟩ := Option.bind_eq_some_iff.1 h
  obtain ⟨⟨es', rest'⟩, hrest, heq⟩ := Option.bind_eq_some_iff.1 h
  obtain ⟨rfl, rfl⟩ := Prod.mk.inj (Option.some.inj heq)
  obtain ⟨he, hes'⟩ := List.forall_mem_cons.1 hes
  obtain ⟨he, hts''⟩ := ih.displayItem _ _ _ hitem he hts'
  obtain ⟨hes', hrest'⟩ := ih.displayRest _ _ _ _ hrest hes' hts''
  exact ⟨List.forall_mem_cons.2 ⟨he, hes'⟩, hrest'⟩

/-- The further operands of an operation are composed one after the other. -/
theorem composes_operationRest (ih : ReadsComposed n) (level : Nat) {left e : Expr}
    {ts rest : Words} (h : operationRest (n + 1) level left ts = some (e, rest))
    (he : IsComposed e) :
    IsComposed left ∧ (Composed IsFrozen left → HoldsNumbers ts →
      Composed IsFrozen e ∧ HoldsNumbers rest) := by
  rw [operationRest] at h
  split at h
  · obtain ⟨rfl, rfl⟩ := Prod.mk.inj (Option.some.inj h)
    exact ⟨he, fun hleft hts => ⟨hleft, hts⟩⟩
  obtain ⟨⟨right, ts'⟩, hright, h⟩ := Option.bind_eq_some_iff.1 h
  obtain ⟨hbinary, hcomposes⟩ := ih.operationRest _ _ _ _ _ h he
  cases hbinary with
  | binary hsum hleft hright' =>
    refine ⟨hleft, fun hfrozen hts => ?_⟩
    obtain ⟨hright', hts'⟩ := ih.operation _ _ _ _ hright hright'
      (hts.of_suffix (List.drop_suffix 1 ts))
    exact hcomposes (.binary hsum hfrozen hright') hts'

/-- An operation is composed of its operands. -/
theorem composes_operation (ih : ReadsComposed n) (level : Nat) :
    Composes (operation (n + 1) level) := by
  intro ts e rest h he hts
  rw [operation] at h
  split at h
  · exact ih.signed ts e rest h he hts
  obtain ⟨⟨left, ts'⟩, hleft, h⟩ := Option.bind_eq_some_iff.1 h
  obtain ⟨hleft', hcomposes⟩ := ih.operationRest _ _ _ _ _ h he
  obtain ⟨hleft', hts'⟩ := ih.operation _ _ _ _ hleft hleft' hts
  exact hcomposes hleft' hts'

/-- A power is not put together from values. -/
theorem eq_of_powerBehind {base e : Expr} {ts rest : Words}
    (h : powerBehind n base ts = some (e, rest)) (he : IsComposed e) : base = e ∧ ts = rest := by
  unfold powerBehind at h
  split at h
  · obtain ⟨_, -, heq⟩ := Option.bind_eq_some_iff.1 h
    obtain ⟨rfl, -⟩ := Prod.mk.inj (Option.some.inj heq)
    cases he with
    | binary hsum => obtain hsum | hsum := hsum <;> cases hsum
  · exact Prod.mk.inj (Option.some.inj h)

/-- A sign is composed with its operand; a power and what is waited for are not put together from
values. -/
theorem composes_signed (ih : ReadsComposed n) : Composes (signed (n + 1)) := by
  intro ts e rest h he hts
  rw [signed_eq] at h
  split at h
  · obtain ⟨⟨operand, ts'⟩, hoperand, heq⟩ := Option.bind_eq_some_iff.1 h
    obtain ⟨rfl, rfl⟩ := Prod.mk.inj (Option.some.inj heq)
    cases he with
    | unary hsign hcomposed =>
      obtain ⟨hcomposed, hts'⟩ := ih.signed _ _ _ hoperand hcomposed
        (hts.of_suffix (List.drop_suffix 1 ts))
      exact ⟨.unary hsign hcomposed, hts'⟩
  · split at h
    · obtain ⟨_, -, h⟩ := Option.bind_eq_some_iff.1 h
      obtain ⟨rfl, -⟩ := eq_of_powerBehind h he
      cases he
    · obtain ⟨⟨base, ts'⟩, hprimary, h⟩ := Option.bind_eq_some_iff.1 h
      obtain ⟨rfl, rfl⟩ := eq_of_powerBehind h he
      exact ih.primary _ _ _ hprimary he hts

/-- An atom is composed if nothing stands behind it. -/
theorem composes_primary (ih : ReadsComposed n) : Composes (primary (n + 1)) := by
  intro ts e rest h he hts
  rw [primary] at h
  obtain ⟨⟨d, ts'⟩, hatom, htrailers⟩ := Option.bind_eq_some_iff.1 h
  obtain ⟨rfl, rfl⟩ | hnot := eq_or_not_isComposed_of_trailers htrailers
  · exact ih.atom _ _ _ hatom he hts
  · exact absurd he hnot

/-- An atom is a value without lists, or what is between brackets. -/
theorem composes_atom (ih : ReadsComposed n) : Composes (atom (n + 1)) := by
  intro ts e rest h he hts
  -- One word stands for the value.
  have hvalue : ∀ {t : Token} {v : Value} {ts' : Words}, ts = t :: ts' → IsFrozen v →
      some (Expr.constant v, ts') = some (e, rest) → Composed IsFrozen e ∧ HoldsNumbers rest := by
    rintro t v ts' rfl hv heq
    obtain ⟨rfl, rfl⟩ := Prod.mk.inj (Option.some.inj heq)
    exact ⟨.constant hv, hts.of_suffix (List.suffix_cons _ _)⟩
  rw [atom.eq_def] at h
  simp only at h
  split at h
  · obtain ⟨rfl, -⟩ := Prod.mk.inj (Option.some.inj h)
    cases he
  case h_2 v ts' => exact hvalue rfl (hts v List.mem_cons_self).isFrozen h
  · exact hvalue rfl rfl h
  · exact hvalue rfl rfl h
  · exact hvalue rfl rfl h
  · exact hvalue rfl rfl h
  · exact ih.group _ _ _ h he (hts.of_suffix (List.suffix_cons _ _))
  · exact ih.listDisplay _ _ _ h he (hts.of_suffix (List.suffix_cons _ _))
  · exact absurd he (gives_braces _ _ _ h)
  case h_10 =>
    obtain ⟨d, hjoin, heq⟩ := Option.bind_eq_some_iff.1 h
    obtain ⟨rfl, rfl⟩ := Prod.mk.inj (Option.some.inj heq)
    exact ⟨isFrozen_of_joinQuotations? hjoin he, hts.of_suffix (quotations_suffix _)⟩
  · cases h

/-- A group is a tuple, or what is within it. -/
theorem composes_group (ih : ReadsComposed n) : Composes (group (n + 1)) := by
  intro ts e rest h he hts
  rw [group] at h
  split at h
  case h_1 hclose =>
    obtain ⟨rfl, rfl⟩ := Prod.mk.inj (Option.some.inj h)
    exact ⟨.tuple (List.forall_mem_nil _), hts.behind hclose⟩
  split at h
  · exact absurd he (gives_yielding _ _ _ h)
  obtain ⟨⟨first, ts'⟩, hitem, h⟩ := Option.bind_eq_some_iff.1 h
  simp only at h
  -- A generator is no expression that is put together from values.
  by_cases hloop : atLoop ts' = true
  · rw [if_pos hloop] at h
    split at h
    · cases h
    · obtain ⟨_, -, h⟩ := Option.bind_eq_some_iff.1 h
      obtain ⟨_, -, heq⟩ := Option.bind_eq_some_iff.1 h
      obtain ⟨rfl, -⟩ := Prod.mk.inj (Option.some.inj heq)
      cases he
  rw [if_neg hloop] at h
  -- With a comma behind the first member it is a tuple.
  by_cases hcomma : atSymbol "," ts' = true
  · rw [if_pos hcomma] at h
    obtain ⟨⟨es, rest'⟩, hrest, heq⟩ := Option.bind_eq_some_iff.1 h
    obtain ⟨rfl, rfl⟩ := Prod.mk.inj (Option.some.inj heq)
    cases he with
    | tuple hes =>
      obtain ⟨hfirst, hes⟩ := List.forall_mem_cons.1 hes
      obtain ⟨hfirst, hts'⟩ := ih.displayItem _ _ _ hitem hfirst hts
      obtain ⟨hes, hrest'⟩ := ih.displayRest _ _ _ _ hrest hes hts'
      exact ⟨.tuple (List.forall_mem_cons.2 ⟨hfirst, hes⟩), hrest'⟩
  rw [if_neg hcomma] at h
  split at h
  · cases h
  · obtain ⟨ts'', hclose, heq⟩ := Option.bind_eq_some_iff.1 h
    obtain ⟨rfl, rfl⟩ := Prod.mk.inj (Option.some.inj heq)
    obtain ⟨hfirst, hts'⟩ := ih.displayItem _ _ _ hitem he hts
    exact ⟨hfirst, hts'.behind hclose⟩

/-- A list is composed of its members. -/
theorem composes_listDisplay (ih : ReadsComposed n) : Composes (listDisplay (n + 1)) := by
  intro ts e rest h he hts
  rw [listDisplay] at h
  split at h
  case h_1 hclose =>
    obtain ⟨rfl, rfl⟩ := Prod.mk.inj (Option.some.inj h)
    exact ⟨.list (List.forall_mem_nil _), hts.behind hclose⟩
  obtain ⟨⟨first, ts'⟩, hitem, h⟩ := Option.bind_eq_some_iff.1 h
  simp only at h
  split at h
  · split at h
    · cases h
    · obtain ⟨_, -, h⟩ := Option.bind_eq_some_iff.1 h
      obtain ⟨_, -, heq⟩ := Option.bind_eq_some_iff.1 h
      obtain ⟨rfl, -⟩ := Prod.mk.inj (Option.some.inj heq)
      cases he
  · obtain ⟨⟨es, rest'⟩, hrest, heq⟩ := Option.bind_eq_some_iff.1 h
    obtain ⟨rfl, rfl⟩ := Prod.mk.inj (Option.some.inj heq)
    cases he with
    | list hes =>
      obtain ⟨hfirst, hes⟩ := List.forall_mem_cons.1 hes
      obtain ⟨hfirst, hts'⟩ := ih.displayItem _ _ _ hitem hfirst hts
      obtain ⟨hes, hrest'⟩ := ih.displayRest _ _ _ _ hrest hes hts'
      exact ⟨.list (List.forall_mem_cons.2 ⟨hfirst, hes⟩), hrest'⟩

/-- Every function of the grammar composes what is put together from values. -/
theorem readsComposed (n : Nat) : ReadsComposed n := by
  induction n using Nat.strongRecOn with
  | ind n ih =>
    match n with
    | 0 => exact readsComposed_zero
    | n + 1 =>
      have hn := ih n (Nat.lt_succ_self n)
      exact {
        expression := composes_expression ih
        namedExpression := composes_namedExpression hn
        displayItem := composes_displayItem hn
        displayRest := fun close _ _ _ => composes_displayRest hn close
        operation := composes_operation hn
        operationRest := fun level _ _ _ _ => composes_operationRest hn level
        signed := composes_signed hn
        primary := composes_primary hn
        atom := composes_atom hn
        group := composes_group hn
        listDisplay := composes_listDisplay hn }

/-- Expressions with commas between them are composed one after the other. -/
theorem composes_expressionsRest {steps bound : Nat} {ts rest : Words} {es : List Expr}
    (h : expressionsRest steps bound ts = some (es, rest)) (hes : ∀ e ∈ es, IsComposed e)
    (hts : HoldsNumbers ts) : ∀ e ∈ es, Composed IsFrozen e := by
  induction bound generalizing ts es rest with
  | zero => cases h
  | succ bound ih =>
    rw [expressionsRest] at h
    split at h
    · obtain ⟨rfl, -⟩ := Prod.mk.inj (Option.some.inj h)
      exact List.forall_mem_nil _
    case h_2 ts' hcomma =>
      split at h
      · obtain ⟨rfl, -⟩ := Prod.mk.inj (Option.some.inj h)
        exact List.forall_mem_nil _
      · obtain ⟨rfl, -⟩ := Prod.mk.inj (Option.some.inj h)
        exact List.forall_mem_nil _
      · obtain ⟨⟨e, ts''⟩, hfirst, h⟩ := Option.bind_eq_some_iff.1 h
        obtain ⟨⟨es', rest'⟩, hrest, heq⟩ := Option.bind_eq_some_iff.1 h
        obtain ⟨rfl, rfl⟩ := Prod.mk.inj (Option.some.inj heq)
        obtain ⟨he, hes'⟩ := List.forall_mem_cons.1 hes
        obtain ⟨he, hts''⟩ := (readsComposed steps).expression _ _ _ hfirst he (hts.behind hcomma)
        exact List.forall_mem_cons.2 ⟨he, ih hrest hes' hts''⟩

/-- The parts of an expression that words make up: the first one, and those behind commas. -/
structure MadeUp (ts : List Token) (first : Expr) (behind : Words) (es : List Expr)
    (rest : Words) : Prop where
  /-- The first expression. -/
  first : expression (stepsPerWord * (ts.length + 1)) ts = some (first, behind)
  /-- The others. -/
  others : expressionsRest (stepsPerWord * (ts.length + 1)) (stepsPerWord * (ts.length + 1)) behind =
    some (es, rest)
  /-- Only line ends are left. -/
  ends : (rest.all fun | .newline => true | _ => false) = true

/-- The expression that the parts make up: a tuple if there is a comma. -/
def madeOf (first : Expr) (behind : Words) (es : List Expr) : Expr :=
  if atSymbol "," behind then .tuple (first :: es) else first

/-- The expression that words make up has its parts. -/
theorem exists_madeUp {ts : List Token} {e : Expr} (h : ofWords? ts = some e) :
    ∃ first behind es rest, MadeUp ts first behind es rest ∧ e = madeOf first behind es := by
  unfold ofWords? at h
  simp only [Option.bind_eq_bind, Option.bind_eq_some_iff] at h
  obtain ⟨⟨first, behind⟩, hfirst, ⟨es, rest⟩, hothers, hend⟩ := h
  split at hend
  case isTrue hends =>
    exact ⟨first, behind, es, rest, ⟨hfirst, hothers, hends⟩, (Option.some.inj hend).symm⟩
  case isFalse => cases hend

/-- The first of the parts that make up what is put together from values is so too. -/
theorem isComposed_first {first : Expr} {behind : Words} {es : List Expr}
    (h : IsComposed (madeOf first behind es)) : IsComposed first := by
  unfold madeOf at h
  split at h
  · cases h with
    | tuple hes => exact hes first List.mem_cons_self
  · exact h

/-- An expression of words that is put together from values is so from values without lists. -/
theorem composed_of_ofWords? {ts : List Token} {e : Expr} (hts : HoldsNumbers ts)
    (h : ofWords? ts = some e) (he : IsComposed e) : Composed IsFrozen e := by
  obtain ⟨first, behind, es, rest, hmade, rfl⟩ := exists_madeUp h
  obtain ⟨hfirst, hbehind⟩ :=
    (readsComposed _).expression _ _ _ hmade.first (isComposed_first he) hts
  unfold madeOf at he ⊢
  split at he
  · cases he with
    | tuple hes =>
      have hes := (List.forall_mem_cons.1 hes).2
      have hothers := composes_expressionsRest hmade.others hes hbehind
      rw [if_pos ‹_›]
      exact .tuple (List.forall_mem_cons.2 ⟨hfirst, hothers⟩)
  · rw [if_neg ‹_›]
    exact hfirst

/-- An expression that a text writes is put together from values without lists if it is put together
from values. -/
theorem composed_of_parse? {text : List Char} {e : Expr} (h : parse? text = some e)
    (he : IsComposed e) : Composed IsFrozen e := by
  obtain ⟨ts, hwords, hexpr⟩ := ofWords?_of_parse? h
  exact composed_of_ofWords? (holdsNumbers_of_words? hwords) hexpr he

end Reading

end Hashmark.Condition
