import Hashmark.Proofs.Condition.Equality
import Hashmark.Proofs.Pass.Predefine
import Hashmark.Proofs.Pass.Presence
import Hashmark.Proofs.Pass.Spacing

/-!
# Macros and the literals that they are defined as

The text of a macro is read as a literal when the macro is looked up, and a condition may hold the
same text. Both readers agree on what a text is worth, but for lists: a list is a list as a literal
and a tuple in a condition. So a macro is equal to its own text, written in a condition, if its text
has no list in it and no number that differs from itself (`literal_equality`).
-/

namespace Hashmark.Pass

open Condition (equalityText)

section Definition

variable {env : Environment} {state : State} {name text : String}

/-- A name that is not defined yet is defined as the text between the quotes of a definition. -/
theorem handleDirective_definitionComment (env : Environment) (hkept : state.suppressed = false)
    (hspace : ' ' ∉ name.toList) (hnew : state.macros.contains name = false) :
    handleDirective env state (String.ofList (definitionComment (name, text))) =
      ({ state with macros := state.macros.push ⟨name, text, state.location, none⟩ }, .ok true) := by
  have hcommand : Directive.command? ⟨"define", some (String.ofList
      (name.toList ++ ' ' :: '"' :: (text.toList ++ ['"'])))⟩ = some .define := by
    show Command.ofName? "define" = some .define
    decide
  unfold handleDirective handleComment
  rw [ofComment_definitionComment]
  simp only [hcommand, obey, hkept, Bool.false_eq_true, if_false, defineMacro, String.toList_ofList,
    Text.cut_append hspace, Option.getD_some, stripWrapping_quoted, String.ofList_toList,
    MacroTable.define, hnew]

/-- The macro that is added under a name that was not defined is found by it. -/
theorem find?_push_self {table : MacroTable} {name : String} (h : table.contains name = false)
    (text : String) (location : Location) :
    (table.push ⟨name, text, location, none⟩).find? name = some ⟨name, text, location, none⟩ := by
  have hnone : table.find? name = none := by
    simpa [MacroTable.contains] using h
  simp only [MacroTable.find?, MacroTable.push, List.find?_append] at hnone ⊢
  rw [hnone]
  simp

/-- Nothing but the blanks around it is dropped of a payload behind one space. -/
theorem strip_keptBehind_zero (payload : String) :
    Text.strip (keptBehind 0 payload) = Text.strip payload := by
  obtain ⟨rest, hrest, hblank⟩ := Text.dropTrailing_append Text.isBlank payload.toList
  have hlast := Text.getLast?_dropTrailing Text.isBlank payload.toList
  simp only [Text.strip, Text.trimBoth, keptBehind, String.toList_ofList, List.replicate_zero,
    List.nil_append]
  generalize Text.dropTrailing Text.isBlank payload.toList = kept at hrest hlast
  rw [hrest, List.dropWhile_append]
  split
  case isTrue hempty =>
    -- What is left has no blank at its end, so that there is nothing left.
    have hdrop : (rest ++ []).dropWhile Text.isBlank = [].dropWhile Text.isBlank :=
      List.dropWhile_append_of_pos hblank
    rw [List.append_nil, List.dropWhile_nil] at hdrop
    rw [List.isEmpty_iff.1 hempty, hdrop]
  case isFalse => rw [Text.dropTrailing_append_of_all hblank]

/-- A condition that begins with a name is not in quotes. -/
theorem unquoteCondition_of_name {text : String} {c : Char}
    (hhead : text.toList.head? = some c) (hc : Condition.isNamePart c = true) :
    unquoteCondition text = text := by
  have hne : ∀ d, Condition.isNamePart d = false → c ≠ d :=
    fun d hd => Condition.ne_of_isNamePart hc hd
  unfold unquoteCondition
  split
  · rfl
  case h_2 quote rest hchars =>
    rw [hchars, List.head?_cons] at hhead
    obtain rfl := Option.some.inj hhead
    rw [if_neg (by simp [hne '"' rfl, hne '\'' rfl])]

/-- The condition that a name equals a text keeps the block that it opens if it is true. -/
theorem handleDirective_equality (env : Environment) (state : State)
    (hname : Text.isIdentifier name.toList = true)
    (htrue : Condition.isTruthy (lookup env state) (Text.strip (equalityText name text)) = .ok true) :
    handleDirective env state (spaced .whenTrue 1 (equalityText name text)) =
      openBlock state true := by
  obtain ⟨c, cs, hcs⟩ : ∃ c cs, name.toList = c :: cs := by
    cases hcs : name.toList with
    | nil =>
      rw [hcs] at hname
      cases hname
    | cons c cs => exact ⟨c, cs, rfl⟩
  have hmem : c ∈ name.toList := by
    rw [hcs]
    exact List.mem_cons_self
  have hblank := Text.not_isBlank_of_mem_identifier hname c hmem
  have hpart := Condition.isNamePart_of_identifier hname c hmem
  have htext : equalityText name text = String.ofList (c :: (cs ++ (" == " ++ text).toList)) := by
    apply String.toList_injective
    simp [equalityText, hcs]
  -- There is a condition, since a name is not blank,
  have hsome : ¬IsBlankText (equalityText name text) := by
    intro hall
    rw [htext] at hall
    have hc := hall c (by rw [String.toList_ofList]; exact List.mem_cons_self)
    rw [hblank] at hc
    cases hc
  -- and it is not in quotes, since a name begins without one.
  have hunquoted : unquoteCondition (Text.strip (equalityText name text)) =
      Text.strip (equalityText name text) := by
    refine unquoteCondition_of_name ?_ hpart
    rw [htext]
    exact Text.head?_strip hblank
  have htest : test env state (keptBehind 0 (equalityText name text)) = true := by
    unfold test
    rw [strip_keptBehind_zero, hunquoted, htrue]
  rw [handleDirective, handleComment_spaced .whenTrue 0 hsome]
  show openBlock state (test env state (keptBehind 0 (equalityText name text))) = _
  rw [htest]

end Definition

/-- A text that is a literal, and that is accepted as a condition without names, has the same value
in both readings, but for a tuple in the place of every list. Without lists and without numbers that
differ from themselves, a text on one line is equal to any macro that it defines: after the
definition, wherever the name still leads to that macro, the condition that the name equals the text
is true. -/
theorem literal_equality (m : Macro) (v w : Value) (hparse : Literal.parse m.value = .ok v)
    (hevaluate : Condition.evaluate (fun _ => .undefined) m.value = .ok w) :
    m.literal = some v ∧ w = v.frozen ∧
      (v.frozen = v → v.hasNaN = false → '\n' ∉ m.value.toList → '\r' ∉ m.value.toList →
        Text.isIdentifier m.name.toList = true → Text.normalize m.name = m.name →
        m.name ∉ Condition.keywords →
        ∀ (env : Environment) (state : State), state.suppressed = false →
          state.macros.contains m.name = false →
          ∃ after,
            handleDirective env state (String.ofList (definitionComment (m.name, m.value))) =
              (after, .ok true) ∧
            ∀ later : State, later.macros.find? m.name = after.macros.find? m.name →
              handleDirective env later (spaced .whenTrue 1 (equalityText m.name m.value)) =
                openBlock later true) := by
  refine ⟨?_, Literal.evaluate_of_parse hparse hevaluate, ?_⟩
  · rw [Macro.literal, Macro.literalOf, hparse]
  intro hfrozen hnan hline hreturn hname hnormal hkeyword env state hkept hnew
  have hspace : ' ' ∉ m.name.toList := Condition.notMem_name hname rfl
  refine ⟨_, handleDirective_definitionComment env hkept hspace hnew, fun later hlater => ?_⟩
  have hlookup : lookup env later m.name = .found v .fresh := by
    rw [lookup, hlater, find?_push_self hnew]
    simp only [Macro.lookup, hparse]
  exact handleDirective_equality env later hname
    (Condition.isTruthy_equality hname hkeyword hnormal hparse hevaluate hline hreturn hnan hfrozen
      hlookup)

/-- A text without blanks around it has the value of the expression that its characters write. -/
theorem evaluate_ofList {cs : List Char} {e : Condition.Expr} {v : Value}
    (hstrip : Text.trimBoth Text.isBlank cs = cs) (hparse : Condition.parse? cs = some e)
    (heval : Condition.eval (fun _ => .undefined) e = .ok v) :
    Condition.evaluate (fun _ => .undefined) (String.ofList cs) = .ok v := by
  simp only [Condition.evaluate, Text.strip, String.toList_ofList, hstrip, hparse, heval]

/-- A macro whose text is a tuple of numbers has the value that its text has in a condition, and is
equal to its text once it is defined. -/
theorem literal_equality_tuple :
    let m : Macro := ⟨"N", String.ofList ['(', '1', ',', ' ', '-', '2', ')'], .unknown, none⟩
    let v : Value := .tuple [.int 1, .int (-2)]
    let env : Environment := ⟨{}, ⟨[], ⟨"/", []⟩, 0⟩⟩
    let state := State.start .scoped
    Literal.parse m.value = .ok v ∧
    Condition.evaluate (fun _ => .undefined) m.value = .ok v ∧ m.literal = some v ∧
    v.frozen = v ∧ v.hasNaN = false ∧
    ∃ after,
      handleDirective env state (String.ofList (definitionComment (m.name, m.value))) =
        (after, .ok true) ∧
      handleDirective env after (spaced .whenTrue 1 (equalityText m.name m.value)) =
        openBlock after true := by
  intro m v env state
  have hparse : Literal.parse m.value = .ok v := (parse_ofList _).trans rfl
  have hevaluate : Condition.evaluate (fun _ => .undefined) m.value = .ok v :=
    evaluate_ofList (by decide) rfl rfl
  have hline : '\n' ∉ m.value.toList := by
    rw [String.toList_ofList]
    decide
  have hreturn : '\r' ∉ m.value.toList := by
    rw [String.toList_ofList]
    decide
  have hname : Text.isIdentifier "N".toList = true := by decide
  have hnormal : Text.normalize "N" = "N" := by decide +kernel
  have hkeyword : m.name ∉ Condition.keywords := by decide
  obtain ⟨hliteral, -, hequal⟩ := literal_equality m v v hparse hevaluate
  obtain ⟨after, hafter, hlater⟩ :=
    hequal rfl rfl hline hreturn hname hnormal hkeyword env state rfl rfl
  exact ⟨hparse, hevaluate, hliteral, rfl, rfl, after, hafter, hlater after rfl⟩

/-- A list is one as the value of a macro and a tuple in a condition, and the two are not equal. -/
theorem literal_equality_list :
    let m : Macro := ⟨"L", String.ofList ['[', '1', ',', ' ', '2', ']'], .unknown, none⟩
    let v : Value := .list [.int 1, .int 2]
    let w : Value := .tuple [.int 1, .int 2]
    m.literal = some v ∧ Condition.evaluate (fun _ => .undefined) m.value = .ok w ∧
      v.equal w = false := by
  intro m v w
  have hparse : Literal.parse m.value = .ok v := (parse_ofList _).trans rfl
  refine ⟨?_, evaluate_ofList (by decide) rfl rfl, ?_⟩
  · rw [Macro.literal, Macro.literalOf, hparse]
  · rw [Value.equal]
    · rfl
    all_goals exact nofun

end Hashmark.Pass
