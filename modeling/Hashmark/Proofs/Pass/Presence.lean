import Hashmark.Pass.Run
import Hashmark.Proofs.Condition.Presence
import Hashmark.Proofs.Text.Separate

/-!
# Two ways to ask whether a name is defined

A block may ask for a name by itself, or by a condition that does. The first looks the name up as it
is written; the second reads it as an expression, which puts it into its normal form, and needs a
value that can be computed (`handleComment_presence`). For a name in its normal form whose value is
not beyond computation the two are the same (`handleComment_presence_eq`).
-/

namespace Hashmark.Pass

open Condition (Lookup presenceText)

/-- Whether something has been found. -/
def found : Lookup → Bool
  | .found _ _ => true
  | _ => false

section

variable {env : Environment} {emit : State → String → Path → Step} {state : State}
  {name payload : String}

/-- A directive with a payload, without blanks at its ends, asks for its command. -/
theorem handleComment_command {comment : String} (command : Command)
    (htext : comment.toList = '#' :: (command.name.toList ++ ' ' :: payload.toList))
    (hstrip : Text.strip comment = comment) :
    handleComment env emit state comment = obey env emit state command (some payload) := by
  have hspace : ' ' ∉ command.name.toList := by cases command <;> decide
  have hname : Command.ofName? (Text.lower command.name) = some command := by
    cases command <;> decide +kernel
  have hdirective : Directive.ofComment comment = ⟨Text.lower command.name, some payload⟩ := by
    rw [Directive.ofComment, hstrip, htext, List.drop_one, List.tail_cons, Text.cut_append hspace]
    simp
  unfold handleComment
  simp only [hdirective, Directive.command?, hname]

/-- A name is defined unless it leads to nothing. -/
theorem isDefined_eq (env : Environment) (state : State) (name : String) :
    isDefined env state name =
      match lookup env state name with
      | .undefined => false
      | _ => true := by
  unfold lookup isDefined MacroTable.contains Constants.contains
  cases state.macros.find? name with
  | some m =>
    simp only [Macro.lookup]
    cases Literal.parse m.value with
    | ok v => rfl
    | error fault => cases fault <;> rfl
  | none => cases env.config.ambient.find? name <;> rfl

/-- Only the text of a macro can write a value beyond computation. -/
theorem lookup_ne_overflow (env : Environment)
    (h : ∀ m, state.macros.find? name = some m → Literal.parse m.value ≠ .error .overflow) :
    lookup env state name ≠ .overflow := by
  intro hlookup
  unfold lookup at hlookup
  cases hfind : state.macros.find? name with
  | some m =>
    simp only [hfind, Macro.lookup] at hlookup
    cases hparse : Literal.parse m.value with
    | ok v => simp [hparse] at hlookup
    | error fault =>
      cases fault with
      | malformed => simp [hparse] at hlookup
      | overflow => exact h m hfind hparse
  | none =>
    simp only [hfind] at hlookup
    cases hconstant : env.config.ambient.find? name <;> simp [hconstant] at hlookup

/-- A condition that begins with no quote is taken as it is. -/
theorem unquoteCondition_eq_self {c : Char} {text : String} (h : text.toList.head? = some c)
    (hsingle : c ≠ '\'') (hdouble : c ≠ '"') : unquoteCondition text = text := by
  unfold unquoteCondition
  cases htext : text.toList with
  | nil => rfl
  | cons quote rest =>
    rw [htext] at h
    obtain rfl : quote = c := Option.some.inj h
    simp [hsingle, hdouble]

variable (hname : Text.isIdentifier name.toList = true) (hkeyword : name ∉ Condition.keywords)

include hname hkeyword

/-- The condition that asks for a name is true if the name is found in its normal form. -/
theorem test_presence :
    test env state (presenceText name) = found (lookup env state (Text.normalize name)) := by
  have hstrip := Condition.strip_presence name
  have hquote : unquoteCondition (presenceText name) = presenceText name :=
    unquoteCondition_eq_self (c := 'd') (by simp [presenceText]) (by decide) (by decide)
  unfold test
  rw [hstrip, hquote, Condition.isTruthy_presence hname hkeyword]
  cases lookup env state (Text.normalize name) <;> rfl

/-- Its negation is true if the name leads to nothing in its normal form. -/
theorem test_not_presence :
    test env state ("not " ++ presenceText name) =
      match lookup env state (Text.normalize name) with
      | .undefined => true
      | _ => false := by
  have hstrip := Condition.strip_not_presence name
  have hquote : unquoteCondition ("not " ++ presenceText name) = "not " ++ presenceText name :=
    unquoteCondition_eq_self (c := 'n') (by simp) (by decide) (by decide)
  unfold test
  rw [hstrip, hquote, Condition.isTruthy_not_presence hname hkeyword]
  cases lookup env state (Text.normalize name) <;> rfl

/-- Asked by a condition whether it is defined, a name is looked up in its normal form, and its
value has to be computed. -/
theorem handleComment_presence (env : Environment) (emit : State → String → Path → Step)
    (state : State) :
    handleComment env emit state ("#if defined(" ++ name ++ ")") =
      openBlock state (found (lookup env state (Text.normalize name))) ∧
    handleComment env emit state ("#if not defined(" ++ name ++ ")") =
      openBlock state
        (match lookup env state (Text.normalize name) with
        | .undefined => true
        | _ => false) := by
  have hasked : ("#if defined(" ++ name ++ ")").toList =
      '#' :: (Command.whenTrue.name.toList ++ ' ' :: (presenceText name).toList) := by
    simp [presenceText, Command.name]
  have hdenied : ("#if not defined(" ++ name ++ ")").toList =
      '#' :: (Command.whenTrue.name.toList ++ ' ' :: ("not " ++ presenceText name).toList) := by
    simp [presenceText, Command.name]
  constructor
  · rw [handleComment_command .whenTrue hasked (Text.strip_append (by simp; rfl) rfl)]
    exact congrArg (openBlock state) (test_presence hname hkeyword)
  · rw [handleComment_command .whenTrue hdenied (Text.strip_append (by simp; rfl) rfl)]
    exact congrArg (openBlock state) (test_not_presence hname hkeyword)

omit hkeyword

/-- Asked by itself whether it is defined, a name is looked up as it is written. -/
theorem handleComment_whenDefined (env : Environment) (emit : State → String → Path → Step)
    (state : State) :
    handleComment env emit state ("#ifdef " ++ name) = openBlock state (isDefined env state name) ∧
    handleComment env emit state ("#ifndef " ++ name) =
      openBlock state !(isDefined env state name) := by
  have hstrip : ∀ word : String, word.toList.head?.map Text.isBlank = some false →
      Text.strip (word ++ name) = word ++ name := fun word hword =>
    Text.strip_append hword (Text.getLast?_identifier hname)
  have hdefined : ("#ifdef " ++ name).toList =
      '#' :: (Command.whenDefined.name.toList ++ ' ' :: name.toList) := by simp [Command.name]
  have hundefined : ("#ifndef " ++ name).toList =
      '#' :: (Command.whenUndefined.name.toList ++ ' ' :: name.toList) := by simp [Command.name]
  constructor
  · rw [handleComment_command .whenDefined hdefined (hstrip _ rfl)]
    show openBlock state (isDefined env state (Text.strip name)) = _
    rw [Text.strip_identifier hname]
  · rw [handleComment_command .whenUndefined hundefined (hstrip _ rfl)]
    show openBlock state (!(isDefined env state (Text.strip name))) = _
    rw [Text.strip_identifier hname]

end

/-- Whether a name is defined has the same answer whether a block asks for it by itself or by a
condition, for every name that is no keyword, is in its normal form, and has no value beyond
computation: the block that is opened is the same, and so it is for the opposite questions. -/
theorem handleComment_presence_eq (env : Environment) (emit : State → String → Path → Step)
    (state : State) {name : String} (hname : Text.isIdentifier name.toList = true)
    (hkeyword : name ∉ Condition.keywords) (hnormal : Text.normalize name = name)
    (hvalue : ∀ m, state.macros.find? name = some m → Literal.parse m.value ≠ .error .overflow) :
    handleComment env emit state ("#if defined(" ++ name ++ ")") =
      handleComment env emit state ("#ifdef " ++ name) ∧
    handleComment env emit state ("#if not defined(" ++ name ++ ")") =
      handleComment env emit state ("#ifndef " ++ name) ∧
    handleComment env emit state ("#ifdef " ++ name) =
      openBlock state (isDefined env state name) := by
  obtain ⟨hasked, hdenied⟩ := handleComment_presence hname hkeyword env emit state
  obtain ⟨hdefined, hundefined⟩ := handleComment_whenDefined hname env emit state
  rw [hnormal] at hasked hdenied
  -- Now both look up the same name, and they part only where its value cannot be computed.
  have hlookup := lookup_ne_overflow env hvalue
  rw [hasked, hdenied, hdefined, hundefined, isDefined_eq]
  generalize lookup env state name = leads at hlookup ⊢
  cases leads with
  | undefined => exact ⟨rfl, rfl, rfl⟩
  | found v shared => exact ⟨rfl, rfl, rfl⟩
  | overflow => exact absurd rfl hlookup

/-- A macro with an ordinary value, asked for in a first pass. -/
theorem handleComment_presence_eq_plain :
    let env : Environment := ⟨{ defines := [("A", "1")] }, ⟨[], ⟨"/", []⟩, 0⟩⟩
    let state := begin env.config (State.start .scoped) none
    Text.isIdentifier "A".toList = true ∧ "A" ∉ Condition.keywords ∧ Text.normalize "A" = "A" ∧
    (∀ m, state.macros.find? "A" = some m → Literal.parse m.value ≠ .error .overflow) ∧
    handleDirective env state "#if defined(A)" = openBlock state true := by
  intro env state
  have hvalue : ∀ m, state.macros.find? "A" = some m →
      Literal.parse m.value ≠ .error .overflow := by
    intro m hm
    obtain rfl : ⟨"A", "1", .unknown, none⟩ = m := Option.some.inj hm
    exact fun h => nomatch h
  have hkeyword : "A" ∉ Condition.keywords := by decide
  obtain ⟨hasked, -, hdefined⟩ := handleComment_presence_eq env
    (fun state text path => emit env (depthBound env.files) state text (some path)) state
    rfl hkeyword rfl hvalue
  exact ⟨rfl, hkeyword, rfl, hvalue, hasked.trans hdefined⟩

/-- Whether a literal is beyond computation. -/
def isBeyond : Except Literal.Fault Value → Bool
  | .error .overflow => true
  | _ => false

/-- The literal that characters write. -/
def literalOf (cs : List Char) : Except Literal.Fault Value :=
  match Condition.parse? (cs.dropWhile fun c => c = ' ' || c = '\t') with
  | none => .error .malformed
  | some e => Literal.ofExpr e

/-- A text is read by its characters. -/
theorem parse_ofList (cs : List Char) : Literal.parse (String.ofList cs) = literalOf cs := by
  rw [Literal.parse, String.toList_ofList]
  rfl

/-- A name whose value is beyond computation leads to that. -/
theorem lookup_eq_overflow {env : Environment} {state : State} {name : String} {m : Macro}
    (hfind : state.macros.find? name = some m) (h : isBeyond (Literal.parse m.value) = true) :
    lookup env state name = .overflow := by
  unfold lookup
  simp only [hfind, Macro.lookup]
  generalize Literal.parse m.value = parsed at h
  match parsed, h with
  | .error .overflow, _ => rfl

/-- A macro whose value is beyond computation is defined, but no condition finds it: an integer of
401 digits is too large to be added to an imaginary number. -/
theorem handleComment_presence_beyond :
    let value := String.ofList ('1' :: List.replicate 400 '0' ++ ['+', '1', 'j'])
    let env : Environment := ⟨{ defines := [("A", value)] }, ⟨[], ⟨"/", []⟩, 0⟩⟩
    let state := begin env.config (State.start .scoped) none
    Text.isIdentifier "A".toList = true ∧ "A" ∉ Condition.keywords ∧
    handleDirective env state "#ifdef A" = openBlock state true ∧
    handleDirective env state "#if defined(A)" = openBlock state false ∧
    (openBlock state true).1.suppressed = false ∧ (openBlock state false).1.suppressed = true := by
  intro value env state
  have hname : Text.isIdentifier "A".toList = true := rfl
  have hkeyword : "A" ∉ Condition.keywords := by decide
  have hbeyond : isBeyond (Literal.parse value) = true :=
    (congrArg isBeyond (parse_ofList _)).trans (by decide +kernel)
  have hfind : state.macros.find? "A" = some ⟨"A", value, .unknown, none⟩ := rfl
  have hlookup : lookup env state (Text.normalize "A") = .overflow :=
    lookup_eq_overflow hfind hbeyond
  have hdefined : isDefined env state "A" = true := rfl
  let inner := fun state text path => emit env (depthBound env.files) state text (some path)
  refine ⟨hname, hkeyword, ?_, ?_, rfl, rfl⟩
  · have hplain := (handleComment_whenDefined hname env inner state).1
    rw [hdefined] at hplain
    exact hplain
  · have hasked := (handleComment_presence hname hkeyword env inner state).1
    rw [hlookup] at hasked
    exact hasked

end Hashmark.Pass
