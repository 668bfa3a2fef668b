import Hashmark.Proofs.Condition.Identity
import Hashmark.Proofs.Pass.Recast

/-!
# Which objects the texts of macros are

The text of a macro may be the same object as that of another one, which conditions can find out by
asking for identity, and by nothing else. So a pass over texts whose conditions do not ask for it
gives the same whichever objects the texts of the predefined macros are (`preprocess_separate`).
-/

namespace Hashmark

/-- The macro with its text as an object of its own. -/
def Macro.separate (m : Macro) : Macro :=
  { m with object := none }

namespace MacroTable

/-- The table of the macros with their texts as objects of their own. -/
def separate (table : MacroTable) : MacroTable :=
  ⟨table.macros.map Macro.separate⟩

/-- Macros are predefined one after the other. -/
theorem seedMissing_cons (table : MacroTable) (definition : String × String)
    (definitions : List (String × String)) (object : String → Option Nat) :
    table.seedMissing (definition :: definitions) object =
      MacroTable.seedMissing (if table.contains definition.1 then table
        else table.push ⟨definition.1, definition.2, .unknown, object definition.1⟩)
        definitions object := rfl

/-- A name leads to the same macro, but for the object that its text is. -/
theorem find?_separate (table : MacroTable) (name : String) :
    table.separate.find? name = (table.find? name).map Macro.separate := by
  rw [find?, separate, List.find?_map]
  rfl

/-- The same names are defined. -/
theorem contains_separate (table : MacroTable) (name : String) :
    table.separate.contains name = table.contains name := by
  rw [contains, contains, find?_separate, Option.isSome_map]

/-- A macro is added behind the others. -/
theorem separate_push (table : MacroTable) (m : Macro) :
    (table.push m).separate = table.separate.push m.separate := by
  simp only [separate, push, List.map_append, List.map_cons, List.map_nil]

/-- Which objects the texts of other macros are decides nothing. -/
theorem seedMissing_congr (table : MacroTable) {definitions : List (String × String)}
    {object object' : String → Option Nat}
    (h : ∀ definition ∈ definitions, object definition.1 = object' definition.1) :
    table.seedMissing definitions object = table.seedMissing definitions object' := by
  induction definitions generalizing table with
  | nil => rfl
  | cons definition definitions ih =>
    obtain ⟨hdefinition, hrest⟩ := List.forall_mem_cons.1 h
    rw [seedMissing_cons, seedMissing_cons, hdefinition]
    exact ih _ hrest

/-- Macros that are predefined are so with their texts as objects of their own. -/
theorem separate_seedMissing (table : MacroTable) (definitions : List (String × String))
    (object : String → Option Nat) :
    (table.seedMissing definitions object).separate =
      table.separate.seedMissing definitions fun _ => none := by
  induction definitions generalizing table with
  | nil => rfl
  | cons definition definitions ih =>
    rw [seedMissing_cons, seedMissing_cons, ih, contains_separate]
    split
    · rfl
    · rw [separate_push]
      rfl

end MacroTable

namespace Pass

/-- A test whose condition, if it has one, does not ask for identity. -/
def BranchTest.IgnoresIdentity : BranchTest → Prop
  | .expression payload => ∀ e,
    Condition.parse? (Text.strip (unquoteCondition (Text.strip payload))).toList = some e →
      e.IgnoresIdentity
  | _ => True

/-- The conditions of a text, and those of the files that are processed, do not ask for identity. -/
structure Environment.IgnoresIdentity (env : Environment) (text : String) : Prop where
  /-- Those of the text do not. -/
  text : Pass.Tested BranchTest.IgnoresIdentity text
  /-- Those of the files do not. -/
  files : env.Tested BranchTest.IgnoresIdentity

/-- What the first pass begins with are the macros that the options predefine. -/
theorem begin_start (config : Config) (mode : Mode) (path : Option Path) :
    begin config (State.start mode) path = { State.start mode with
      macros := MacroTable.empty.seedMissing config.defines config.macroObject
      including := path.toList } := by
  have hempty : (if config.keepMacros then MacroTable.empty else MacroTable.empty) = .empty :=
    ite_self MacroTable.empty
  have hreset : (Conditional.start mode).reset = .start mode := by cases mode <;> rfl
  show { State.start mode with
    output := ""
    conditions := (Conditional.start mode).reset
    macros := MacroTable.seedMissing (if config.keepMacros then MacroTable.empty else .empty)
      config.defines config.macroObject
    including := path.toList } = _
  rw [hempty, hreset]
  rfl

section Separate

variable (env : Environment) (object : String → Option Nat)

/-- A name leads to the same value. -/
theorem lookup_separate (state : State) (text : String) (defines : List (String × String))
    (name : String) :
    (lookup (env.predefining defines object) (state.recast text MacroTable.separate) name).forget =
      (lookup env state name).forget := by
  have hmacros : (state.recast text MacroTable.separate).macros = state.macros.separate := rfl
  unfold lookup
  rw [hmacros, MacroTable.find?_separate]
  cases state.macros.find? name with
  | none => rfl
  | some m =>
    simp only [Option.map_some, Macro.lookup, Macro.separate]
    cases Literal.parse m.value with
    | ok v => rfl
    | error e => cases e <;> rfl

/-- Only conditions that ask for identity notice which objects texts are. -/
theorem unnoticed_separate (defines : List (String × String)) :
    Unnoticed env (env.predefining defines object) MacroTable.separate
      BranchTest.IgnoresIdentity where
  contains := MacroTable.contains_separate
  push := fun table name value location => MacroTable.separate_push table _
  holds := by
    intro state text b hb
    have hmacros : (state.recast text MacroTable.separate).macros = state.macros.separate := rfl
    have hambient : (env.predefining defines object).config.ambient = env.config.ambient := rfl
    have hdefined : ∀ name,
        isDefined (env.predefining defines object) (state.recast text MacroTable.separate) name =
          isDefined env state name := by
      intro name
      rw [isDefined, isDefined, hmacros, MacroTable.contains_separate, hambient]
    cases b with
    | expression payload =>
      have hpayload : ∀ e, Condition.parse?
          (Text.strip (unquoteCondition (Text.strip payload))).toList = some e →
            e.IgnoresIdentity := hb
      have htruthy := Condition.isTruthy_forget
        (lookup_separate env object state text defines) hpayload
      have htest : test (env.predefining defines object) (state.recast text MacroTable.separate)
          payload = test env state payload := by
        unfold test
        rw [htruthy]
      exact htest
    | defined name => rw [BranchTest.holds, BranchTest.holds, hdefined]
    | undefined name => rw [BranchTest.holds, BranchTest.holds, hdefined]
    | always => rfl
    | never => rfl

/-- A pass whose conditions do not ask for identity gives the same whichever objects the texts of the
predefined macros are. -/
theorem preprocess_separate {text : String} (h : env.IgnoresIdentity text) :
    preprocess (env.predefining env.config.defines fun _ => none) text = preprocess env text := by
  have hseeded := MacroTable.separate_seedMissing .empty env.config.defines env.config.macroObject
  have hbegin : begin (env.predefining env.config.defines fun _ => none).config
      (State.start env.config.mode) none =
        (begin env.config (State.start env.config.mode) none).recast "" MacroTable.separate := by
    rw [begin_start, begin_start]
    simp only [State.recast, Environment.predefining, hseeded]
    rfl
  have hrun := run_recast (unnoticed_separate env (fun _ => none) env.config.defines) h.files h.text
    hbegin
  have hresult := congrArg Step.result hrun
  rw [result_recast] at hresult
  exact hresult

end Separate

end Pass

end Hashmark
