import Hashmark.Proofs.Pass.Correspondence

/-!
# Changes that a pass carries along

A text may stand in front of the output, and the macros may be changed in a way that neither
definitions nor the tests of conditions notice (`Unnoticed`). Then every step does the same, and what
it leads to is changed in the same way (`processToken_recast`). The macros that the options
predefine are in the table when a pass begins, and no step looks at them, so that they may be others
as well. From one step it follows for many (`processTokens_recast`), for the text of an included file
by induction on how deeply files include one another (`emit_recast`), and so for whole passes
(`run_recast`).

Which tests notice a change is up to it. So it is asked of the tokens of a text (`Tested`), and of
those of the files that are processed themselves (`Environment.Tested`), that their tests are among
those that do not.
-/

namespace Hashmark.Pass

open Source (Token Tokenized)

/-- The environment in which these macros are predefined. What `object` gives for a name says which
object the text of the macro is. -/
def Environment.predefining (env : Environment) (defines : List (String × String))
    (object : String → Option Nat := env.config.macroObject) : Environment :=
  { env with config := { env.config with defines, macroObject := object } }

/-- The state with a text in front of the output, and with its macros changed. -/
def State.recast (text : String) (change : MacroTable → MacroTable) (state : State) : State :=
  { state with macros := change state.macros, output := text ++ state.output }

/-- What a step leads to, with a text in front of the output and the macros changed. -/
def recast {α : Type} (text : String) (change : MacroTable → MacroTable) (result : State × α) :
    State × α :=
  (result.1.recast text change, result.2)

/-- A change of macros that definitions and certain tests do not notice. -/
structure Unnoticed (env env' : Environment) (change : MacroTable → MacroTable)
    (tests : BranchTest → Prop) : Prop where
  /-- The same names are defined. -/
  contains : ∀ table name, (change table).contains name = table.contains name
  /-- A macro is added behind the others. -/
  push : ∀ table name value location, change (table.push ⟨name, value, location, none⟩) =
    (change table).push ⟨name, value, location, none⟩
  /-- The tests have the same results. -/
  holds : ∀ state text b, tests b → b.holds env' (state.recast text change) = b.holds env state

/-- The test of a token, if there is one, is among certain ones. -/
def TestedBy (tests : BranchTest → Prop) (token : Token) : Prop :=
  ∀ b, role token = .opening b ∨ role token = .branch b → tests b

/-- The tests of a text are among certain ones. -/
def Tested (tests : BranchTest → Prop) (text : String) : Prop :=
  ∀ token ∈ (Source.tokenize text).tokens, TestedBy tests token

/-- The tests of all files that may be processed are among certain ones. -/
def Environment.Tested (env : Environment) (tests : BranchTest → Prop) : Prop :=
  env.config.recursiveIncludes = true → ∀ path text,
    env.files.readText path env.config = .ok text → Pass.Tested tests text

/-- Processing included files whose tests are among certain ones carries a change along. -/
def EmitRecasts (tests : BranchTest → Prop) (text : String) (change : MacroTable → MacroTable)
    (emit emit' : State → String → Path → Step) : Prop :=
  ∀ state source path, Tested tests source →
    emit' (state.recast text change) source path = recast text change (emit state source path)

section Recast

variable {env : Environment} {defines : List (String × String)} {object : String → Option Nat}
  {text : String} {change : MacroTable → MacroTable} {tests : BranchTest → Prop}

/-- A token is copied alike. -/
theorem copy_recast (state : State) (more : String) :
    copy (state.recast text change) more = (copy state more).recast text change := by
  have hsuppressed : (state.recast text change).suppressed = state.suppressed := rfl
  unfold copy
  rw [hsuppressed]
  split
  · rfl
  · simp only [State.append, State.recast, String.append_assoc]

/-- A directive is settled alike. -/
theorem settle_recast (handled : Handled) (more : String) :
    settle more (recast text change handled) = recast text change (settle more handled) := by
  obtain ⟨state, result⟩ := handled
  match result with
  | .ok true => rfl
  | .ok false => exact congrArg (·, none) (copy_recast state more)
  | .error e => rfl

/-- Blocks are changed alike. -/
theorem changeBlocks_recast (state : State) (result : Except Imbalance Conditional) :
    changeBlocks (state.recast text change) result =
      recast text change (changeBlocks state result) := by
  cases result <;> rfl

/-- A macro is defined alike. -/
theorem defineMacro_recast (h : Unnoticed env (env.predefining defines object) change tests)
    (state : State) (payload : String) :
    defineMacro (state.recast text change) payload =
      recast text change (defineMacro state payload) := by
  simp only [defineMacro, MacroTable.define, State.recast, h.contains]
  by_cases hdefined : state.macros.contains
      (String.ofList (Text.cut ' ' payload.toList).1) = true
  · simp only [if_pos hdefined]
    rfl
  · simp only [if_neg hdefined, ← h.push]
    rfl

variable {emit emit' : State → String → Path → Step}

/-- The text of a file is processed alike. -/
theorem spliceFile_recast (hemit : EmitRecasts tests text change emit emit') (state : State)
    {source : String} (hsource : Tested tests source) (resolved : Path) :
    spliceFile emit' (state.recast text change) source resolved =
      recast text change (spliceFile emit state source resolved) := by
  have hinner := hemit { state with including := state.including ++ [resolved] } source resolved
    hsource
  unfold spliceFile
  split
  case isTrue hmem =>
    have hmem' : state.including.contains resolved = true := hmem
    rw [if_pos hmem']
    rfl
  case isFalse hmem =>
    have hmem' : ¬state.including.contains resolved = true := hmem
    have hentered : { state.recast text change with
        including := (state.recast text change).including ++ [resolved] } =
        State.recast text change { state with including := state.including ++ [resolved] } := rfl
    rw [if_neg hmem', hentered, hinner]
    generalize emit { state with including := state.including ++ [resolved] } source resolved = step
    obtain ⟨after, failure⟩ := step
    cases failure <;> rfl

/-- A file is included alike. -/
theorem includeFile_recast (hfiles : env.Tested tests)
    (hemit : EmitRecasts tests text change emit emit') (state : State) (payload : String) :
    includeFile (env.predefining defines object) emit' (state.recast text change) payload =
      recast text change (includeFile env emit state payload) := by
  have htarget : includeTarget (env.predefining defines object) (state.recast text change) =
      includeTarget env state := rfl
  have hread : readInclude (env.predefining defines object) (state.recast text change).location =
      readInclude env state.location := rfl
  have hrecursive : (env.predefining defines object).config.recursiveIncludes =
      env.config.recursiveIncludes := rfl
  unfold includeFile
  rw [htarget]
  generalize includeTarget env state _ = target
  have hreading : { state.recast text change with
      reads := target :: (state.recast text change).reads } =
      State.recast text change { state with reads := target :: state.reads } := rfl
  simp only [hreading, hread]
  cases hfile : readInclude env state.location target with
  | error e => rfl
  | ok source =>
    simp only [hrecursive]
    split
    case isTrue hrec =>
      exact spliceFile_recast hemit _ (hfiles hrec target source (readText_of_readInclude hfile)) _
    case isFalse => simp only [recast, State.append, State.recast, String.append_assoc]

/-- A token is processed alike. -/
theorem processToken_recast (h : Unnoticed env (env.predefining defines object) change tests)
    (hfiles : env.Tested tests) (hemit : EmitRecasts tests text change emit emit') (state : State)
    {token : Token} (htoken : TestedBy tests token) :
    processToken (env.predefining defines object) emit' (state.recast text change) token =
      recast text change (processToken env emit state token) := by
  have hreach : (state.recast text change).reach token = (state.reach token).recast text change :=
    rfl
  have hsuppressed : (state.recast text change).suppressed = state.suppressed := rfl
  have hconditions : (state.recast text change).conditions = state.conditions := rfl
  cases hrole : role token with
  | text =>
    rw [processToken_text hrole, processToken_text hrole, hreach, copy_recast]
    rfl
  | definition payload =>
    rw [processToken_definition hrole, processToken_definition hrole, hreach, hsuppressed,
      defineMacro_recast h, settle_recast]
    split <;> rfl
  | inclusion payload =>
    rw [processToken_inclusion hrole, processToken_inclusion hrole, hreach, hsuppressed,
      includeFile_recast hfiles hemit, settle_recast]
    split <;> rfl
  | opening b =>
    rw [processToken_opening hrole, processToken_opening hrole, h.holds _ _ _ (htoken b (.inl hrole))]
    rfl
  | branch b =>
    rw [processToken_branchBlocks hrole, processToken_branchBlocks hrole, hreach, hsuppressed,
      hconditions, h.holds _ _ _ (htoken b (.inr hrole)), changeBlocks_recast, settle_recast]
    split <;> rfl
  | ending =>
    rw [processToken_ending hrole, processToken_ending hrole, hreach, hconditions,
      changeBlocks_recast, settle_recast]

/-- Tokens are processed alike if each of them is. -/
theorem processTokens_recast_of (h : Unnoticed env (env.predefining defines object) change tests)
    (hfiles : env.Tested tests) (hemit : EmitRecasts tests text change emit emit') (state : State)
    {tokens : List Token} (htokens : ∀ token ∈ tokens, TestedBy tests token) :
    processTokens (env.predefining defines object) emit' (state.recast text change) tokens =
      recast text change (processTokens env emit state tokens) := by
  induction tokens generalizing state with
  | nil => rfl
  | cons token tokens ih =>
    obtain ⟨htoken, hrest⟩ := List.forall_mem_cons.1 htokens
    rw [processTokens, processTokens, processToken_recast h hfiles hemit state htoken]
    generalize processToken env emit state token = step
    obtain ⟨after, failure⟩ := step
    cases failure with
    | none => exact ih after hrest
    | some e => rfl

/-- The pieces of a source are processed alike. -/
theorem processPieces_recast (h : Unnoticed env (env.predefining defines object) change tests)
    (hfiles : env.Tested tests) (hemit : EmitRecasts tests text change emit emit') (state : State)
    {pieces : Tokenized} (hpieces : ∀ token ∈ pieces.tokens, TestedBy tests token) :
    processPieces (env.predefining defines object) emit' (state.recast text change) pieces =
      recast text change (processPieces env emit state pieces) := by
  have hscanned : ∀ token ∈ pieces.scanned, TestedBy tests token :=
    fun token htoken => hpieces token (List.mem_append_left _ htoken)
  have hrest : ∀ token ∈ pieces.rest.toList, TestedBy tests token :=
    fun token htoken => hpieces token (List.mem_append_right _ htoken)
  rw [processPieces, processPieces, processTokens_recast_of h hfiles hemit state hscanned]
  generalize processTokens env emit state pieces.scanned = step
  obtain ⟨after, failure⟩ := step
  cases failure with
  | none =>
    exact processTokens_recast_of h hfiles hemit { after with
      warnings := pieces.warning.toList.map (warningText after.location.path) ++ after.warnings }
      hrest
  | some e => rfl

/-- The text of a file is processed alike, whatever macros the options predefine. -/
theorem emit_recast (h : Unnoticed env (env.predefining defines object) change tests)
    (hfiles : env.Tested tests) (depth : Nat) (state : State) {source : String}
    (hsource : Tested tests source) (path : Option Path) :
    Pass.emit (env.predefining defines object) depth (state.recast text change) source path =
      recast text change (Pass.emit env depth state source path) := by
  induction depth generalizing state source path with
  | zero => rfl
  | succ depth ih =>
    have hinner : EmitRecasts tests text change
        (fun state source path => Pass.emit env depth state source (some path))
        (fun state source path =>
          Pass.emit (env.predefining defines object) depth state source (some path)) :=
      fun state source path hsource => ih state hsource (some path)
    have hpieces := processPieces_recast h hfiles hinner
      { state with location := ⟨path, state.location.line⟩ } hsource
    have hentered : { state.recast text change with
        location := ⟨path, (state.recast text change).location.line⟩ } =
        State.recast text change { state with location := ⟨path, state.location.line⟩ } := rfl
    simp only [Pass.emit]
    rw [hentered, hpieces]
    rfl

/-- In a pass, tokens are processed alike. -/
theorem processTokens_recast (h : Unnoticed env (env.predefining defines object) change tests)
    (hfiles : env.Tested tests) (state : State) {tokens : List Token}
    (htokens : ∀ token ∈ tokens, TestedBy tests token) :
    processTokens (env.predefining defines object) (included (env.predefining defines object))
        (state.recast text change) tokens =
      recast text change (processTokens env (included env) state tokens) :=
  processTokens_recast_of h hfiles
    (fun state _ path hsource =>
      emit_recast h hfiles (env.files.nodes.length + 1) state hsource (some path)) state htokens

/-- The end of a pass leaves a change as it is. -/
theorem finish_recast (path : Option Path) (text : String) (change : MacroTable → MacroTable)
    (step : Step) : finish path (recast text change step) = recast text change (finish path step) := by
  obtain ⟨state, failure⟩ := step
  cases failure with
  | some e => rfl
  | none =>
    have hconditions : (state.recast text change).conditions = state.conditions := rfl
    simp only [recast, finish, hconditions]
    split <;> rfl

/-- Passes do the same if they begin in states of which one is changed. -/
theorem run_recast (h : Unnoticed env (env.predefining defines object) change tests)
    (hfiles : env.Tested tests) {source : String} (hsource : Tested tests source)
    {state state' : State} {path : Option Path}
    (hbegin : begin (env.predefining defines object).config state' path =
      (begin env.config state path).recast text change) :
    run (env.predefining defines object) state' source path =
      recast text change (run env state source path) := by
  rw [run, run, hbegin, ← finish_recast]
  exact congrArg (finish path) (emit_recast h hfiles (depthBound env.files) _ hsource path)

/-- A change of the macros alone leaves the result of a pass as it is. -/
theorem result_recast (change : MacroTable → MacroTable) (step : Step) :
    Step.result (recast "" change step) = step.result := by
  obtain ⟨state, failure⟩ := step
  cases failure with
  | some e => rfl
  | none => exact congrArg Except.ok String.empty_append

end Recast

end Hashmark.Pass
