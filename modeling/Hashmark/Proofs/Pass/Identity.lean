import Hashmark.Proofs.Pass.Resemblance
import Hashmark.Proofs.Source.Lossless

/-!
# Sources without directives

A comment is a directive if its name is that of a command; of the eight commands five ask for
nothing without a payload (`Directive.isIdle`). Every other token is text (`role_eq_text_iff`), and
a pass that finds nothing but text copies it (`processTokens_text`). Since the tokens make up the
source, such a pass gives the source back (`run_identity`), even where the scan of the source has
failed.
-/

namespace Hashmark

/-- Whether a command asks for nothing without a payload. -/
def Command.needsPayload : Command → Bool
  | .define | .include | .whenTrue | .whenDefined | .whenUndefined => true
  | .elseWhenTrue | .otherwise | .endBlock => false

/-- Whether a comment, read as a directive, asks for nothing: its name is that of no command, or the
command needs a payload and there is none. -/
def Directive.isIdle (directive : Directive) : Bool :=
  match directive.command? with
  | none => true
  | some command => command.needsPayload && directive.payload.isNone

/-- No comment of a source asks for anything. -/
def Source.Tokenized.IsIdle (pieces : Source.Tokenized) : Prop :=
  ∀ token ∈ pieces.tokens,
    token.isCandidate = true → (Directive.ofComment token.text).isIdle = true

instance (pieces : Source.Tokenized) : Decidable pieces.IsIdle :=
  inferInstanceAs (Decidable (∀ token ∈ pieces.tokens,
    token.isCandidate = true → (Directive.ofComment token.text).isIdle = true))

namespace Pass

open Source (Token Tokenized concatText)

/-- A directive is text if it needs a payload and has none. -/
theorem ofCommand_eq_text_iff (command : Command) (payload : Option String) :
    Role.ofCommand command payload = .text ↔ command.needsPayload = true ∧ payload = none := by
  cases payload with
  | none => cases command <;> simp [Role.ofCommand, Command.needsPayload]
  | some payload => cases command <;> simp [Role.ofCommand]

/-- A token is text unless it is a comment that asks for something. -/
theorem role_eq_text_iff (token : Token) :
    role token = .text ↔
      (token.isCandidate = true → (Directive.ofComment token.text).isIdle = true) := by
  unfold role Directive.isIdle
  by_cases hc : token.isCandidate = true
  · rw [if_pos hc, forall_prop_of_true hc]
    cases (Directive.ofComment token.text).command? with
    | none => exact iff_of_true rfl rfl
    | some command =>
      show Role.ofCommand command _ = .text ↔ (command.needsPayload && _) = true
      rw [ofCommand_eq_text_iff, Bool.and_eq_true, Option.isNone_iff_eq_none]
  · rw [if_neg hc]
    exact iff_of_true rfl fun h => absurd h hc

/-- Where no text is suppressed, a token that is text only adds to the output. -/
theorem processToken_text_kept (env : Environment) (emit : State → String → Path → Step)
    {state : State} (hkept : state.suppressed = false) {token : Token} (h : role token = .text) :
    processToken env emit state token = ((state.reach token).append token.text, none) := by
  have hreach : (state.reach token).suppressed ≠ true := by
    rw [State.reach_suppressed, hkept]
    exact Bool.false_ne_true
  rw [processToken_text h, copy, if_neg hreach]

/-- Where no text is suppressed, tokens that are text are copied one after another; nothing but the
output and the line changes. -/
theorem processTokens_text (env : Environment) (emit : State → String → Path → Step)
    {state : State} (hkept : state.suppressed = false) {tokens : List Token}
    (h : ∀ token ∈ tokens, role token = .text) :
    ∃ location, processTokens env emit state tokens =
      ({ state with output := state.output ++ String.ofList (concatText tokens), location },
        none) := by
  -- The induction is over the tokens, for every state: copying suppresses no text.
  induction tokens generalizing state with
  | nil =>
    have houtput : state.output ++ String.ofList (concatText []) = state.output :=
      String.append_empty
    refine ⟨state.location, ?_⟩
    rw [processTokens, houtput]
  | cons token tokens ih =>
    obtain ⟨htoken, htokens⟩ := List.forall_mem_cons.1 h
    have hnext : ((state.reach token).append token.text).suppressed = false := hkept
    obtain ⟨location, hrest⟩ := ih hnext htokens
    have houtput : ((state.reach token).append token.text).output ++
        String.ofList (concatText tokens) =
        state.output ++ String.ofList (concatText (token :: tokens)) := by
      show state.output ++ token.text ++ _ = _
      rw [Source.ofList_concatText_cons, String.append_assoc]
    refine ⟨location, ?_⟩
    rw [processTokens, processToken_text_kept env emit hkept htoken]
    show processTokens env emit _ tokens = _
    rw [hrest, houtput]
    rfl

/-- Where a pass begins, no text is suppressed and no block is open. -/
theorem enter_conditions (env : Environment) (state : State) (path : Option Path) :
    (state.enter env path).suppressed = false ∧
      (state.enter env path).conditions.finish = none := by
  show (Conditional.start state.conditions.mode).suppressed = false ∧
    (Conditional.start state.conditions.mode).finish = none
  cases state.conditions.mode <;> exact ⟨rfl, rfl⟩

/-- A pass that has come to the end without failure, and without open blocks, gives its output. -/
theorem result_finish (path : Option Path) {state : State} (h : state.conditions.finish = none) :
    (finish path (state, none)).result = .ok state.output := by
  rw [finish, h]
  rfl

/-- A pass that gives a text has processed its source without failure, and no block is open
behind it. -/
theorem processPieces_of_result {env : Environment} {state : State} {text : String}
    {path : Option Path} {output : String} (h : (run env state text path).result = .ok output) :
    ∃ after, processPieces env (included env) (state.enter env path) (Source.tokenize text) =
        (after, none) ∧ after.output = output ∧ after.conditions.finish = none ∧
      (run env state text path).1 = { after with location := state.location } := by
  rw [run_eq_runPieces, runPieces_eq] at h ⊢
  generalize processPieces env (included env) (state.enter env path) (Source.tokenize text) = step
    at h ⊢
  obtain ⟨after, failure | e⟩ := step
  · refine ⟨after, rfl, ?_⟩
    simp only [finish] at h ⊢
    cases hfinish : after.conditions.finish with
    | none =>
      rw [hfinish] at h
      exact ⟨Except.ok.inj h, rfl, rfl⟩
    | some e =>
      rw [hfinish] at h
      cases h
  · cases h

/-- A pass over pieces that are text gives their text. -/
theorem runPieces_text (env : Environment) (state : State) {pieces : Tokenized}
    (path : Option Path) (h : ∀ token ∈ pieces.tokens, role token = .text) :
    (runPieces env state pieces path).result = .ok (String.ofList (concatText pieces.tokens)) := by
  obtain ⟨hkept, hfinish⟩ := enter_conditions env state path
  obtain ⟨location, htokens⟩ := processTokens_text env (included env) hkept h
  -- The warning of a failed scan is given between the tokens, and has no part in the output.
  have hpieces := processPieces_resembles_tokens env (included_resembles (fun _ => rfl) env)
    (state.enter env path) pieces
  rw [htokens] at hpieces
  have houtput := hpieces.1.output
  have hconditions := hpieces.1.conditions
  have hfailure := hpieces.failure_eq
  generalize hstep : processPieces env (included env) (state.enter env path) pieces = step
    at houtput hconditions hfailure
  obtain ⟨after, failure⟩ := step
  obtain rfl : failure = none := hfailure
  have hafter : after.conditions.finish = none := by
    rw [← hfinish]
    exact congrArg Conditional.finish hconditions
  calc (runPieces env state pieces path).result
      = (finish path ({ (processPieces env (included env) (state.enter env path) pieces).1 with
            location := state.location },
          (processPieces env (included env) (state.enter env path) pieces).2)).result := rfl
    _ = (finish path ({ after with location := state.location }, none)).result := by rw [hstep]
    _ = .ok after.output := result_finish path hafter
    _ = .ok ("" ++ String.ofList (concatText pieces.tokens)) := congrArg Except.ok houtput
    _ = .ok (String.ofList (concatText pieces.tokens)) := by rw [String.empty_append]

/-- Where no comment asks for anything, a pass gives back the source as it is: whatever the marks of
a scan, whether it ends or fails, and whatever the configuration and the passes before. The scan of
a text is no exception. -/
theorem run_identity (env : Environment) (state : State) (text : String) :
    (∀ (scan : Source.Scan) (path : Option Path), (Source.ofMarks text.toList scan).IsIdle →
      (runPieces env state (Source.ofMarks text.toList scan) path).result = .ok text) ∧
    ((Source.tokenize text).IsIdle → (processText env state text).result = .ok text) := by
  have hmarks : ∀ (scan : Source.Scan) (path : Option Path),
      (Source.ofMarks text.toList scan).IsIdle →
      (runPieces env state (Source.ofMarks text.toList scan) path).result = .ok text := by
    intro scan path hidle
    have htext : ∀ token ∈ (Source.ofMarks text.toList scan).tokens, role token = .text :=
      fun token htoken => (role_eq_text_iff token).2 (hidle token htoken)
    rw [runPieces_text env state path htext, Source.concatText_ofMarks, String.ofList_toList]
  constructor
  · exact hmarks
  · exact hmarks (Source.scan text.toList) none

/-- Marks that overlap and go back before the scan fails within a definition, and prose with line
ends of all kinds, directives without payload, and quotes that are never closed. -/
theorem run_identity_prose :
    (runPieces ⟨{ mode := .flat }, ⟨[], ⟨"/", []⟩, 0⟩⟩ (State.start .flat)
        (Source.ofMarks "#ifdef\r#define A 1".toList
          ⟨[⟨.comment, ⟨1, 0⟩, ⟨1, 6⟩⟩, ⟨.name, ⟨1, 1⟩, ⟨1, 0⟩⟩, ⟨.comment, ⟨1, 3⟩, ⟨1, 9⟩⟩],
            some .unindent⟩) none).result = .ok "#ifdef\r#define A 1" ∧
    (processText ⟨{ defines := [("it", "1")] }, ⟨[], ⟨"/", []⟩, 0⟩⟩ (State.start .scoped)
        "#if\r\nit isn't #IF\n#INCLUDE\n'''#endif").result =
      .ok "#if\r\nit isn't #IF\n#INCLUDE\n'''#endif" :=
  ⟨(run_identity _ _ "#ifdef\r#define A 1").1 _ none (by decide +kernel),
    (run_identity _ _ "#if\r\nit isn't #IF\n#INCLUDE\n'''#endif").2 (by decide +kernel)⟩

end Pass

end Hashmark
