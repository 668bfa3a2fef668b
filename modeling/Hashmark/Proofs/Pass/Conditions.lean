import Hashmark.Proofs.Conditional
import Hashmark.Proofs.Pass.Nesting
import Hashmark.Proofs.Pass.Presence

/-!
# Conditional directives fail closed

A directive that opens, divides or closes a block fails only where there is no block to divide or
close, and never in the flat model (`handleDirective_conditional`). A condition without a value
closes: the directive does what it does with `False`, and the text behind it is suppressed. And the
test that a further branch without an expression does not have is never asked for: the directive is
obeyed only where text is kept, and there a branch has been taken.

That last part holds because of how the frames of open blocks fit each other, and so it is about the
states that an engine can come to (`State.Reachable`). `Evolves.fit` carries the frames through
every elementary change of the state, and so through passes, directives and moments within a pass.
-/

namespace Hashmark

namespace Conditional

/-- Where no test is needed, the blocks turn alike whatever its result is. -/
theorem alternative_of_needsTest {blocks : Conditional} (h : blocks.needsTest = false)
    (one other : Bool) : blocks.alternative one = blocks.alternative other := by
  match blocks with
  | .flat suppressed =>
    obtain rfl : suppressed = false := h
    rfl
  | .scoped [] => rfl
  | .scoped (⟨parentActive, taken, active⟩ :: outer) =>
    have hdecided : (taken || !parentActive) = true := by
      simp only [needsTest] at h
      cases taken <;> cases parentActive <;> simp_all
    simp only [alternative, hdecided, if_true]

/-- Where text is kept, a branch has been taken, so that no further test is needed. -/
theorem Fit.needsTest {blocks : Conditional} (h : Fit blocks.frames)
    (hkept : blocks.suppressed = false) : blocks.needsTest = false := by
  match blocks with
  | .flat _ => exact hkept
  | .scoped [] => rfl
  | .scoped (frame :: outer) =>
    have hactive : frame.active = true := by simpa [suppressed] using hkept
    obtain ⟨-, htaken⟩ := h.active frame List.mem_cons_self hactive
    simp [Conditional.needsTest, htaken]

/-- A directive that turns scoped blocks is one of the calls of the model. -/
theorem Turns.exists_call {blocks after : Conditional} (h : blocks.Turns after) :
    ∃ call : Call Unit, (call.perform blocks).1 = after := by
  cases h with
  | openBlock active => exact ⟨.openBlock active, rfl⟩
  | @alternative _ test h =>
    refine ⟨.alternative (.ok test), ?_⟩
    cases hneeds : blocks.needsTest with
    | true => simp [Call.perform, hneeds, h, settle]
    | false =>
      -- The test is not made, so that its result may be taken for another one.
      rw [alternative_of_needsTest hneeds test false] at h
      simp [Call.perform, hneeds, h, settle]
  | otherwise h => exact ⟨.otherwise, by simp [Call.perform, h, settle]⟩
  | closeBlock h => exact ⟨.closeBlock, by simp [Call.perform, h, settle]⟩

/-- Frames that fit each other fit after a directive has turned them. -/
theorem Turns.fit {blocks after : Conditional} (h : blocks.Turns after) (hfit : Fit blocks.frames) :
    Fit after.frames := by
  match blocks with
  | .flat _ =>
    -- The flat model has no frames.
    have hmode := h.mode
    match after with
    | .flat _ => exact fit_nil
    | .scoped _ => cases hmode
  | .scoped frames =>
    obtain ⟨call, rfl⟩ := h.exists_call
    obtain ⟨after, hafter, hmoves⟩ := perform_moves call frames
    rw [hafter]
    exact hmoves.fit hfit

/-- Another branch begins unless there is no block. -/
theorem alternative_cases (blocks : Conditional) (test : Bool) :
    (∃ after, blocks.alternative test = .ok after) ∨
      blocks = .scoped [] ∧ blocks.alternative test = .error (.unmatched "#elif") := by
  match blocks with
  | .flat _ => exact .inl ⟨_, rfl⟩
  | .scoped [] => exact .inr ⟨rfl, rfl⟩
  | .scoped (frame :: outer) =>
    unfold alternative
    simp only
    split
    · exact .inl ⟨_, rfl⟩
    · exact .inl ⟨_, rfl⟩

/-- The last branch begins unless there is no block. -/
theorem otherwise_cases (blocks : Conditional) :
    (∃ after, blocks.otherwise = .ok after) ∨
      blocks = .scoped [] ∧ blocks.otherwise = .error (.unmatched "#else") := by
  match blocks with
  | .flat _ => exact .inl ⟨_, rfl⟩
  | .scoped [] => exact .inr ⟨rfl, rfl⟩
  | .scoped (frame :: outer) => exact .inl ⟨_, rfl⟩

/-- A block is closed unless there is none. -/
theorem closeBlock_cases (blocks : Conditional) :
    (∃ after, blocks.closeBlock = .ok after) ∨
      blocks = .scoped [] ∧ blocks.closeBlock = .error (.unmatched "#endif") := by
  match blocks with
  | .flat _ => exact .inl ⟨_, rfl⟩
  | .scoped [] => exact .inr ⟨rfl, rfl⟩
  | .scoped (frame :: outer) => exact .inl ⟨_, rfl⟩

/-- A block whose test is false is opened closed. -/
theorem openBlock_false_suppressed (blocks : Conditional) :
    (blocks.openBlock false).suppressed = true := by
  match blocks with
  | .flat _ => rfl
  | .scoped frames =>
    simp only [openBlock, suppressed, Bool.and_false, Bool.not_false]

/-- Another branch whose test is false is suppressed. -/
theorem alternative_false_suppressed {blocks after : Conditional}
    (h : blocks.alternative false = .ok after) : after.suppressed = true := by
  match blocks with
  | .flat suppressed =>
    obtain rfl := Except.ok.inj h
    simp only [Conditional.suppressed, Bool.not_false, Bool.or_true]
  | .scoped [] => cases h
  | .scoped (frame :: outer) =>
    unfold alternative at h
    simp only at h
    split at h
    · obtain rfl := Except.ok.inj h
      rfl
    · obtain rfl := Except.ok.inj h
      rfl

end Conditional

/-- Whether a command is about blocks. -/
def Command.isConditional : Command → Bool
  | .define => false
  | .include => false
  | _ => true

/-- Whether a command opens a block. -/
def Command.opens : Command → Bool
  | .whenTrue => true
  | .whenDefined => true
  | .whenUndefined => true
  | _ => false

namespace Pass

open Conditional (Fit)

/-- Frames that fit each other fit after every change of the state. -/
theorem Evolves.fit {before after : State} (h : Evolves before after)
    (hfit : Fit before.conditions.frames) : Fit after.conditions.frames := by
  induction h with
  | refl => exact hfit
  | tail _ hchange ih =>
    cases hchange with
    | move => exact ih
    | append => exact ih
    | define => exact ih
    | turn conditions h => exact h.fit ih

/-- From one moment of a pass to the next, the state changes by elementary changes. -/
theorem Moment.Advances.evolves {env : Environment} {m m' : Moment} (h : Advances env m m') :
    Evolves m.state m'.state := by
  cases h with
  | leave => exact .single (.move _ _ _ _ _)
  | warn => exact .single (.move _ _ _ _ _)
  | process => exact processToken_evolves env (fun _ _ _ => .refl) _ _
  | «repeat» => exact .single (.move _ _ _ _ _)
  | enter => exact .single (.move _ _ _ _ _)

/-- From one moment of a pass to a later one, the state changes by elementary changes. -/
theorem Moment.evolves_of_reaches {env : Environment} {m m' : Moment} (h : Reaches env m m') :
    Evolves m.state m'.state := by
  induction h with
  | refl => exact .refl
  | tail _ hnext ih => exact ih.trans (advances_of_next? hnext).evolves

/-- The states that an engine can come to, between its calls and within them. -/
inductive State.Reachable (config : Config) : State → Prop
  /-- The engine is new. -/
  | start : Reachable config (State.start config.mode)
  /-- A directive has been handled by itself. -/
  | directive {state : State} (h : Reachable config state) (files : FileTree) (comment : String) :
      Reachable config (handleDirective ⟨config, files⟩ state comment).1
  /-- A pass has come to a moment, which may be its last one. -/
  | moment {state : State} (h : Reachable config state) {files : FileTree} {path : Option Path}
      (hpath : Environment.Provides ⟨config, files⟩ path) (text : String) {m : Moment}
      (hm : Moment.Reaches ⟨config, files⟩
        (Moment.start ⟨config, files⟩ state (Source.tokenize text) path) m) :
      Reachable config m.state
  /-- A token has been reached, or macros are defined or forgotten from outside. -/
  | moved {state : State} (h : Reachable config state) (location : Location)
      (macros : MacroTable) : Reachable config { state with location, macros }

section Reachable

variable {config : Config} {state : State}

/-- In every state the blocks are those of the configured model, and their frames fit. -/
theorem State.Reachable.blocks (h : state.Reachable config) :
    state.conditions.mode = config.mode ∧ Fit state.conditions.frames := by
  induction h with
  | start =>
    refine ⟨Conditional.mode_start config.mode, ?_⟩
    cases config.mode <;> exact Conditional.fit_nil
  | @directive state h files comment ih =>
    have hevolves := handleDirective_evolves ⟨config, files⟩ state comment
    exact ⟨hevolves.mode.trans ih.1, hevolves.fit ih.2⟩
  | @moment state h files path hpath text m hm ih =>
    have hevolves := Moment.evolves_of_reaches hm
    -- A pass begins without blocks, whatever was open before it.
    have hreset : (state.enter ⟨config, files⟩ path).conditions =
        Conditional.start state.conditions.mode := rfl
    refine ⟨hevolves.mode.trans ?_, hevolves.fit ?_⟩
    · show (state.enter ⟨config, files⟩ path).conditions.mode = _
      rw [hreset, Conditional.mode_start, ih.1]
    · show Fit (state.enter ⟨config, files⟩ path).conditions.frames
      rw [hreset]
      cases state.conditions.mode <;> exact Conditional.fit_nil
  | moved h location macros ih => exact ih

/-- A pass leaves one of these states behind, whether it fails or not. -/
theorem State.Reachable.run (h : state.Reachable config) {files : FileTree} {path : Option Path}
    (hpath : Environment.Provides ⟨config, files⟩ path) (text : String) :
    (Pass.run ⟨config, files⟩ state text path).1.Reachable config := by
  obtain ⟨last, hlast, -, hrun⟩ := runPieces_eval ⟨config, files⟩ state (Source.tokenize text) hpath
  rw [run_eq_runPieces, ← hrun, finish_fst]
  exact h.moment hpath text (StateTransition.mem_eval.1 hlast).1

end Reachable

section Obey

variable {env : Environment} {emit : State → String → Path → Step} {state : State}
  {comment : String} {command : Command} {payload : Option String}

/-- Handling a comment with a command is obeying the command. -/
theorem handleComment_of_command
    (h : (Directive.ofComment comment).command? = some command) :
    handleComment env emit state comment =
      obey env emit state command (Directive.ofComment comment).payload := by
  unfold handleComment
  simp only [h]

/-- A change of the blocks that has a result or has no block to change succeeds, or fails for that
reason and leaves the state as it is. -/
theorem changeBlocks_cases {result : Except Imbalance Conditional} {directive : String}
    (h : (∃ after, result = .ok after) ∨
      state.conditions = .scoped [] ∧ result = .error (.unmatched directive)) :
    (∃ consumed, (changeBlocks state result).2 = .ok consumed) ∨
      state.conditions = .scoped [] ∧ changeBlocks state result =
        (state, .error (.at (.unbalanced (.unmatched directive)) state.location)) := by
  obtain ⟨after, rfl⟩ | ⟨hempty, rfl⟩ := h
  · exact .inl ⟨true, rfl⟩
  · exact .inr ⟨hempty, rfl⟩

/-- A command about blocks is obeyed, or there is no block for it. -/
theorem obey_conditional (h : command.isConditional = true) :
    (∃ consumed, (obey env emit state command payload).2 = .ok consumed) ∨
      state.conditions = .scoped [] ∧ obey env emit state command payload =
        (state, .error (.at (.unbalanced (.unmatched ("#" ++ command.name))) state.location)) := by
  cases command with
  | define => cases h
  | «include» => cases h
  | whenTrue => cases payload <;> exact .inl ⟨_, rfl⟩
  | whenDefined => cases payload <;> exact .inl ⟨_, rfl⟩
  | whenUndefined => cases payload <;> exact .inl ⟨_, rfl⟩
  | elseWhenTrue =>
    cases payload with
    | none =>
      simp only [obey]
      split
      · exact .inl ⟨false, rfl⟩
      · exact changeBlocks_cases (state.conditions.alternative_cases false)
    | some payload => exact changeBlocks_cases (state.conditions.alternative_cases _)
  | otherwise => exact changeBlocks_cases state.conditions.otherwise_cases
  | endBlock => exact changeBlocks_cases state.conditions.closeBlock_cases

/-- With a payload, a command that opens a block opens one within those that are open. -/
theorem obey_opens (hopens : command.opens = true) (hscoped : state.conditions.mode = .scoped)
    (payload : String) :
    ∃ frame, obey env emit state command (some payload) =
      ({ state with conditions := .scoped (frame :: state.conditions.frames) }, .ok true) := by
  have hopen : ∀ active, ∃ frame, openBlock state active =
      ({ state with conditions := .scoped (frame :: state.conditions.frames) }, .ok true) := by
    intro active
    unfold openBlock
    match hblocks : state.conditions, hscoped with
    | .scoped frames, _ => exact ⟨_, rfl⟩
  cases command with
  | whenTrue => exact hopen _
  | whenDefined => exact hopen _
  | whenUndefined => exact hopen _
  | define => cases hopens
  | «include» => cases hopens
  | elseWhenTrue => cases hopens
  | otherwise => cases hopens
  | endBlock => cases hopens

/-- A condition without a value is false. -/
theorem test_of_error {payload : String} {reason : Condition.ConditionError}
    (h : Condition.evaluate (lookup env state) (unquoteCondition (Text.strip payload)) =
      .error reason) : test env state payload = false := by
  have hvalue : Condition.isTruthy (lookup env state) (unquoteCondition (Text.strip payload)) =
      .error reason := by
    unfold Condition.isTruthy
    rw [h]
    rfl
  unfold test
  rw [hvalue]

/-- The constant for false is false. -/
theorem test_false (env : Environment) (state : State) : test env state "False" = false := by
  have hquote : unquoteCondition (Text.strip "False") = "False" := by decide +kernel
  have hparse : Condition.parse? (Text.strip "False").toList = some (.constant (.bool false)) := by
    cbv
  have hvalue : Condition.evaluate (lookup env state) "False" = .ok (.bool false) := by
    unfold Condition.evaluate
    rw [hparse]
    rfl
  unfold test Condition.isTruthy
  rw [hquote, hvalue]
  rfl

/-- A condition without a value opens a block that is closed. -/
theorem obey_whenTrue_of_error {payload : String} {reason : Condition.ConditionError}
    (h : Condition.evaluate (lookup env state) (unquoteCondition (Text.strip payload)) =
      .error reason) :
    obey env emit state .whenTrue (some payload) = openBlock state false ∧
      (obey env emit state .whenTrue (some payload)).1.suppressed = true := by
  have hopen : obey env emit state .whenTrue (some payload) = openBlock state false := by
    simp only [obey, test_of_error h]
  refine ⟨hopen, ?_⟩
  rw [hopen]
  exact state.conditions.openBlock_false_suppressed

/-- A condition without a value begins another branch that is closed. -/
theorem obey_elseWhenTrue_of_error {payload : String} {reason : Condition.ConditionError}
    (h : Condition.evaluate (lookup env state) (unquoteCondition (Text.strip payload)) =
      .error reason) :
    obey env emit state .elseWhenTrue (some payload) =
        changeBlocks state (state.conditions.alternative false) ∧
      ∀ consumed, (obey env emit state .elseWhenTrue (some payload)).2 = .ok consumed →
        (obey env emit state .elseWhenTrue (some payload)).1.suppressed = true := by
  have hbranch : obey env emit state .elseWhenTrue (some payload) =
      changeBlocks state (state.conditions.alternative false) := by
    simp only [obey, test_of_error h, Bool.and_false]
  refine ⟨hbranch, fun consumed hconsumed => ?_⟩
  rw [hbranch] at hconsumed ⊢
  cases hafter : state.conditions.alternative false with
  | error imbalance =>
    rw [hafter] at hconsumed
    cases hconsumed
  | ok after => exact Conditional.alternative_false_suppressed hafter

/-- A condition without a value does what the constant for false does. -/
theorem obey_of_error {payload : String} {reason : Condition.ConditionError}
    (hcommand : command = .whenTrue ∨ command = .elseWhenTrue)
    (h : Condition.evaluate (lookup env state) (unquoteCondition (Text.strip payload)) =
      .error reason) :
    obey env emit state command (some payload) =
      handleComment env emit state ("#" ++ command.name ++ " False") := by
  have htest : test env state payload = test env state "False" := by
    rw [test_of_error h, test_false]
  have hcomment : handleComment env emit state ("#" ++ command.name ++ " False") =
      obey env emit state command (some "False") := by
    obtain rfl | rfl := hcommand
    · exact handleComment_command .whenTrue (by decide +kernel) (by decide +kernel)
    · exact handleComment_command .elseWhenTrue (by decide +kernel) (by decide +kernel)
  rw [hcomment]
  obtain rfl | rfl := hcommand
  · simp only [obey, htest]
  · simp only [obey, htest]

/-- Where text is suppressed, another branch without an expression is kept as a comment. -/
theorem obey_elseWhenTrue_suppressed (h : state.suppressed = true) :
    obey env emit state .elseWhenTrue none = (state, .ok false) := by
  simp only [obey, h, if_true, keep]

/-- Where text is kept, another branch without an expression turns the blocks, and would do so in
the same way with any test. -/
theorem obey_elseWhenTrue_kept (h : state.suppressed = false)
    (hneeds : state.conditions.needsTest = false) (holds : Bool) :
    obey env emit state .elseWhenTrue none =
      changeBlocks state (state.conditions.alternative holds) := by
  rw [Conditional.alternative_of_needsTest hneeds holds false]
  simp only [obey, h, Bool.false_eq_true, if_false]

end Obey

/-- In every state that an engine can come to, in either model, a comment that is a directive about
blocks is handled in one way or another:

* it is consumed or kept as a comment, or there is no open block for it, and then it fails for that
  and leaves the state as it is; in the flat model it does not fail;
* with a payload, a directive that opens a block opens exactly one in the scoped model;
* an expression without a value, because it cannot be read or computed, does what `False` does: it
  opens a block, or begins another branch, as a false test does, and the text behind it is
  suppressed;
* a further branch without an expression asks for no test: while text is suppressed it is kept as a
  comment, and otherwise no test is needed, so that the blocks turn whatever its result would be,
  and one that would fail is not made. -/
theorem handleDirective_conditional {env : Environment} {state : State}
    (hstate : state.Reachable env.config) {comment : String} {command : Command}
    (hcommand : (Directive.ofComment comment).command? = some command)
    (hconditional : command.isConditional = true) :
    ((∃ consumed, (handleDirective env state comment).2 = .ok consumed) ∨
      env.config.mode = .scoped ∧ state.conditions = .scoped [] ∧
        handleDirective env state comment = (state, .error
          (.at (.unbalanced (.unmatched ("#" ++ command.name))) state.location))) ∧
    (∀ payload, (Directive.ofComment comment).payload = some payload → command.opens = true →
      env.config.mode = .scoped →
        ∃ frame, handleDirective env state comment =
          ({ state with conditions := .scoped (frame :: state.conditions.frames) }, .ok true)) ∧
    (∀ payload reason, (Directive.ofComment comment).payload = some payload →
      command = .whenTrue ∨ command = .elseWhenTrue →
      Condition.evaluate (lookup env state) (unquoteCondition (Text.strip payload)) =
        .error reason →
      handleDirective env state comment =
        handleDirective env state ("#" ++ command.name ++ " False")) ∧
    (∀ payload reason, (Directive.ofComment comment).payload = some payload →
      Condition.evaluate (lookup env state) (unquoteCondition (Text.strip payload)) =
        .error reason →
      (command = .whenTrue → handleDirective env state comment = openBlock state false ∧
        (handleDirective env state comment).1.suppressed = true) ∧
      (command = .elseWhenTrue →
        handleDirective env state comment =
          changeBlocks state (state.conditions.alternative false) ∧
        ∀ consumed, (handleDirective env state comment).2 = .ok consumed →
          (handleDirective env state comment).1.suppressed = true)) ∧
    ((Directive.ofComment comment).payload = none → command = .elseWhenTrue →
      (state.suppressed = true → handleDirective env state comment = (state, .ok false)) ∧
      (state.suppressed = false →
        state.conditions.needsTest = false ∧
        (∀ holds, handleDirective env state comment =
          changeBlocks state (state.conditions.alternative holds)) ∧
        ((Conditional.Call.alternative (.error ())).perform state.conditions).2 ≠
          some (.test ()))) := by
  obtain ⟨hmode, hfit⟩ := hstate.blocks
  have hhandle : handleDirective env state comment = obey env _ state command
      (Directive.ofComment comment).payload := handleComment_of_command hcommand
  refine ⟨?_, fun payload hpayload hopens hscoped => ?_,
    fun payload reason hpayload hasks hreason => ?_,
    fun payload reason hpayload hreason => ⟨?_, ?_⟩, fun hpayload hbranch => ⟨?_, ?_⟩⟩
  · rw [hhandle]
    refine (obey_conditional hconditional).imp_right fun ⟨hempty, herror⟩ => ⟨?_, hempty, herror⟩
    rw [← hmode, hempty]
    rfl
  · rw [hhandle, hpayload]
    exact obey_opens hopens (hmode.trans hscoped) payload
  · rw [hhandle, hpayload]
    exact obey_of_error hasks hreason
  · rintro rfl
    rw [hhandle, hpayload]
    exact obey_whenTrue_of_error hreason
  · rintro rfl
    rw [hhandle, hpayload]
    exact obey_elseWhenTrue_of_error hreason
  · intro hsuppressed
    subst hbranch
    rw [hhandle, hpayload]
    exact obey_elseWhenTrue_suppressed hsuppressed
  · intro hkept
    subst hbranch
    -- Where text is kept, the innermost block has had a branch that was.
    have hneeds := hfit.needsTest hkept
    refine ⟨hneeds, fun holds => ?_, ?_⟩
    · rw [hhandle, hpayload]
      exact obey_elseWhenTrue_kept hkept hneeds holds
    · -- A failing test in the place of the missing one would not be made.
      simp only [Conditional.Call.perform, hneeds, Bool.false_eq_true, if_false]
      intro htest
      cases halternative : state.conditions.alternative false with
      | ok after =>
        rw [halternative] at htest
        cases htest
      | error imbalance =>
        rw [halternative] at htest
        cases htest

/-- A condition that cannot be read opens a closed block, and behind a branch that is kept a further
one without an expression turns the block. -/
theorem handleDirective_conditional_branch :
    let env : Environment := ⟨{ mode := .scoped }, ⟨[], ⟨"/", []⟩, 0⟩⟩
    let state := (handleDirective env (State.start .scoped) "#if 1").1
    state.Reachable env.config ∧
      ((Directive.ofComment "#if )").command? = some .whenTrue ∧
        handleDirective env state "#if )" = openBlock state false) ∧
      (Directive.ofComment "#elif").command? = some .elseWhenTrue ∧
      Command.isConditional .elseWhenTrue = true ∧ state.suppressed = false ∧
      state.conditions.needsTest = false ∧
      handleDirective env state "#elif" =
        changeBlocks state (state.conditions.alternative true) := by
  intro env state
  have hstate : state.Reachable env.config := State.Reachable.start.directive _ _
  have hopening : (Directive.ofComment "#if )").command? = some .whenTrue := by decide +kernel
  have hreason : Condition.evaluate (lookup env state) (unquoteCondition (Text.strip ")")) =
      .error (.invalid ")") := by
    have hquote : unquoteCondition (Text.strip ")") = ")" := by decide +kernel
    have hparse : Condition.parse? (Text.strip ")").toList = none := by cbv
    rw [hquote, Condition.evaluate, hparse]
  obtain ⟨-, -, -, hfaulty, -⟩ := handleDirective_conditional hstate hopening rfl
  have hclosed := ((hfaulty _ _ (by decide +kernel) hreason).1 rfl).1
  have hcommand : (Directive.ofComment "#elif").command? = some .elseWhenTrue := by decide +kernel
  have hkept : state.suppressed = false := by decide +kernel
  obtain ⟨-, -, -, -, hbranch⟩ := handleDirective_conditional hstate hcommand rfl
  obtain ⟨hneeds, hturns, -⟩ := (hbranch (by decide +kernel) rfl).2 hkept
  exact ⟨hstate, ⟨hopening, hclosed⟩, hcommand, rfl, hkept, hneeds, hturns true⟩

end Pass

end Hashmark
