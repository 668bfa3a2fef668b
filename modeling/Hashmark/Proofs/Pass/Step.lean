import Hashmark.Pass.Run

/-!
# What a token does to a pass

A token plays one of six roles in a pass (`role`). It may open a block, begin another branch of one,
or end one; it may define a macro or include a file; and everything else, ordinary comments among
it, is text. For each role one lemma says what processing such a token does, so that proofs about
passes need not look at how directives are written.

The lemmas about branches and endings are those of scoped blocks, whose open blocks are a list of
frames. Definitions, includes and text leave the frames alone, and while text is suppressed they do
nothing but move the place that the pass has reached.
-/

namespace Hashmark.Pass

open Source (Token Tokenized)

/-- What decides whether a branch of a block is kept. -/
inductive BranchTest where
  /-- An expression has to be true. -/
  | expression (payload : String)
  /-- A name has to be defined. -/
  | defined (name : String)
  /-- A name has to be undefined. -/
  | undefined (name : String)
  /-- The branch is kept if none before was. -/
  | always
  /-- The branch has no expression and is not kept. -/
  | never
  deriving DecidableEq, Repr

/-- Whether a test is true in a state. -/
def BranchTest.holds (env : Environment) (state : State) : BranchTest → Bool
  | .expression payload => test env state payload
  | .defined name => isDefined env state name
  | .undefined name => !isDefined env state name
  | .always => true
  | .never => false

/-- The directive that begins another branch with a test. -/
def BranchTest.directive : BranchTest → String
  | .always => "#else"
  | _ => "#elif"

/-- The part that a token plays in a pass. -/
inductive Role where
  /-- It is copied. -/
  | text
  /-- It defines a macro. -/
  | definition (payload : String)
  /-- It includes a file. -/
  | inclusion (payload : String)
  /-- It opens a block, whose first branch has this test. -/
  | opening (test : BranchTest)
  /-- It begins another branch with this test. -/
  | branch (test : BranchTest)
  /-- It ends a block. -/
  | ending
  deriving DecidableEq, Repr

/-- The role of a directive. Without a payload, one that needs it is text. -/
def Role.ofCommand : Command → Option String → Role
  | .define, some payload => .definition payload
  | .include, some payload => .inclusion payload
  | .whenTrue, some payload => .opening (.expression payload)
  | .whenDefined, some payload => .opening (.defined (Text.strip payload))
  | .whenUndefined, some payload => .opening (.undefined (Text.strip payload))
  | .elseWhenTrue, some payload => .branch (.expression payload)
  | .elseWhenTrue, none => .branch .never
  | .otherwise, _ => .branch .always
  | .endBlock, _ => .ending
  | _, none => .text

/-- The role of a token. -/
def role (token : Token) : Role :=
  if token.isCandidate then
    match (Directive.ofComment token.text).command? with
    | none => .text
    | some command => Role.ofCommand command (Directive.ofComment token.text).payload
  else .text

/-- The state in which the line of a token is reached. -/
def State.reach (state : State) (token : Token) : State :=
  { state with location := { state.location with line := token.line } }

/-- What obeying a directive amounts to where the directive stands: one that is not consumed is
copied like any other token. -/
def settle (text : String) : Handled → Step
  | (state, .ok true) => (state, none)
  | (state, .ok false) => (copy state text, none)
  | (state, .error e) => (state, some e)

/-- The frame of a block after the beginning of another branch. -/
def nextFrame (frame : Frame) (test : BranchTest) (holds : Bool) : Frame :=
  match test with
  | .always =>
    { frame with active := frame.parentActive && !frame.taken, taken := true }
  | _ =>
    if frame.taken || !frame.parentActive then { frame with active := false }
    else { frame with active := holds, taken := holds }

/-- What a name leads to depends on the macros of a state and on nothing else of it. -/
theorem lookup_congr {env : Environment} {s t : State} (h : s.macros = t.macros) :
    lookup env s = lookup env t := by
  funext name
  simp only [lookup, h]

/-- Whether a condition is true depends on the macros of a state and on nothing else of it. -/
theorem test_congr {env : Environment} {s t : State} (h : s.macros = t.macros) (payload : String) :
    test env s payload = test env t payload := by
  unfold test
  rw [lookup_congr h]

/-- Whether a name is defined depends on the macros of a state and on nothing else of it. -/
theorem isDefined_congr {env : Environment} {s t : State} (h : s.macros = t.macros)
    (name : String) : isDefined env s name = isDefined env t name := by
  unfold isDefined
  rw [h]

/-- A test depends on which conditions are true and which names are defined, and on nothing
else. -/
theorem BranchTest.holds_of_eq {env env' : Environment} {s t : State}
    (htest : ∀ payload, test env s payload = test env' t payload)
    (hdefined : ∀ name, isDefined env s name = isDefined env' t name) (b : BranchTest) :
    b.holds env s = b.holds env' t := by
  cases b with
  | expression payload => exact htest payload
  | defined name => exact hdefined name
  | undefined name => rw [holds, holds, hdefined]
  | always => rfl
  | never => rfl

/-- A test depends on the macros of a state and on nothing else of it. -/
theorem BranchTest.holds_congr {env : Environment} {s t : State} (h : s.macros = t.macros)
    (b : BranchTest) : b.holds env s = b.holds env t :=
  b.holds_of_eq (test_congr h) (isDefined_congr h)

/-- A test has the same result before and after the line of a token is reached. -/
@[simp]
theorem BranchTest.holds_reach (env : Environment) (state : State) (token : Token)
    (b : BranchTest) : b.holds env (state.reach token) = b.holds env state := by
  have h : (state.reach token).macros = state.macros := rfl
  rw [b.holds_congr h]

/-- Reaching a line leaves the blocks as they are. -/
@[simp]
theorem State.reach_conditions (state : State) (token : Token) :
    (state.reach token).conditions = state.conditions := rfl

/-- Reaching a line suppresses no text that was not suppressed. -/
@[simp]
theorem State.reach_suppressed (state : State) (token : Token) :
    (state.reach token).suppressed = state.suppressed := rfl

/-- While text is suppressed a token is not copied. -/
theorem copy_of_suppressed {state : State} (h : state.suppressed = true) (text : String) :
    copy state text = state := by
  rw [copy, if_pos h]

section Token

variable {env : Environment} {emit : State → String → Path → Step} {state : State} {token : Token}
  {b : BranchTest}

/-- A token that is more than text is a comment with a command. -/
theorem command_of_role {r : Role} (h : role token = r) (hr : r ≠ .text) :
    token.isCandidate = true ∧ ∃ command,
      (Directive.ofComment token.text).command? = some command ∧
        Role.ofCommand command (Directive.ofComment token.text).payload = r := by
  subst h
  unfold role at hr ⊢
  by_cases hc : token.isCandidate = true
  · rw [if_pos hc] at hr ⊢
    cases hk : (Directive.ofComment token.text).command? with
    | none => rw [hk] at hr; exact absurd rfl hr
    | some command => exact ⟨hc, command, rfl, rfl⟩
  · rw [if_neg hc] at hr
    exact absurd rfl hr

/-- Processing a comment with a command is obeying the command where the comment stands. -/
theorem processToken_of_command {command : Command} (hc : token.isCandidate = true)
    (hk : (Directive.ofComment token.text).command? = some command) :
    processToken env emit state token = settle token.text
      (obey env emit (state.reach token) command (Directive.ofComment token.text).payload) := by
  unfold processToken handleComment
  rw [if_pos hc]
  simp only [hk]
  rfl

/-- Obeying a directive that is text leaves it as it is, or does nothing while text is
suppressed. -/
theorem settle_obey_text {command : Command} {payload : Option String} (text : String)
    (h : Role.ofCommand command payload = .text) :
    settle text (obey env emit state command payload) = (copy state text, none) := by
  cases payload with
  | some payload => cases command <;> simp [Role.ofCommand] at h
  | none =>
    cases hs : state.suppressed <;> cases command <;>
      simp [Role.ofCommand] at h <;> simp [obey, hs, keep, settle, copy]

/-- Text is copied. -/
theorem processToken_text (h : role token = .text) :
    processToken env emit state token = (copy (state.reach token) token.text, none) := by
  by_cases hc : token.isCandidate = true
  · cases hk : (Directive.ofComment token.text).command? with
    | none =>
      unfold processToken handleComment
      rw [if_pos hc]
      simp only [hk]
      rfl
    | some command =>
      rw [processToken_of_command hc hk]
      apply settle_obey_text
      rw [← h, role, if_pos hc, hk]
  · unfold processToken
    rw [if_neg hc]
    rfl

/-- A definition is made unless text is suppressed. -/
theorem processToken_definition {payload : String} (h : role token = .definition payload) :
    processToken env emit state token =
      if state.suppressed then (state.reach token, none)
      else settle token.text (defineMacro (state.reach token) payload) := by
  obtain ⟨hc, command, hk, hr⟩ := command_of_role h Role.noConfusion
  rw [processToken_of_command hc hk]
  generalize (Directive.ofComment token.text).payload = p at hr
  obtain ⟨rfl, rfl⟩ : command = .define ∧ p = some payload := by
    cases command <;> cases p <;> simp_all [Role.ofCommand]
  cases hs : state.suppressed <;> simp [obey, hs, settle]

/-- A file is included unless text is suppressed. -/
theorem processToken_inclusion {payload : String} (h : role token = .inclusion payload) :
    processToken env emit state token =
      if state.suppressed then (state.reach token, none)
      else settle token.text (includeFile env emit (state.reach token) payload) := by
  obtain ⟨hc, command, hk, hr⟩ := command_of_role h Role.noConfusion
  rw [processToken_of_command hc hk]
  generalize (Directive.ofComment token.text).payload = p at hr
  obtain ⟨rfl, rfl⟩ : command = .include ∧ p = some payload := by
    cases command <;> cases p <;> simp_all [Role.ofCommand]
  cases hs : state.suppressed <;> simp [obey, hs, settle]

/-- A directive that opens a block opens it, with its test as it stands. -/
theorem processToken_opening (h : role token = .opening b) :
    processToken env emit state token =
      ({ state.reach token with conditions := state.conditions.openBlock (b.holds env state) },
        none) := by
  obtain ⟨hc, command, hk, hr⟩ := command_of_role h Role.noConfusion
  rw [processToken_of_command hc hk, ← BranchTest.holds_reach env state token]
  generalize (Directive.ofComment token.text).payload = payload at hr
  unfold Role.ofCommand at hr
  split at hr
  case h_3 payload =>
    obtain rfl : .expression payload = b := by simpa using hr
    rfl
  case h_4 payload =>
    obtain rfl : .defined (Text.strip payload) = b := by simpa using hr
    rfl
  case h_5 payload =>
    obtain rfl : .undefined (Text.strip payload) = b := by simpa using hr
    rfl
  all_goals simp at hr

/-- Obeying a directive that begins another branch changes the frame of the innermost block. -/
theorem settle_obey_branch {command : Command} {payload : Option String} {frame : Frame}
    {frames : List Frame} (text : String) (h : Role.ofCommand command payload = .branch b)
    (hs : state.conditions = .scoped (frame :: frames)) :
    settle text (obey env emit state command payload) =
      ({ state with conditions := .scoped (nextFrame frame b (b.holds env state) :: frames) },
        none) := by
  unfold Role.ofCommand at h
  split at h
  case h_6 payload =>
    -- The test is not made where it does not matter, but the frame is the same either way.
    obtain rfl : .expression payload = b := by simpa using h
    simp only [obey, hs, BranchTest.holds, nextFrame, Conditional.alternative,
      Conditional.needsTest]
    cases frame.taken <;> cases frame.parentActive <;> simp [changeBlocks, settle]
  case h_7 =>
    -- Without an expression the directive is an ordinary comment while text is suppressed.
    obtain rfl : .never = b := by simpa using h
    obtain ⟨parentActive, taken, active⟩ := frame
    cases active with
    | true =>
      simp only [obey, State.suppressed, hs, Conditional.suppressed, Conditional.alternative,
        nextFrame, BranchTest.holds]
      cases taken <;> cases parentActive <;> simp [changeBlocks, settle]
    | false =>
      have hsup : state.suppressed = true := by rw [State.suppressed, hs]; rfl
      have hframe : nextFrame ⟨parentActive, taken, false⟩ .never false =
          ⟨parentActive, taken, false⟩ := by
        cases taken <;> cases parentActive <;> rfl
      rw [BranchTest.holds, hframe, ← hs]
      simp only [obey, hsup, keep, settle, copy, if_true]
  case h_8 =>
    obtain rfl : .always = b := by simpa using h
    simp only [obey, hs, nextFrame, Conditional.otherwise, changeBlocks, settle]
  all_goals simp at h

/-- A directive that begins another branch of a scoped block changes the frame of the block. -/
theorem processToken_branch (h : role token = .branch b) {frame : Frame} {frames : List Frame}
    (hs : state.conditions = .scoped (frame :: frames)) :
    processToken env emit state token =
      ({ state.reach token with
          conditions := .scoped (nextFrame frame b (b.holds env state) :: frames) }, none) := by
  obtain ⟨hc, command, hk, hr⟩ := command_of_role h Role.noConfusion
  rw [processToken_of_command hc hk, ← BranchTest.holds_reach env state token]
  exact settle_obey_branch token.text hr hs

/-- A directive that begins another branch fails where no scoped block is open. -/
theorem processToken_branch_unmatched (h : role token = .branch b)
    (hs : state.conditions = .scoped []) :
    processToken env emit state token =
      (state.reach token, some (.at (.unbalanced (.unmatched b.directive))
        (state.reach token).location)) := by
  obtain ⟨hc, command, hk, hr⟩ := command_of_role h Role.noConfusion
  rw [processToken_of_command hc hk]
  have hs' : (state.reach token).conditions = .scoped [] := hs
  generalize state.reach token = state at hs' ⊢
  generalize (Directive.ofComment token.text).payload = payload at hr
  unfold Role.ofCommand at hr
  split at hr
  case h_6 payload =>
    obtain rfl : .expression payload = b := by simpa using hr
    simp only [obey, hs', Conditional.alternative, changeBlocks, settle, BranchTest.directive]
  case h_7 =>
    obtain rfl : .never = b := by simpa using hr
    simp [obey, State.suppressed, hs', Conditional.suppressed, Conditional.alternative,
      changeBlocks, settle, BranchTest.directive]
  case h_8 =>
    obtain rfl : .always = b := by simpa using hr
    simp only [obey, hs', Conditional.otherwise, changeBlocks, settle, BranchTest.directive]
  all_goals simp at hr

/-- The end of a block is obeyed as such. -/
theorem processToken_ending (h : role token = .ending) :
    processToken env emit state token =
      settle token.text (changeBlocks (state.reach token) state.conditions.closeBlock) := by
  obtain ⟨hc, command, hk, hr⟩ := command_of_role h Role.noConfusion
  rw [processToken_of_command hc hk]
  obtain rfl : command = .endBlock := by
    generalize (Directive.ofComment token.text).payload = p at hr
    cases command <;> cases p <;> simp_all [Role.ofCommand]
  rfl

/-- The end of a scoped block leaves the blocks around it open. -/
theorem processToken_ending_matched (h : role token = .ending) {frame : Frame}
    {frames : List Frame} (hs : state.conditions = .scoped (frame :: frames)) :
    processToken env emit state token =
      ({ state.reach token with conditions := .scoped frames }, none) := by
  rw [processToken_ending h, hs]
  rfl

/-- The end of a block fails where no scoped block is open. -/
theorem processToken_ending_unmatched (h : role token = .ending)
    (hs : state.conditions = .scoped []) :
    processToken env emit state token =
      (state.reach token, some (.at (.unbalanced (.unmatched "#endif"))
        (state.reach token).location)) := by
  rw [processToken_ending h, hs]
  rfl

/-- Processing tokens one after another is processing the first ones and then, unless that fails,
the others. -/
theorem processTokens_append (first second : List Token) :
    processTokens env emit state (first ++ second) =
      match processTokens env emit state first with
      | (s, none) => processTokens env emit s second
      | (s, some e) => (s, some e) := by
  induction first generalizing state with
  | nil => rfl
  | cons token tokens ih =>
    rw [List.cons_append, processTokens, processTokens]
    match processToken env emit state token with
    | (s, none) => exact ih
    | (s, some e) => rfl

end Token

/-- The state with these warnings given. -/
def State.warned (state : State) (warnings : List String) : State :=
  { state with warnings }

section Warned

variable {env : Environment} {emit : State → String → Path → Step}

/-- A token is copied whatever warnings were given. -/
theorem copy_warned (state : State) (warnings : List String) (text : String) :
    copy (state.warned warnings) text = (copy state text).warned warnings := by
  have hs : (state.warned warnings).suppressed = state.suppressed := rfl
  unfold copy
  rw [hs]
  split <;> rfl

/-- What obeying a directive amounts to does not depend on the warnings that were given. -/
theorem settle_warned (text : String) (warnings : List String) (handled : Handled) :
    settle text (handled.1.warned warnings, handled.2) =
      ((settle text handled).1.warned warnings, (settle text handled).2) := by
  obtain ⟨state, result⟩ := handled
  match result with
  | .ok true => rfl
  | .ok false => rw [settle, settle, copy_warned]
  | .error e => rfl

/-- A macro is defined whatever warnings were given. -/
theorem defineMacro_warned (state : State) (warnings : List String) (payload : String) :
    defineMacro (state.warned warnings) payload =
      ((defineMacro state payload).1.warned warnings, (defineMacro state payload).2) := by
  simp only [defineMacro, State.warned]
  generalize MacroTable.define _ _ _ _ = result
  cases result <;> rfl

/-- A file is included as it is whatever warnings were given. -/
theorem includeFile_warned (hrec : env.config.recursiveIncludes = false) (state : State)
    (warnings : List String) (payload : String) :
    includeFile env emit (state.warned warnings) payload =
      ((includeFile env emit state payload).1.warned warnings,
        (includeFile env emit state payload).2) := by
  have hl : (state.warned warnings).location = state.location := rfl
  have ht : includeTarget env (state.warned warnings) = includeTarget env state := rfl
  unfold includeFile
  simp only [hrec, hl, ht]
  generalize readInclude env state.location _ = result
  cases result <;> rfl

/-- A token is processed alike whatever warnings were given. -/
theorem processToken_warned (emit : State → String → Path → Step)
    (hrec : env.config.recursiveIncludes = false) {state : State} {frames : List Frame}
    (hs : state.conditions = .scoped frames) (warnings : List String) (token : Token) :
    processToken env emit (state.warned warnings) token =
      ((processToken env emit state token).1.warned warnings,
        (processToken env emit state token).2) := by
  have hw : (state.warned warnings).conditions = .scoped frames := hs
  have hsuppressed : (state.warned warnings).suppressed = state.suppressed := rfl
  have hreach : (state.warned warnings).reach token = (state.reach token).warned warnings := rfl
  have hm : (state.warned warnings).macros = state.macros := rfl
  cases hr : role token with
  | text => rw [processToken_text hr, processToken_text hr, hreach, copy_warned]
  | definition payload =>
    rw [processToken_definition hr, processToken_definition hr, hreach, hsuppressed,
      defineMacro_warned, settle_warned]
    split <;> rfl
  | inclusion payload =>
    rw [processToken_inclusion hr, processToken_inclusion hr, hreach, hsuppressed,
      includeFile_warned hrec, settle_warned]
    generalize settle token.text _ = step
    split <;> rfl
  | opening b =>
    rw [processToken_opening hr, processToken_opening hr, b.holds_congr hm]
    rfl
  | branch b =>
    cases frames with
    | nil =>
      rw [processToken_branch_unmatched hr hs, processToken_branch_unmatched hr hw]
      rfl
    | cons frame frames =>
      rw [processToken_branch hr hs, processToken_branch hr hw, b.holds_congr hm]
      rfl
  | ending =>
    cases frames with
    | nil =>
      rw [processToken_ending_unmatched hr hs, processToken_ending_unmatched hr hw]
      rfl
    | cons frame frames =>
      rw [processToken_ending_matched hr hs, processToken_ending_matched hr hw]
      rfl

end Warned

/-- A pass over the pieces of a source, whatever they are. -/
def runPieces (env : Environment) (state : State) (pieces : Tokenized) (path : Option Path) :
    Step :=
  let start := begin env.config state path
  let inner := fun state text path => emit env (env.files.nodes.length + 1) state text (some path)
  let (after, failure) :=
    processPieces env inner { start with location := ⟨path, start.location.line⟩ } pieces
  finish path ({ after with location := start.location }, failure)

/-- A pass over a text is the pass over the pieces that its tokens are. -/
theorem run_eq_runPieces (env : Environment) (state : State) (text : String)
    (path : Option Path) :
    run env state text path = runPieces env state (Source.tokenize text) path := rfl

end Hashmark.Pass
