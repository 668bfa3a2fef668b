import Hashmark.Proofs.Pass.Balance

/-!
# Blocks as trees

Tokens whose blocks match are those of a tree: a `Program` is a sequence of plain tokens and blocks,
and each block has a program for each of its branches (`exists_program_iff`). `Program.exec` says
what such a tree means. Plain tokens are performed in order. Of the branches of a block the first
whose test is true is executed, its test being made where its directive stands; nothing is done for
the others, nor for the directives.

A scoped pass does the same without the tree, with a frame for each open block. Two lemmas carry
this. What is suppressed only moves the line that is reached (`Program.skip`, `Branches.skip`), and
what is not suppressed is executed, whatever blocks are open around it (`Program.simulates`,
`Branches.simulates`).
-/

namespace Hashmark.Pass

open Source (Token Tokenized)

/-- Whether a token of this role has no part in the structure of blocks. -/
def Role.isPlain : Role → Bool
  | .text | .definition _ | .inclusion _ => true
  | .opening _ | .branch _ | .ending => false

mutual

/-- Tokens whose blocks match. -/
inductive Program where
  /-- No token. -/
  | done
  /-- A token outside any block, and what follows it. -/
  | plain (token : Token) (role_plain : (role token).isPlain = true) (rest : Program)
  /-- A block, with the test and the tokens of its first branch, its other branches, and its end,
  and what follows it. -/
  | block (opening : Token) (test : BranchTest) (role_opening : role opening = .opening test)
      (body : Program) (branches : Branches)
      (ending : Token) (role_ending : role ending = .ending) (rest : Program)

/-- The branches of a block behind its first. -/
inductive Branches where
  /-- No further branch. -/
  | none
  /-- A branch with its test and its tokens, and the branches behind it. -/
  | branch (directive : Token) (test : BranchTest) (role_branch : role directive = .branch test)
      (body : Program) (rest : Branches)

end

mutual

/-- The tokens of a program, those of its directives among them. -/
def Program.tokens : Program → List Token
  | .done => []
  | .plain token _ rest => token :: rest.tokens
  | .block opening _ _ body branches ending _ rest =>
    opening :: (body.tokens ++ (branches.tokens ++ ending :: rest.tokens))

/-- The tokens of branches, those of their directives among them. -/
def Branches.tokens : Branches → List Token
  | .none => []
  | .branch directive _ _ body rest => directive :: (body.tokens ++ rest.tokens)

end

/-- Puts the text of an included file in the place of the include, or fails as reading it does. -/
def insertText (state : State) (target : Path) : Except Failure String → Step
  | .error e => ({ state with reads := target :: state.reads }, some e)
  | .ok text =>
    ({ state with reads := target :: state.reads, output := state.output ++ text }, none)

/-- Puts the text of the file that an include names in its place. -/
def insertFile (env : Environment) (state : State) (payload : String) : Step :=
  insertText state (includeTarget env state (stripWrapping (Text.strip payload)))
    (readInclude env state.location
      (includeTarget env state (stripWrapping (Text.strip payload))))

/-- Defines the macro that a definition names. -/
def enterMacro (state : State) (payload : String) : Step :=
  match defineMacro state payload with
  | (state, .ok _) => (state, none)
  | (state, .error e) => (state, some e)

/-- What a token outside of blocks does: a macro is defined, a file is inserted, and all else is
copied. -/
def perform (env : Environment) (state : State) (token : Token) : Step :=
  match role token with
  | .definition payload => enterMacro (state.reach token) payload
  | .inclusion payload => insertFile env (state.reach token) payload
  | _ => ((state.reach token).append token.text, none)

mutual

/-- What a program does to a state, up to the first failure. -/
def Program.exec (env : Environment) (state : State) : Program → Step
  | .done => (state, none)
  | .plain token _ rest =>
    match perform env state token with
    | (state, none) => rest.exec env state
    | (state, some e) => (state, some e)
  | .block opening test _ body branches ending _ rest =>
    let state := state.reach opening
    match if test.holds env state then body.exec env state else branches.exec env state with
    | (state, none) => rest.exec env (state.reach ending)
    | (state, some e) => (state, some e)

/-- What branches do to a state if none before them was executed: the first whose test is true is
executed. -/
def Branches.exec (env : Environment) (state : State) : Branches → Step
  | .none => (state, none)
  | .branch directive test _ body rest =>
    let state := state.reach directive
    if test.holds env state then body.exec env state else rest.exec env state

end

/-- The state with these blocks open, in either model. -/
def State.withBlocks (state : State) (blocks : Conditional) : State :=
  { state with conditions := blocks }

/-- The state with these blocks open. -/
def State.within (state : State) (frames : List Frame) : State :=
  { state with conditions := .scoped frames }

/-- The state with this line reached. -/
def State.atLine (state : State) (line : Int) : State :=
  { state with location := { state.location with line } }

/-- The text that a pass has produced, the macros that it leaves, and its failure. -/
def Step.outcome (step : Step) : String × MacroTable × Option Failure :=
  (step.1.output, step.1.macros, step.2)

/-- The frame of a block that is opened where text is suppressed or not. -/
def openFrame (suppressed holds : Bool) : Frame :=
  ⟨!suppressed, !suppressed && holds, !suppressed && holds⟩

/-- Whether no branch of a block behind the present one is kept. -/
def isSpent (frame : Frame) : Bool :=
  frame.taken || !frame.parentActive

/-- A pass within these blocks does what executing a program does, and leaves the blocks open; the
blocks do not matter where both fail. -/
def Simulates (frames : List Frame) (pass : Step) : Step → Prop
  | (state, none) => pass = (state.within frames, none)
  | (state, some e) => ∃ frames', pass = (state.within frames', some e)

/-- A pass within these blocks and one more does what executing the branches of that block does. It
may have reached another line, that of a branch that is not executed. -/
def SimulatesBranches (frames : List Frame) (pass : Step) : Step → Prop
  | (state, none) => ∃ line frame, pass = ((state.atLine line).within (frame :: frames), none)
  | (state, some e) => ∃ frames', pass = (state.within frames', some e)

section Within

variable {env : Environment} {emit : State → String → Path → Step}

/-- The blocks that are open in a state within them. -/
@[simp]
theorem State.within_conditions (state : State) (frames : List Frame) :
    (state.within frames).conditions = .scoped frames := rfl

/-- Lines are reached alike whatever blocks are open. -/
@[simp]
theorem State.within_reach (state : State) (frames : List Frame) (token : Token) :
    (state.within frames).reach token = (state.reach token).within frames := rfl

/-- Reaching a line forgets the line before. -/
@[simp]
theorem State.atLine_reach (state : State) (line : Int) (token : Token) :
    (state.atLine line).reach token = state.reach token := rfl

/-- A test has the same result whatever blocks are open and whatever line is reached. -/
@[simp]
theorem BranchTest.holds_within (state : State) (frames : List Frame) (b : BranchTest) :
    b.holds env (state.within frames) = b.holds env state := by
  have h : (state.within frames).macros = state.macros := rfl
  rw [b.holds_congr h]

/-- A test has the same result whatever line is reached. -/
@[simp]
theorem BranchTest.holds_atLine (state : State) (line : Int) (b : BranchTest) :
    b.holds env (state.atLine line) = b.holds env state := by
  have h : (state.atLine line).macros = state.macros := rfl
  rw [b.holds_congr h]

/-- Without recursive includes, including a file where blocks are open is inserting its text. -/
theorem settle_includeFile (hrec : env.config.recursiveIncludes = false) (state : State)
    (blocks : Conditional) (payload text : String) :
    settle text (includeFile env emit (state.withBlocks blocks) payload) =
      ((insertFile env state payload).1.withBlocks blocks, (insertFile env state payload).2) := by
  have hl : (state.withBlocks blocks).location = state.location := rfl
  have ht : includeTarget env (state.withBlocks blocks) = includeTarget env state := rfl
  unfold includeFile insertFile
  simp only [hrec, hl, ht]
  generalize readInclude env state.location _ = result
  cases result <;> rfl

/-- Defining a macro where blocks are open is entering it there. -/
theorem settle_defineMacro (state : State) (blocks : Conditional) (payload text : String) :
    settle text (defineMacro (state.withBlocks blocks) payload) =
      ((enterMacro state payload).1.withBlocks blocks, (enterMacro state payload).2) := by
  simp only [enterMacro, defineMacro, State.withBlocks]
  generalize MacroTable.define _ _ _ _ = result
  cases result <;> rfl

/-- A plain token that is not suppressed is performed, whatever blocks are open, in either
model. -/
theorem processToken_plain_withBlocks (hrec : env.config.recursiveIncludes = false) {token : Token}
    (h : (role token).isPlain = true) (state : State) {blocks : Conditional}
    (hs : blocks.suppressed = false) :
    processToken env emit (state.withBlocks blocks) token =
      ((perform env state token).1.withBlocks blocks, (perform env state token).2) := by
  have hs' : ∀ s : State, ¬(s.withBlocks blocks).suppressed = true := by
    intro s
    show ¬blocks.suppressed = true
    rw [hs]
    exact Bool.false_ne_true
  have hreach : (state.withBlocks blocks).reach token = (state.reach token).withBlocks blocks := rfl
  unfold perform
  cases hr : role token with
  | text =>
    rw [processToken_text hr, hreach, copy, if_neg (hs' _)]
    rfl
  | definition payload =>
    rw [processToken_definition hr, if_neg (hs' _), hreach, settle_defineMacro]
  | inclusion payload =>
    rw [processToken_inclusion hr, if_neg (hs' _), hreach, settle_includeFile hrec]
  | opening b => rw [hr] at h; exact absurd h Bool.false_ne_true
  | branch b => rw [hr] at h; exact absurd h Bool.false_ne_true
  | ending => rw [hr] at h; exact absurd h Bool.false_ne_true

/-- A plain token that is not suppressed is performed, whatever blocks are open. -/
theorem processToken_plain (hrec : env.config.recursiveIncludes = false) {token : Token}
    (h : (role token).isPlain = true) (state : State) {frames : List Frame}
    (hs : (Conditional.scoped frames).suppressed = false) :
    processToken env emit (state.within frames) token =
      ((perform env state token).1.within frames, (perform env state token).2) :=
  processToken_plain_withBlocks hrec h state hs

/-- A plain token that is suppressed only moves the line that is reached. -/
theorem processToken_plain_suppressed {token : Token} (h : (role token).isPlain = true)
    {state : State} (hs : state.suppressed = true) :
    processToken env emit state token = (state.reach token, none) := by
  cases hr : role token with
  | text => rw [processToken_text hr, copy_of_suppressed (by rw [State.reach_suppressed, hs])]
  | definition payload => rw [processToken_definition hr, if_pos hs]
  | inclusion payload => rw [processToken_inclusion hr, if_pos hs]
  | opening b => rw [hr] at h; exact absurd h Bool.false_ne_true
  | branch b => rw [hr] at h; exact absurd h Bool.false_ne_true
  | ending => rw [hr] at h; exact absurd h Bool.false_ne_true

/-- A directive that opens a block puts its frame before those of the blocks around it. -/
theorem processToken_opening_within {token : Token} {b : BranchTest}
    (h : role token = .opening b) (state : State) (frames : List Frame) :
    processToken env emit (state.within frames) token =
      ((state.reach token).within
          (openFrame (Conditional.scoped frames).suppressed (b.holds env state) :: frames),
        none) := by
  rw [processToken_opening h, BranchTest.holds_within]
  rfl

/-- A directive that begins another branch changes the frame of the innermost block. -/
theorem processToken_branch_within {token : Token} {b : BranchTest} (h : role token = .branch b)
    (state : State) (frame : Frame) (frames : List Frame) :
    processToken env emit (state.within (frame :: frames)) token =
      ((state.reach token).within (nextFrame frame b (b.holds env state) :: frames), none) := by
  rw [processToken_branch h rfl, BranchTest.holds_within]
  rfl

/-- The end of a block removes its frame. -/
theorem processToken_ending_within {token : Token} (h : role token = .ending) (state : State)
    (frame : Frame) (frames : List Frame) :
    processToken env emit (state.within (frame :: frames)) token =
      ((state.reach token).within frames, none) := by
  rw [processToken_ending_matched h rfl]
  rfl

/-- A further branch of a spent block is not kept, and the block stays spent. -/
theorem nextFrame_spent {frame : Frame} (h : isSpent frame = true) (b : BranchTest)
    (holds : Bool) :
    (nextFrame frame b holds).active = false ∧ isSpent (nextFrame frame b holds) = true := by
  obtain ⟨parentActive, taken, active⟩ := frame
  cases parentActive <;> cases taken <;> cases b <;> simp_all [isSpent, nextFrame]

/-- A further branch of a block of which none was kept is kept if its test is true. -/
theorem nextFrame_waiting (state : State) (b : BranchTest) :
    nextFrame (openFrame false false) b (b.holds env state) =
      openFrame false (b.holds env state) := by
  cases b <;> simp [nextFrame, openFrame, BranchTest.holds]

mutual

/-- A suppressed program only moves the line that is reached. -/
theorem Program.skip (env : Environment) (emit : State → String → Path → Step) (state : State)
    (frame : Frame) (frames : List Frame) (h : frame.active = false) :
    ∀ program : Program, ∃ line,
      processTokens env emit (state.within (frame :: frames)) program.tokens =
        ((state.atLine line).within (frame :: frames), none)
  | .done => ⟨state.location.line, rfl⟩
  | .plain token role_plain rest => by
    have hs : (state.within (frame :: frames)).suppressed = true := by
      rw [State.suppressed, State.within_conditions, Conditional.suppressed, h]
      rfl
    obtain ⟨line, hrest⟩ := rest.skip env emit (state.reach token) frame frames h
    refine ⟨line, ?_⟩
    rw [Program.tokens, processTokens, processToken_plain_suppressed role_plain hs]
    exact hrest
  | .block opening test role_opening body branches ending role_ending rest => by
    -- The block opens under a frame that keeps nothing, so that none of its branches is kept.
    have hs : (Conditional.scoped (frame :: frames)).suppressed = true := by
      rw [Conditional.suppressed, h]
      rfl
    obtain ⟨line, hbody⟩ := body.skip env emit (state.reach opening)
      (openFrame true (test.holds env state)) (frame :: frames) rfl
    obtain ⟨line', frame', hbranches⟩ := branches.skip env emit ((state.reach opening).atLine line)
      (openFrame true (test.holds env state)) (frame :: frames) rfl
    obtain ⟨line'', hrest⟩ := rest.skip env emit (state.reach ending) frame frames h
    refine ⟨line'', ?_⟩
    rw [Program.tokens, processTokens, processToken_opening_within role_opening, hs]
    simp only
    rw [processTokens_append, hbody]
    simp only
    rw [processTokens_append, hbranches]
    simp only
    rw [processTokens, processToken_ending_within role_ending]
    exact hrest

/-- The branches of a spent block only move the line that is reached. -/
theorem Branches.skip (env : Environment) (emit : State → String → Path → Step) (state : State)
    (frame : Frame) (frames : List Frame) (h : isSpent frame = true) :
    ∀ branches : Branches, ∃ line frame',
      processTokens env emit (state.within (frame :: frames)) branches.tokens =
        ((state.atLine line).within (frame' :: frames), none)
  | .none => ⟨state.location.line, frame, rfl⟩
  | .branch directive test role_branch body rest => by
    obtain ⟨hactive, hspent⟩ := nextFrame_spent h test (test.holds env state)
    obtain ⟨line, hbody⟩ := body.skip env emit (state.reach directive) _ frames hactive
    obtain ⟨line', frame', hrest⟩ :=
      rest.skip env emit ((state.reach directive).atLine line) _ frames hspent
    refine ⟨line', frame', ?_⟩
    rw [Branches.tokens, processTokens, processToken_branch_within role_branch]
    simp only
    rw [processTokens_append, hbody]
    exact hrest

end

/-- The line that is reached before branches does not matter to what they do. -/
theorem simulatesBranches_of_atLine {frames : List Frame} {pass : Step} {state : State} {line : Int}
    {branches : Branches}
    (h : SimulatesBranches frames pass (branches.exec env (state.atLine line))) :
    SimulatesBranches frames pass (branches.exec env state) := by
  cases branches with
  | none =>
    obtain ⟨line', frame, h⟩ := h
    exact ⟨line', frame, h⟩
  | branch directive test role_branch body rest =>
    rw [Branches.exec, BranchTest.holds_reach, State.atLine_reach, BranchTest.holds_atLine] at h
    rw [Branches.exec, BranchTest.holds_reach]
    exact h

/-- A branch and those behind it are simulated if each is: the branch where its test is true, and
otherwise, the branch being suppressed, those behind it. -/
theorem simulates_arms (emit : State → String → Path → Step) (state : State) (frames : List Frame)
    {body : Program} {branches : Branches}
    (hbody : ∀ frames, (Conditional.scoped frames).suppressed = false →
      Simulates frames (processTokens env emit (state.within frames) body.tokens)
        (body.exec env state))
    (hbranches : ∀ state : State, SimulatesBranches frames
      (processTokens env emit (state.within (openFrame false false :: frames)) branches.tokens)
      (branches.exec env state))
    (holds : Bool) :
    SimulatesBranches frames
      (processTokens env emit (state.within (openFrame false holds :: frames))
        (body.tokens ++ branches.tokens))
      (if holds then body.exec env state else branches.exec env state) := by
  rw [processTokens_append]
  cases holds with
  -- The body is executed, and the further branches are skipped.
  | true =>
    have hb := hbody (openFrame false true :: frames) rfl
    rw [if_pos rfl]
    generalize body.exec env state = outcome at hb
    match outcome with
    | (s, none) =>
      rw [Simulates] at hb
      rw [hb]
      exact branches.skip env emit s _ frames rfl
    | (s, some e) =>
      obtain ⟨frames', hb⟩ := hb
      rw [hb]
      exact ⟨frames', rfl⟩
  -- The body is skipped, and the further branches decide.
  | false =>
    obtain ⟨line, hb⟩ := body.skip env emit state (openFrame false false) frames rfl
    rw [if_neg Bool.false_ne_true, hb]
    exact simulatesBranches_of_atLine (hbranches (state.atLine line))

mutual

/-- A program that is not suppressed is executed, whatever blocks are open around it. -/
theorem Program.simulates (emit : State → String → Path → Step)
    (hrec : env.config.recursiveIncludes = false) (state : State) (frames : List Frame)
    (hs : (Conditional.scoped frames).suppressed = false) :
    ∀ program : Program, Simulates frames
      (processTokens env emit (state.within frames) program.tokens) (program.exec env state)
  | .done => rfl
  | .plain token role_plain rest => by
    rw [Program.tokens, processTokens, processToken_plain hrec role_plain state hs, Program.exec]
    match perform env state token with
    | (s, none) => exact rest.simulates emit hrec s frames hs
    | (s, some e) => exact ⟨frames, rfl⟩
  | .block opening test role_opening body branches ending role_ending rest => by
    have harms := simulates_arms emit (state.reach opening) frames
      (fun frames hs => body.simulates emit hrec (state.reach opening) frames hs)
      (fun state => branches.simulates emit hrec state frames) (test.holds env state)
    rw [Program.tokens, processTokens, processToken_opening_within role_opening, hs]
    simp only
    rw [← List.append_assoc, processTokens_append, Program.exec, BranchTest.holds_reach]
    generalize (if test.holds env state then body.exec env (state.reach opening)
      else branches.exec env (state.reach opening)) = outcome at harms
    match outcome with
    | (s, none) =>
      obtain ⟨line, frame, harms⟩ := harms
      rw [harms]
      simp only
      rw [processTokens, processToken_ending_within role_ending]
      exact rest.simulates emit hrec (s.reach ending) frames hs
    | (s, some e) =>
      obtain ⟨frames', harms⟩ := harms
      rw [harms]
      exact ⟨frames', rfl⟩

/-- Branches before which none was kept are executed, whatever blocks are open around theirs. -/
theorem Branches.simulates (emit : State → String → Path → Step)
    (hrec : env.config.recursiveIncludes = false) (state : State) (frames : List Frame) :
    ∀ branches : Branches, SimulatesBranches frames
      (processTokens env emit (state.within (openFrame false false :: frames)) branches.tokens)
      (branches.exec env state)
  | .none => ⟨state.location.line, openFrame false false, rfl⟩
  | .branch directive test role_branch body rest => by
    have harms := simulates_arms emit (state.reach directive) frames
      (fun frames hs => body.simulates emit hrec (state.reach directive) frames hs)
      (fun state => rest.simulates emit hrec state frames) (test.holds env state)
    rw [Branches.tokens, processTokens, processToken_branch_within role_branch,
      nextFrame_waiting, Branches.exec, BranchTest.holds_reach]
    exact harms

end

/-- Pieces whose tokens are those of a program are processed as the program is executed. -/
theorem processPieces_simulates (hrec : env.config.recursiveIncludes = false) (state : State)
    {program : Program} {pieces : Tokenized} (htokens : program.tokens = pieces.tokens) :
    ∃ warnings step, Simulates [] step (program.exec env state) ∧
      processPieces env emit (state.within []) pieces = (step.1.warned warnings, step.2) := by
  have hsim := program.simulates emit hrec state [] rfl
  rw [htokens, Tokenized.tokens, processTokens_append] at hsim
  have hscoped := processTokens_follows emit hrec (State.within_conditions state []) pieces.scanned
  unfold processPieces
  generalize processTokens env emit (state.within []) pieces.scanned = step at hsim hscoped ⊢
  match step with
  | (s, some e) => exact ⟨s.warnings, (s, some e), hsim, rfl⟩
  | (s, none) =>
    obtain ⟨frames, hs, -⟩ := hscoped
    -- The warning comes before the last token, which does not depend on it.
    cases hrest : pieces.rest with
    | none =>
      rw [hrest] at hsim
      exact ⟨_, (s, none), hsim, rfl⟩
    | some token =>
      rw [hrest] at hsim
      simp only [Option.toList_some, processTokens] at hsim ⊢
      generalize pieces.warning.toList.map (warningText s.location.path) ++ s.warnings = warnings
      have htoken := processToken_warned emit hrec hs warnings token
      rw [State.warned] at htoken
      rw [htoken]
      generalize processToken env emit s token = step at hsim ⊢
      match step with
      | (s, none) => exact ⟨warnings, (s, none), hsim, rfl⟩
      | (s, some e) => exact ⟨warnings, (s, some e), hsim, rfl⟩

/-- A pass over pieces whose tokens are those of a program ends as executing the program does. -/
theorem runPieces_outcome (hrec : env.config.recursiveIncludes = false) {state : State}
    (hmode : state.conditions.mode = .scoped) {program : Program} {pieces : Tokenized}
    (htokens : program.tokens = pieces.tokens) (path : Option Path) :
    (runPieces env state pieces path).outcome =
      (program.exec env { begin env.config state path with
        location := ⟨path, state.location.line⟩ }).outcome := by
  have hs : (begin env.config state path).conditions = .scoped [] :=
    congrArg Conditional.start hmode
  have hl : (begin env.config state path).location = state.location := rfl
  unfold runPieces
  generalize begin env.config state path = start at hs hl ⊢
  simp only [hl]
  generalize hentered : ({ start with location := ⟨path, state.location.line⟩ } : State) = entered
  have hwithin : entered.within [] = entered := by
    rw [← hentered, State.within, ← hs]
  obtain ⟨warnings, step, hsim, hpieces⟩ := processPieces_simulates hrec entered htokens
  rw [hwithin] at hpieces
  rw [hpieces]
  generalize program.exec env entered = outcome at hsim
  match outcome with
  | (s, none) =>
    rw [Simulates] at hsim
    rw [hsim]
    rfl
  | (s, some e) =>
    obtain ⟨frames, hsim⟩ := hsim
    rw [hsim]
    rfl

end Within

mutual

/-- The tokens of a program leave no block open. -/
theorem Program.imbalance?_append (depth : Nat) (more : List Token) :
    ∀ program : Program, imbalance? depth (program.tokens ++ more) = imbalance? depth more
  | .done => rfl
  | .plain token role_plain rest => by
    have hrest := rest.imbalance?_append depth more
    rw [Program.tokens, List.cons_append, imbalance?]
    cases hr : role token with
    | text => exact hrest
    | definition payload => exact hrest
    | inclusion payload => exact hrest
    | opening b => rw [hr] at role_plain; exact absurd role_plain Bool.false_ne_true
    | branch b => rw [hr] at role_plain; exact absurd role_plain Bool.false_ne_true
    | ending => rw [hr] at role_plain; exact absurd role_plain Bool.false_ne_true
  | .block opening test role_opening body branches ending role_ending rest => by
    rw [Program.tokens, List.cons_append, imbalance?, role_opening]
    simp only [List.append_assoc, List.cons_append]
    rw [body.imbalance?_append, branches.imbalance?_append, imbalance?, role_ending]
    simp only [Nat.add_one_ne_zero, if_false, Nat.add_one_sub_one]
    exact rest.imbalance?_append depth more

/-- The tokens of branches leave open the block that they belong to. -/
theorem Branches.imbalance?_append (depth : Nat) (more : List Token) :
    ∀ branches : Branches,
      imbalance? (depth + 1) (branches.tokens ++ more) = imbalance? (depth + 1) more
  | .none => rfl
  | .branch directive test role_branch body rest => by
    rw [Branches.tokens, List.cons_append, imbalance?, role_branch]
    simp only [Nat.add_one_ne_zero, if_false, List.append_assoc]
    rw [body.imbalance?_append]
    exact rest.imbalance?_append depth more

end

/-- Tokens that the count finds nothing wrong with are a program; with blocks open before them, they
are what is left of the innermost block, its end, and more such tokens. -/
def Parses (tokens : List Token) : Nat → Prop
  | 0 => ∃ program : Program, program.tokens = tokens
  | depth + 1 => ∃ (program : Program) (branches : Branches) (ending : Token) (rest : List Token),
      role ending = .ending ∧ tokens = program.tokens ++ (branches.tokens ++ ending :: rest) ∧
        imbalance? depth rest = none

/-- A plain token in front is part of the program. -/
theorem Parses.plain {token : Token} (h : (role token).isPlain = true) {tokens : List Token}
    {depth : Nat} (hp : Parses tokens depth) : Parses (token :: tokens) depth := by
  cases depth with
  | zero =>
    obtain ⟨program, rfl⟩ := hp
    exact ⟨.plain token h program, rfl⟩
  | succ depth =>
    obtain ⟨program, branches, ending, rest, hending, rfl, hrest⟩ := hp
    exact ⟨.plain token h program, branches, ending, rest, hending, rfl, hrest⟩

/-- A block in front is part of the program. -/
theorem Parses.block {opening ending : Token} {b : BranchTest}
    (hopening : role opening = .opening b) (hending : role ending = .ending) (body : Program)
    (branches : Branches) {rest : List Token} {depth : Nat} (hp : Parses rest depth) :
    Parses (opening :: (body.tokens ++ (branches.tokens ++ ending :: rest))) depth := by
  cases depth with
  | zero =>
    obtain ⟨program, rfl⟩ := hp
    exact ⟨.block opening b hopening body branches ending hending program, rfl⟩
  | succ depth =>
    obtain ⟨program, branches', ending', rest', hending', rfl, hrest'⟩ := hp
    refine ⟨.block opening b hopening body branches ending hending program, branches', ending',
      rest', hending', ?_, hrest'⟩
    simp only [Program.tokens, List.append_assoc, List.cons_append]

/-- The count finds nothing wrong only with what it says. -/
theorem parses_of_imbalance? (tokens : List Token) (depth : Nat)
    (h : imbalance? depth tokens = none) : Parses tokens depth := by
  match tokens with
  | [] =>
    rw [imbalance?] at h
    split at h
    case isTrue hdepth =>
      subst hdepth
      exact ⟨.done, rfl⟩
    case isFalse => cases h
  | token :: tokens =>
    rw [imbalance?] at h
    cases hr : role token with
    | text | definition | inclusion =>
      rw [hr] at h
      exact (parses_of_imbalance? tokens depth h).plain (by rw [hr]; rfl)
    -- The body ends within the tokens, so that fewer of them are left behind the block.
    | opening b =>
      rw [hr] at h
      obtain ⟨body, branches, ending, rest, hending, heq, hrest⟩ :=
        parses_of_imbalance? tokens (depth + 1) h
      have hlen : rest.length < tokens.length := by
        rw [heq]
        simp only [List.length_append, List.length_cons]
        omega
      rw [heq]
      exact (parses_of_imbalance? rest depth hrest).block hr hending body branches
    -- A branch ends an empty program and begins the next.
    | branch b =>
      rw [hr] at h
      cases depth with
      | zero => simp at h
      | succ depth =>
        obtain ⟨body, branches, ending, rest, hending, heq, hrest⟩ :=
          parses_of_imbalance? tokens (depth + 1) h
        refine ⟨.done, .branch token b hr body branches, ending, rest, hending, ?_, hrest⟩
        rw [heq, Branches.tokens]
        simp only [Program.tokens, List.nil_append, List.cons_append, List.append_assoc]
    | ending =>
      rw [hr] at h
      cases depth with
      | zero => simp at h
      | succ depth => exact ⟨.done, .none, token, tokens, hr, rfl, h⟩
termination_by tokens.length

/-- The tokens of programs are those that the count of open blocks finds nothing wrong with. -/
theorem exists_program_iff (tokens : List Token) :
    (∃ program : Program, program.tokens = tokens) ↔ imbalance? 0 tokens = none := by
  constructor
  · rintro ⟨program, rfl⟩
    have h := program.imbalance?_append 0 []
    rw [List.append_nil] at h
    exact h
  · exact parses_of_imbalance? tokens 0

/-- A scoped pass over pieces whose blocks match, nested to any depth, leaves the text and the
macros that executing the blocks as a tree leaves, and fails as that does: there is such a tree,
whatever the pieces are, and in particular for those of a text. -/
theorem run_block_structured {env : Environment} (hrec : env.config.recursiveIncludes = false)
    {state : State} (hmode : state.conditions.mode = .scoped) (pieces : Tokenized)
    (hnested : imbalance? 0 pieces.tokens = none) (path : Option Path) :
    (∃ program : Program, program.tokens = pieces.tokens) ∧
    ∀ program : Program, program.tokens = pieces.tokens →
      (runPieces env state pieces path).outcome =
        (program.exec env { begin env.config state path with
          location := ⟨path, state.location.line⟩ }).outcome ∧
      ∀ text : String, Source.tokenize text = pieces →
        (run env state text path).outcome =
          (program.exec env { begin env.config state path with
            location := ⟨path, state.location.line⟩ }).outcome := by
  refine ⟨(exists_program_iff pieces.tokens).2 hnested, fun program htokens => ?_⟩
  have houtcome := runPieces_outcome hrec hmode htokens path
  refine ⟨houtcome, fun text htext => ?_⟩
  rw [run_eq_runPieces, htext]
  exact houtcome

/-- A block within a branch of another is executed as a tree. -/
theorem run_block_nested :
    ∃ program : Program,
      program.tokens = (Source.tokenize
        "#if A\n#else\n#ifndef B\n#define B 1\n#endif\nx\n#endif\n").tokens ∧
      (run ⟨{}, ⟨[], ⟨"/", []⟩, 0⟩⟩ (State.start .scoped)
        "#if A\n#else\n#ifndef B\n#define B 1\n#endif\nx\n#endif\n" none).outcome =
      (program.exec ⟨{}, ⟨[], ⟨"/", []⟩, 0⟩⟩ (begin {} (State.start .scoped) none)).outcome := by
  obtain ⟨⟨program, htokens⟩, hall⟩ := @run_block_structured ⟨{}, ⟨[], ⟨"/", []⟩, 0⟩⟩ rfl
    (State.start .scoped) rfl
    (Source.tokenize "#if A\n#else\n#ifndef B\n#define B 1\n#endif\nx\n#endif\n")
    (by decide +kernel) none
  exact ⟨program, htokens, (hall program htokens).2 _ rfl⟩

end Hashmark.Pass
