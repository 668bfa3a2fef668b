import Hashmark.Proofs.Pass.Step

/-!
# What directives come to

There are eight directives, but they come to few things: nothing, a definition, a turn of the
conditional blocks, and the inclusion of a file. `obey_rel` takes the directives apart once, for two
runs side by side. What holds of these few things in both runs holds of every directive, so that
facts about passes need not look at directives any more. For a single run, `handleComment_handles`
says what the state is behind a comment.

What holds between the states before and after each token then holds between those before and after
many, and of the pieces of a source (`processTokens_stepwise`, `processPieces_stepwise`).
-/

namespace Hashmark

/-- A directive turns conditional blocks from one state into another. -/
inductive Conditional.Turns : Conditional → Conditional → Prop
  /-- A block is opened. -/
  | openBlock (blocks : Conditional) (active : Bool) : Turns blocks (blocks.openBlock active)
  /-- Another branch is begun. -/
  | alternative {blocks after : Conditional} {test : Bool}
      (h : blocks.alternative test = .ok after) : Turns blocks after
  /-- The branch that is kept if none before was is begun. -/
  | otherwise {blocks after : Conditional} (h : blocks.otherwise = .ok after) : Turns blocks after
  /-- A block is closed. -/
  | closeBlock {blocks after : Conditional} (h : blocks.closeBlock = .ok after) : Turns blocks after

namespace Pass

open Source (Token Tokenized)

section Obey

variable {env env' : Environment} {emit emit' : State → String → Path → Step} {s t : State}

/-- What holds in two runs of the few things that directives come to holds of each directive, if
the runs ask for the same things: whether text is suppressed, which blocks are open, and what is
true. -/
theorem obey_rel {Q : Handled → Handled → Prop} {command : Command} {payload : Option String}
    (hsuppressed : t.suppressed = s.suppressed) (hconditions : t.conditions = s.conditions)
    (hholds : ∀ b : BranchTest, b.holds env' t = b.holds env s)
    (hidle : ∀ consumed, Q (s, .ok consumed) (t, .ok consumed))
    (hturn : ∀ result, (∀ blocks, result = .ok blocks → s.conditions.Turns blocks) →
      Q (changeBlocks s result) (changeBlocks t result))
    (hdefine : ∀ text, Role.ofCommand command payload = .definition text → s.suppressed = false →
      Q (defineMacro s text) (defineMacro t text))
    (hinclude : ∀ text, Role.ofCommand command payload = .inclusion text → s.suppressed = false →
      Q (includeFile env emit s text) (includeFile env' emit' t text)) :
    Q (obey env emit s command payload) (obey env' emit' t command payload) := by
  -- The three directives that open a block differ in the test only.
  have hopen : ∀ b : BranchTest, Q (openBlock s (b.holds env s)) (openBlock t (b.holds env' t)) := by
    intro b
    rw [openBlock, openBlock, hconditions, hholds]
    refine hturn _ fun blocks h => ?_
    rw [← Except.ok.inj h]
    exact .openBlock _ _
  cases command with
  | define =>
    simp only [obey, hsuppressed]
    split
    case isTrue => exact hidle true
    case isFalse hkept =>
      cases payload with
      | none => exact hidle false
      | some text => exact hdefine text rfl (Bool.eq_false_iff.2 hkept)
  | «include» =>
    simp only [obey, hsuppressed]
    split
    case isTrue => exact hidle true
    case isFalse hkept =>
      cases payload with
      | none => exact hidle false
      | some text => exact hinclude text rfl (Bool.eq_false_iff.2 hkept)
  | whenTrue =>
    cases payload with
    | none => exact hidle false
    | some text => exact hopen (.expression text)
  | whenDefined =>
    cases payload with
    | none => exact hidle false
    | some text => exact hopen (.defined (Text.strip text))
  | whenUndefined =>
    cases payload with
    | none => exact hidle false
    | some text => exact hopen (.undefined (Text.strip text))
  | elseWhenTrue =>
    cases payload with
    | none =>
      simp only [obey, hsuppressed, hconditions]
      split
      · exact hidle false
      · exact hturn _ fun _ h => .alternative h
    | some text =>
      have htest : test env' t text = test env s text := hholds (.expression text)
      simp only [obey, hconditions, htest]
      exact hturn _ fun _ h => .alternative h
  | otherwise =>
    simp only [obey, hconditions]
    exact hturn _ fun _ h => .otherwise h
  | endBlock =>
    simp only [obey, hconditions]
    exact hturn _ fun _ h => .closeBlock h

/-- What holds of the few things that directives come to holds of each directive. -/
theorem obey_cases {P : Handled → Prop} {command : Command} {payload : Option String}
    (hidle : ∀ consumed, P (s, .ok consumed))
    (hturn : ∀ result, (∀ blocks, result = .ok blocks → s.conditions.Turns blocks) →
      P (changeBlocks s result))
    (hdefine : ∀ text, Role.ofCommand command payload = .definition text → s.suppressed = false →
      P (defineMacro s text))
    (hinclude : ∀ text, Role.ofCommand command payload = .inclusion text → s.suppressed = false →
      P (includeFile env emit s text)) :
    P (obey env emit s command payload) := by
  have h := @obey_rel env env emit emit s s (fun handled _ => P handled) command payload
    rfl rfl (fun _ => rfl) hidle hturn hdefine hinclude
  exact h

end Obey

/-- What including a file comes to, and the state behind it. The file is one that was read. -/
inductive Includes (env : Environment) (emit : State → String → Path → Step) (state : State)
    (target : Path) : Handled → Prop
  /-- The file cannot be read, or is being processed. -/
  | refuse (e : Failure) :
      Includes env emit state target
        ({ state with reads := target :: state.reads }, .error e)
  /-- The text of the file is copied. -/
  | insert {text : String} (h : readInclude env state.location target = .ok text) :
      Includes env emit state target
        (State.append { state with reads := target :: state.reads } text, .ok true)
  /-- The file is processed among those that are being processed. -/
  | splice {text : String} (h : readInclude env state.location target = .ok text)
      (resolved : Path) (result : Except Failure Bool) :
      Includes env emit state target
        ({ (emit { state with
              reads := target :: state.reads
              including := state.including ++ [resolved] } text resolved).1 with
            including := state.including }, result)

/-- What handling a comment comes to, and the state behind it. -/
inductive Handles (env : Environment) (emit : State → String → Path → Step) (state : State) :
    Handled → Prop
  /-- Nothing is done. -/
  | idle (consumed : Bool) : Handles env emit state (state, .ok consumed)
  /-- A name that is not defined is defined. -/
  | define (m : Macro) (h : state.macros.contains m.name = false) :
      Handles env emit state ({ state with macros := state.macros.push m }, .ok true)
  /-- The conditional blocks turn. -/
  | turn (conditions : Conditional) (h : state.conditions.Turns conditions) :
      Handles env emit state ({ state with conditions }, .ok true)
  /-- A name is defined already, or blocks do not match. -/
  | fail (e : Failure) : Handles env emit state (state, .error e)
  /-- A file is included. -/
  | inclusion (target : Path) {handled : Handled} (h : Includes env emit state target handled) :
      Handles env emit state handled

section Handles

variable {env : Environment} {emit : State → String → Path → Step}

/-- Including a file reads the file that the directive names, and copies or processes it, or
fails. -/
theorem includeFile_includes (state : State) (payload : String) :
    Includes env emit state (includeTarget env state (stripWrapping (Text.strip payload)))
      (includeFile env emit state payload) := by
  unfold includeFile
  generalize includeTarget env state _ = target
  simp only
  cases hread : readInclude env state.location target with
  | error e => exact .refuse e
  | ok text =>
    simp only
    split
    case isFalse => exact .insert hread
    case isTrue =>
      generalize target.resolve env.files.here = resolved
      unfold spliceFile
      split
      · exact .refuse _
      · -- The files in progress are those from before, whether the text of the file fails or not.
        have hsplice := @Includes.splice env emit state target text hread resolved
        generalize emit _ text resolved = step at hsplice ⊢
        obtain ⟨after, failure⟩ := step
        cases failure with
        | none => exact hsplice (.ok true)
        | some e => exact hsplice (.error e)

/-- A definition defines a name that is not defined, or fails. -/
theorem defineMacro_handles (state : State) (payload : String) :
    Handles env emit state (defineMacro state payload) := by
  simp only [defineMacro, MacroTable.define]
  generalize Text.cut ' ' payload.toList = parts
  by_cases hdefined : state.macros.contains (String.ofList parts.1) = true
  · rw [if_pos hdefined]
    exact .fail _
  · rw [if_neg hdefined]
    exact .define ⟨_, _, _, _⟩ (Bool.eq_false_iff.2 hdefined)

/-- Handling a comment does one of the few things that directives come to. -/
theorem handleComment_handles (env : Environment) (emit : State → String → Path → Step)
    (state : State) (comment : String) :
    Handles env emit state (handleComment env emit state comment) := by
  unfold handleComment
  simp only
  split
  · exact .idle false
  · refine obey_cases .idle (fun result h => ?_) (fun text _ _ => defineMacro_handles state text)
      fun text _ _ => .inclusion _ (includeFile_includes state text)
    cases result with
    | ok conditions => exact .turn conditions (h conditions rfl)
    | error e => exact .fail _

/-- Processing a token is settling what its comment asks for, or copying it. -/
theorem processToken_eq (state : State) (token : Token) :
    processToken env emit state token =
      if token.isCandidate then
        settle token.text (handleComment env emit (state.reach token) token.text)
      else (copy (state.reach token) token.text, none) := by
  unfold processToken State.reach
  simp only
  generalize handleComment env emit _ token.text = handled
  obtain ⟨after, result⟩ := handled
  match result with
  | .ok true => rfl
  | .ok false => rfl
  | .error e => rfl

end Handles

/-- A relation between states that holds across many steps if it holds across each of them. -/
structure Stepwise (R : State → State → Prop) : Prop where
  /-- It holds if nothing is done. -/
  refl : ∀ state, R state state
  /-- It holds across one step behind another. -/
  trans : ∀ {first second third}, R first second → R second third → R first third
  /-- It holds across warnings. -/
  warn : ∀ state warnings, R state { state with warnings }

section Stepwise

variable {R : State → State → Prop} {env : Environment} {emit : State → String → Path → Step}

/-- What holds across more output holds across copying a token. -/
theorem copy_stepwise (h : Stepwise R) {text : String}
    (happend : ∀ state : State, R state (state.append text)) (state : State) :
    R state (copy state text) := by
  unfold copy
  split
  · exact h.refl state
  · exact happend state

/-- What holds across a directive holds across settling it, if it holds across copying its
comment. -/
theorem settle_stepwise (h : Stepwise R) {state : State} {handled : Handled} {text : String}
    (hhandled : R state handled.1) (happend : ∀ state : State, R state (state.append text)) :
    R state (settle text handled).1 := by
  obtain ⟨after, result⟩ := handled
  match result with
  | .ok true => exact hhandled
  | .ok false => exact h.trans hhandled (copy_stepwise h happend after)
  | .error e => exact hhandled

/-- What holds across reaching a token, handling its comment, and copying it holds across processing
it. -/
theorem processToken_stepwise (h : Stepwise R) {state : State} {token : Token}
    (hreach : R state (state.reach token))
    (hhandle : R (state.reach token) (handleComment env emit (state.reach token) token.text).1)
    (happend : ∀ state : State, R state (state.append token.text)) :
    R state (processToken env emit state token).1 := by
  rw [processToken_eq]
  split
  · exact h.trans hreach (settle_stepwise h hhandle happend)
  · exact h.trans hreach (copy_stepwise h happend _)

/-- What holds across each of some tokens holds across all of them. -/
theorem processTokens_stepwise (h : Stepwise R) {tokens : List Token}
    (htoken : ∀ token ∈ tokens, ∀ state, R state (processToken env emit state token).1)
    (state : State) : R state (processTokens env emit state tokens).1 := by
  induction tokens generalizing state with
  | nil => exact h.refl state
  | cons token tokens ih =>
    obtain ⟨hfirst, hrest⟩ := List.forall_mem_cons.1 htoken
    have hstep := hfirst state
    rw [processTokens]
    generalize processToken env emit state token = step at hstep
    match step with
    | (after, none) => exact h.trans hstep (ih hrest after)
    | (after, some e) => exact hstep

/-- What holds across each token of a source holds across its pieces. -/
theorem processPieces_stepwise (h : Stepwise R) {pieces : Tokenized}
    (htoken : ∀ token ∈ pieces.tokens, ∀ state, R state (processToken env emit state token).1)
    (state : State) : R state (processPieces env emit state pieces).1 := by
  have hscanned := processTokens_stepwise h
    (fun token hmem => htoken token (List.mem_append_left _ hmem)) state
  unfold processPieces
  generalize processTokens env emit state pieces.scanned = step at hscanned
  match step with
  | (after, some e) => exact hscanned
  | (after, none) =>
    refine h.trans (h.trans hscanned (h.warn after _)) (processTokens_stepwise h ?_ _)
    exact fun token hmem => htoken token (List.mem_append_right _ hmem)

end Stepwise

end Pass

end Hashmark
