import Hashmark.Proofs.Pass.Congruence
import Mathlib.Logic.Relation

/-!
# What a pass does to its state

Everything that a pass does to its state is one of a few elementary changes (`Change`): it moves to
another place, adds text to the output, defines a name that is not defined, or lets a directive turn
the conditional blocks. `emit_evolves` says so of a whole pass. What every change keeps is therefore
kept by every pass, whether it succeeds or fails; the model of conditional blocks is an example
(`Evolves.mode`).

The tokens of a source move a pass from place to place. A directive does not, since an included file
is processed at places of its own, from which the pass comes back (`Handles.location`).
-/

namespace Hashmark

/-- Without open blocks, a state is of its model. -/
@[simp]
theorem Conditional.mode_start (mode : Mode) : (start mode).mode = mode := by
  cases mode <;> rfl

/-- Directives do not change the model of conditional blocks. -/
theorem Conditional.Turns.mode {before after : Conditional} (h : before.Turns after) :
    after.mode = before.mode := by
  cases h with
  | openBlock active => cases before <;> rfl
  | alternative h =>
    unfold Conditional.alternative at h
    split at h
    · obtain rfl := Except.ok.inj h
      rfl
    · cases h
    · split at h <;> obtain rfl := Except.ok.inj h <;> rfl
  | otherwise h =>
    unfold Conditional.otherwise at h
    split at h
    · obtain rfl := Except.ok.inj h
      rfl
    · cases h
    · obtain rfl := Except.ok.inj h
      rfl
  | closeBlock h =>
    unfold Conditional.closeBlock at h
    split at h
    · obtain rfl := Except.ok.inj h
      rfl
    · cases h
    · obtain rfl := Except.ok.inj h
      rfl

namespace Pass

open Source (Token Tokenized)

/-- An elementary change of the state of a pass. -/
inductive Change : State → State → Prop
  /-- The pass moves to another place, among other files, and takes notes. -/
  | move (state : State) (including : List Path) (location : Location)
      (reads : List Path) (warnings : List String) :
      Change state { state with including, location, reads, warnings }
  /-- Text is added to the output. -/
  | append (state : State) (text : String) : Change state (state.append text)
  /-- A name that is not defined is defined. -/
  | define (state : State) (m : Macro) (h : state.macros.contains m.name = false) :
      Change state { state with macros := state.macros.push m }
  /-- A directive turns the conditional blocks. -/
  | turn (state : State) (conditions : Conditional) (h : state.conditions.Turns conditions) :
      Change state { state with conditions }

/-- One state comes from another by elementary changes. -/
abbrev Evolves : State → State → Prop :=
  Relation.ReflTransGen Change

/-- A pass keeps the model of conditional blocks. -/
theorem Evolves.mode {before after : State} (h : Evolves before after) :
    after.conditions.mode = before.conditions.mode := by
  induction h with
  | refl => rfl
  | tail _ hchange ih =>
    rw [← ih]
    cases hchange with
    | move => rfl
    | append => rfl
    | define => rfl
    | turn conditions h => exact h.mode

/-- Processing the text of an included file changes the state by elementary changes. -/
def EmitEvolves (emit : State → String → Path → Step) : Prop :=
  ∀ state text path, Evolves state (emit state text path).1

/-- Elementary changes follow one another step by step. -/
theorem Evolves.stepwise : Stepwise Evolves where
  refl := fun _ => .refl
  trans := .trans
  warn := fun state warnings => .single (.move state _ _ _ warnings)

section Evolves

variable {env : Environment} {emit : State → String → Path → Step}

/-- An include takes note of the file that it names and adds its text or processes it. -/
theorem Includes.evolves (hemit : EmitEvolves emit) {state : State} {target : Path}
    {handled : Handled} (h : Includes env emit state target handled) :
    Evolves state handled.1 := by
  have hread : Evolves state { state with reads := target :: state.reads } :=
    .single (.move state _ _ _ _)
  cases h with
  | refuse e => exact hread
  | insert hfile => exact hread.tail (.append _ _)
  | @splice text hfile resolved result =>
    -- The file is entered, processed, and left.
    have henter : Evolves state { state with
        reads := target :: state.reads
        including := state.including ++ [resolved] } := hread.tail (.move _ _ _ _ _)
    exact (henter.trans (hemit _ text resolved)).tail (.move _ _ _ _ _)

/-- A comment changes the state by elementary changes. -/
theorem Handles.evolves (hemit : EmitEvolves emit) {state : State} {handled : Handled}
    (h : Handles env emit state handled) : Evolves state handled.1 := by
  cases h with
  | idle consumed => exact .refl
  | define m h => exact .single (.define state m h)
  | turn conditions h => exact .single (.turn state conditions h)
  | fail e => exact .refl
  | inclusion target h => exact h.evolves hemit

/-- Processing a token changes the state by elementary changes. -/
theorem processToken_evolves (env : Environment) (hemit : EmitEvolves emit) (state : State)
    (token : Token) : Evolves state (processToken env emit state token).1 :=
  processToken_stepwise Evolves.stepwise (.single (.move state _ _ _ _))
    ((handleComment_handles env emit _ _).evolves hemit) fun state => .single (.append state _)

/-- Processing tokens changes the state by elementary changes. -/
theorem processTokens_evolves (env : Environment) (hemit : EmitEvolves emit) (state : State)
    (tokens : List Token) : Evolves state (processTokens env emit state tokens).1 :=
  processTokens_stepwise Evolves.stepwise
    (fun token _ state => processToken_evolves env hemit state token) state

/-- Processing the pieces of a source changes the state by elementary changes. -/
theorem processPieces_evolves (env : Environment) (hemit : EmitEvolves emit) (state : State)
    (pieces : Tokenized) : Evolves state (processPieces env emit state pieces).1 :=
  processPieces_stepwise Evolves.stepwise
    (fun token _ state => processToken_evolves env hemit state token) state

end Evolves

/-- Processing a text changes the state by elementary changes, however deep files include one
another. -/
theorem emit_evolves (env : Environment) (depth : Nat) (state : State) (text : String)
    (path : Option Path) : Evolves state (emit env depth state text path).1 := by
  induction depth generalizing state text path with
  | zero => exact .refl
  | succ depth ih =>
    have hinner : EmitEvolves fun state text path => emit env depth state text (some path) :=
      fun state text path => ih state text (some path)
    have henter : Evolves state { state with location := ⟨path, state.location.line⟩ } :=
      .single (.move state _ _ _ _)
    have hpieces := processPieces_evolves env hinner
      { state with location := ⟨path, state.location.line⟩ } (Source.tokenize text)
    simp only [emit]
    exact (henter.trans hpieces).tail (.move _ _ _ _ _)

/-- Processing a text comes back to the place where it began. -/
theorem emit_location (env : Environment) (depth : Nat) (state : State) (text : String)
    (path : Option Path) : (emit env depth state text path).1.location = state.location := by
  cases depth <;> rfl

/-- Processing an included file comes back to the place of the directive. -/
def ComesBack (emit : State → String → Path → Step) : Prop :=
  ∀ state text path, (emit state text path).1.location = state.location

/-- A comment stays where it is. -/
theorem Handles.location {env : Environment} {emit : State → String → Path → Step}
    (hemit : ComesBack emit) {state : State} {handled : Handled}
    (h : Handles env emit state handled) : handled.1.location = state.location := by
  cases h with
  | inclusion target h =>
    cases h with
    | splice hread resolved result => exact hemit _ _ _
    | _ => rfl
  | _ => rfl

/-- A directive outside any pass changes the state by elementary changes. -/
theorem handleDirective_evolves (env : Environment) (state : State) (comment : String) :
    Evolves state (handleDirective env state comment).1 := by
  have hemit : EmitEvolves fun state text path =>
      emit env (depthBound env.files) state text (some path) :=
    fun state text path => emit_evolves env _ state text (some path)
  rw [handleDirective]
  exact (handleComment_handles env _ state comment).evolves hemit

/-- A directive outside any pass stays outside. -/
theorem handleDirective_location (env : Environment) (state : State) (comment : String) :
    (handleDirective env state comment).1.location = state.location := by
  have hback : ComesBack fun state text path =>
      emit env (depthBound env.files) state text (some path) :=
    fun state text path => emit_location env _ state text (some path)
  rw [handleDirective]
  exact (handleComment_handles env _ state comment).location hback

/-- A pass comes back to the place where it began. -/
theorem run_location (env : Environment) (state : State) (text : String) (path : Option Path) :
    (run env state text path).1.location = state.location := by
  rw [run, finish_fst, emit_location]
  rfl

/-- A pass keeps the model of conditional blocks. -/
theorem run_mode (env : Environment) (state : State) (text : String) (path : Option Path) :
    (run env state text path).1.conditions.mode = state.conditions.mode := by
  have hbegin : (begin env.config state path).conditions.mode = state.conditions.mode :=
    Conditional.mode_start _
  rw [run, finish_fst, (emit_evolves env _ _ text path).mode, hbegin]

end Pass

end Hashmark
