import Hashmark.Proofs.Pass.Block
import Hashmark.Proofs.Pass.Evolution
import Hashmark.Proofs.Pass.Resemblance

/-!
# Suppressed regions

A region of tokens whose blocks match does nothing where text is suppressed
(`processTokens_suppressed`): no macro is defined, no file is read, and no block that is open around
the region changes, whatever directives stand in it. It only leaves the pass on another line, which
is forgotten at the next token. A block whose only test is false is therefore passed over with all
that stands in it (`processTokens_block_skipped`). And the region may be replaced by any other whose
blocks match (`run_suppressed`), even by one that moves the lines behind it.
-/

namespace Hashmark.Pass

open Source (Token Tokenized)

variable {env : Environment}

/-- Scoped blocks are a list of frames. -/
theorem exists_frames_of_mode {state : State} (hmode : state.conditions.mode = .scoped) :
    ∃ frames, state.conditions = .scoped frames := by
  cases hconditions : state.conditions with
  | flat suppressed =>
    rw [hconditions] at hmode
    cases hmode
  | «scoped» frames => exact ⟨frames, rfl⟩

/-- Where text is suppressed, some block is open, and its branch is not kept. -/
theorem exists_frame_of_suppressed {state : State} (hmode : state.conditions.mode = .scoped)
    (hsuppressed : state.suppressed = true) :
    ∃ frame frames, state.conditions = .scoped (frame :: frames) ∧ frame.active = false := by
  obtain ⟨frames, hframes⟩ := exists_frames_of_mode hmode
  rw [State.suppressed, hframes] at hsuppressed
  cases frames with
  | nil => cases hsuppressed
  | cons frame frames =>
    rw [Conditional.suppressed, Bool.not_eq_true'] at hsuppressed
    exact ⟨frame, frames, hframes, hsuppressed⟩

/-- Where text is suppressed, tokens whose blocks match only move the line that is reached. -/
theorem processTokens_suppressed (emit : State → String → Path → Step) {state : State}
    (hmode : state.conditions.mode = .scoped) (hsuppressed : state.suppressed = true)
    {region : List Token} (hregion : imbalance? 0 region = none) :
    ∃ line, processTokens env emit state region = (state.atLine line, none) := by
  obtain ⟨frame, frames, hconditions, hactive⟩ := exists_frame_of_suppressed hmode hsuppressed
  -- Tokens whose blocks match are those of a program, and a program is skipped as a whole.
  obtain ⟨program, rfl⟩ := (exists_program_iff region).2 hregion
  have hwithin : ∀ line, (state.atLine line).within (frame :: frames) = state.atLine line := by
    intro line
    rw [State.within, ← hconditions]
    rfl
  obtain ⟨line, hskip⟩ := program.skip env emit state frame frames hactive
  refine ⟨line, ?_⟩
  rw [← hwithin line, ← hskip, State.within, ← hconditions]

/-- A block with one branch is passed over if its test is false, and nothing of it is left. -/
theorem processTokens_block_skipped (emit : State → String → Path → Step) {state : State}
    (hmode : state.conditions.mode = .scoped) {opening ending : Token} {b : BranchTest}
    (hopening : role opening = .opening b) (hending : role ending = .ending)
    (hfalse : b.holds env state = false) {region : List Token}
    (hregion : imbalance? 0 region = none) (rest : List Token) :
    processTokens env emit state (opening :: (region ++ ending :: rest)) =
      processTokens env emit (state.reach ending) rest := by
  obtain ⟨frames, hframes⟩ := exists_frames_of_mode hmode
  -- The block adds a frame that is not active, and its end drops that frame.
  obtain ⟨frame, hframe, hopened⟩ : ∃ frame, frame.active = false ∧
      state.conditions.openBlock false = .scoped (frame :: frames) := by
    rw [hframes]
    exact ⟨_, Bool.and_false _, rfl⟩
  rw [processTokens, processToken_opening hopening, hfalse, hopened]
  simp only
  generalize hwithin : ({ state.reach opening with
    conditions := .scoped (frame :: frames) } : State) = within
  have hconditions : within.conditions = .scoped (frame :: frames) := by
    rw [← hwithin]
  have hsuppressed : within.suppressed = true := by
    rw [State.suppressed, hconditions, Conditional.suppressed, hframe]
    rfl
  obtain ⟨line, hskipped⟩ := processTokens_suppressed emit (hconditions ▸ rfl) hsuppressed hregion
  have hline : (within.atLine line).conditions = .scoped (frame :: frames) := hconditions
  rw [processTokens_append, hskipped]
  simp only
  rw [processTokens, processToken_ending_matched hending hline, ← hwithin, ← hframes]
  rfl

/-- A state on another line is the same but for the line. -/
theorem atLine_resembles {lines : Int → Int → Prop} (hlines : ∀ line, lines line line)
    (state : State) (line line' : Int) :
    (state.atLine line).Resembles lines (state.atLine line') :=
  { State.Resembles.refl hlines state with }

/-- The state in which a pass processes its tokens has the model of blocks that it had before. -/
theorem enter_mode (env : Environment) (state : State) (path : Option Path) :
    (state.enter env path).conditions.mode = state.conditions.mode :=
  Conditional.mode_start _

/-- What a pass has reached behind these tokens, if it has come so far, is suppressed. -/
def SuppressedBehind (env : Environment) (start : State) (path : Option Path)
    (before : List Token) : Prop :=
  ∀ state, processTokens env (included env) (start.enter env path) before = (state, none) →
    state.suppressed = true

/-- It is enough that the state behind the tokens is suppressed. -/
theorem suppressedBehind_of_fst {start : State} {path : Option Path} {before : List Token}
    (h : (processTokens env (included env) (start.enter env path) before).1.suppressed = true) :
    SuppressedBehind env start path before := by
  intro state hstate
  rw [hstate] at h
  exact h

/-- Two regions that are suppressed make no difference, and those behind them only in their
lines. -/
theorem processTokens_regions {lines : Int → Int → Prop} (hlines : ∀ line, lines line line)
    {start : State} (hmode : start.conditions.mode = .scoped) {path : Option Path}
    {before region region' after after' : List Token}
    (hsuppressed : SuppressedBehind env start path before)
    (hregion : imbalance? 0 region = none) (hregion' : imbalance? 0 region' = none)
    (hafter : List.Forall₂ (Token.Resembles lines) after after') :
    Step.Resembles lines
      (processTokens env (included env) (start.enter env path) (before ++ (region ++ after)))
      (processTokens env (included env) (start.enter env path)
        (before ++ (region' ++ after'))) := by
  have hemit : EmitEvolves (included env) := fun state text path =>
    emit_evolves env _ state text (some path)
  have hmode' := (processTokens_evolves env hemit (start.enter env path) before).mode
  rw [enter_mode, hmode] at hmode'
  unfold SuppressedBehind at hsuppressed
  rw [processTokens_append, processTokens_append]
  generalize processTokens env (included env) (start.enter env path) before = step
    at hmode' hsuppressed ⊢
  match step with
  | (state, some e) =>
    -- The pass ends before it comes to the region.
    exact .refl hlines _
  | (state, none) =>
    -- The regions leave the pass on lines of their own, which the next token moves on from.
    have hsuppressed := hsuppressed state rfl
    obtain ⟨line, hskip⟩ := processTokens_suppressed (included env) hmode' hsuppressed hregion
    obtain ⟨line', hskip'⟩ := processTokens_suppressed (included env) hmode' hsuppressed hregion'
    simp only
    rw [processTokens_append, processTokens_append, hskip, hskip']
    exact processTokens_resembles env (included_resembles hlines env)
      (atLine_resembles hlines state line line') hafter

/-- A region whose blocks match has no effect where text is suppressed: whatever stands in it, it
fails in no way and leaves everything but the line as it is. So two streams of tokens that differ in
such a region only lead to the same text, the same macros and the same failure, and if the tokens
behind the region are on other lines, to the same but for lines. -/
theorem run_suppressed (env : Environment) {region : List Token}
    (hregion : imbalance? 0 region = none) :
    (∀ (emit : State → String → Path → Step) (state : State),
      state.conditions.mode = .scoped → state.suppressed = true →
      ∃ line, processTokens env emit state region = (state.atLine line, none)) ∧
    ∀ (start : State) (path : Option Path) (before region' after after' : List Token)
      (pieces pieces' : Tokenized),
      start.conditions.mode = .scoped → SuppressedBehind env start path before →
      imbalance? 0 region' = none →
      pieces.tokens = before ++ (region ++ after) →
      pieces'.tokens = before ++ (region' ++ after') →
      (after = after' →
        (runPieces env start pieces path).outcome = (runPieces env start pieces' path).outcome) ∧
      (List.Forall₂ (Token.Resembles fun _ _ => True) after after' →
        (runPieces env start pieces path).Resembles (fun _ _ => True)
          (runPieces env start pieces' path)) := by
  refine ⟨fun emit state hmode hsuppressed =>
    processTokens_suppressed emit hmode hsuppressed hregion, ?_⟩
  intro start path before region' after after' pieces pieces' hmode hbehind hregion' htokens
    htokens'
  -- Behind their regions both passes are in the same state, but for the line.
  have hresembles : ∀ {lines : Int → Int → Prop}, (∀ line, lines line line) →
      List.Forall₂ (Token.Resembles lines) after after' →
      (runPieces env start pieces path).Resembles lines (runPieces env start pieces' path) := by
    intro lines hlines hafter
    apply runPieces_resembles hlines
    rw [htokens, htokens']
    exact processTokens_regions hlines hmode hbehind hregion hregion' hafter
  constructor
  · rintro rfl
    have hsame := hresembles (fun _ => rfl) (tokens_resemble (fun _ => rfl) after)
    rw [Step.outcome, Step.outcome, hsame.1.output, hsame.1.macros.eq, hsame.failure_eq]
  · exact hresembles fun _ => trivial

/-- A malformed condition, a definition and the inclusion of a missing file are replaced in a block
that is not kept: by as many lines, and by one, so that the failure behind it is on another line. -/
theorem run_suppressed_replaced :
    (∃ line, processTokens ⟨{}, ⟨[], ⟨"/", []⟩, 0⟩⟩ (included ⟨{}, ⟨[], ⟨"/", []⟩, 0⟩⟩)
        { State.start .scoped with conditions := .scoped [⟨true, false, false⟩] }
        (Source.tokenize "#if (\n#define A 1\n#include 'a'\n#endif\n").tokens =
      (State.atLine { State.start .scoped with conditions := .scoped [⟨true, false, false⟩] } line,
        none)) ∧
    (run ⟨{}, ⟨[], ⟨"/", []⟩, 0⟩⟩ (State.start .scoped)
        "#ifdef X\n#if (\n#define A 1\n#include 'a'\n#endif\n#endif\n#else" none).outcome =
      (run ⟨{}, ⟨[], ⟨"/", []⟩, 0⟩⟩ (State.start .scoped)
        "#ifdef X\n1\n2\n3\n4\n#endif\n#else" none).outcome ∧
    (run ⟨{}, ⟨[], ⟨"/", []⟩, 0⟩⟩ (State.start .scoped)
        "#ifdef X\n#if (\n#define A 1\n#include 'a'\n#endif\n#endif\n#else" none).Resembles
      (fun _ _ => True)
      (run ⟨{}, ⟨[], ⟨"/", []⟩, 0⟩⟩ (State.start .scoped) "#ifdef X\n1\n#endif\n#else" none) := by
  refine ⟨(run_suppressed _ (by decide +kernel)).1 _ _ rfl rfl, ?_⟩
  -- The region is that of the tokens of four lines behind the first line.
  let pieces := Source.tokenize
    "#ifdef X\n#if (\n#define A 1\n#include 'a'\n#endif\n#endif\n#else"
  let pieces' := Source.tokenize "#ifdef X\n1\n2\n3\n4\n#endif\n#else"
  let pieces'' := Source.tokenize "#ifdef X\n1\n#endif\n#else"
  have hregion : imbalance? 0 ((pieces.tokens.drop 2).take 8) = none := by decide +kernel
  have hbehind : SuppressedBehind ⟨{}, ⟨[], ⟨"/", []⟩, 0⟩⟩ (State.start .scoped) none
      (pieces.tokens.take 2) := suppressedBehind_of_fst (by decide +kernel)
  have hafter : pieces.tokens.drop 10 =
      [⟨.comment, "#endif", 6⟩, ⟨.lineBreak, "\n", 6⟩, ⟨.comment, "#else", 7⟩] := by
    decide +kernel
  have hafter'' : pieces''.tokens.drop 4 =
      [⟨.comment, "#endif", 3⟩, ⟨.lineBreak, "\n", 3⟩, ⟨.comment, "#else", 4⟩] := by
    decide +kernel
  constructor
  · exact ((run_suppressed _ hregion).2 (State.start .scoped) none (pieces.tokens.take 2)
      ((pieces'.tokens.drop 2).take 8) (pieces.tokens.drop 10) (pieces'.tokens.drop 10) pieces
      pieces' rfl hbehind (by decide +kernel) (by decide +kernel) (by decide +kernel)).1
      (by decide +kernel)
  · refine ((run_suppressed _ hregion).2 (State.start .scoped) none (pieces.tokens.take 2)
      ((pieces''.tokens.drop 2).take 2) (pieces.tokens.drop 10) (pieces''.tokens.drop 4) pieces
      pieces'' rfl hbehind (by decide +kernel) (by decide +kernel) (by decide +kernel)).2 ?_
    rw [hafter, hafter'']
    exact .cons ⟨rfl, rfl, trivial⟩ (.cons ⟨rfl, rfl, trivial⟩ (.cons ⟨rfl, rfl, trivial⟩ .nil))

end Hashmark.Pass
