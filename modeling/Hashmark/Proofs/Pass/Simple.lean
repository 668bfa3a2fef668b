import Hashmark.Proofs.Pass.Block
import Hashmark.Proofs.Pass.Correspondence
import Hashmark.Proofs.Pass.Resemblance

/-!
# Simple blocks in both models

The two models of conditional blocks differ once blocks nest, stand open or have a third branch.
Where they do not, a source is read by an automaton with three phases (`Phase`): outside of any
block, in the first branch of one, and in its last. An opening leads into a block, at most one more
branch follows, and an ending leads out again. `AreSimple` says of tokens that the automaton reads
all of them and ends outside.

In each phase the flag of the one model and the frames of the other match (`Matches`), although the
frame of a block tells more than the flag does. A token that is read does the same in both models,
and their blocks match behind it (`processToken_matches`). Hence a pass does the same in both,
whether it comes to its end or fails within a block (`run_simple`).
-/

namespace Hashmark.Pass

open Source (Token Tokenized)

/-- Where a source with simple blocks stands. -/
inductive Phase where
  /-- No block is open. -/
  | outside
  /-- A block is open, in its first branch. -/
  | first
  /-- A block is open, in a branch behind its first. -/
  | last
  deriving DecidableEq, Repr

/-- The phase behind a token of this role, if simple blocks allow for such a token. -/
def Phase.next? : Phase → Role → Option Phase
  | .outside, .opening _ => some .first
  | .first, .branch _ => some .last
  | .first, .ending => some .outside
  | .last, .ending => some .outside
  | phase, .text => some phase
  | phase, .definition _ => some phase
  | phase, .inclusion _ => some phase
  | _, _ => none

/-- The phase behind tokens, if simple blocks allow for all of them. -/
def Phase.behind? (phase : Phase) (tokens : List Token) : Option Phase :=
  tokens.foldlM (fun phase token => phase.next? (role token)) phase

/-- Whether the blocks of tokens are simple: each is opened and ended outside of any other, has at
most two branches, and no directive of a block stands outside of one. -/
def AreSimple (tokens : List Token) : Prop :=
  Phase.outside.behind? tokens = some .outside

instance (tokens : List Token) : Decidable (AreSimple tokens) :=
  inferInstanceAs (Decidable (_ = _))

/-- The blocks of the flat and of the scoped model that belong together in a phase. In the last
branch of a block it does not matter whether one more could be kept. -/
inductive Matches : Phase → Conditional → Conditional → Prop
  /-- Text outside of blocks is kept. -/
  | outside : Matches .outside (.flat false) (.scoped [])
  /-- A block that was opened outside of any other is taken if its first branch is kept. -/
  | first (kept : Bool) : Matches .first (.flat !kept) (.scoped [⟨true, kept, kept⟩])
  /-- Both models keep the last branch or suppress it. -/
  | last (taken kept : Bool) : Matches .last (.flat !kept) (.scoped [⟨true, taken, kept⟩])

/-- Steps that do the same to everything but the blocks; unless they fail, the blocks behind them
match in a phase. -/
def Step.Matches (phase : Phase) (one other : Step) : Prop :=
  ∃ (after : State) (c d : Conditional) (failure : Option Failure),
    one = (after.withBlocks c, failure) ∧ other = (after.withBlocks d, failure) ∧
      (failure = none → Pass.Matches phase c d)

/-- The environment with the options for a model of conditional blocks. -/
def Environment.inMode (env : Environment) (mode : Mode) : Environment :=
  { env with config := { env.config with mode } }

section Matches

variable {phase : Phase} {c d : Conditional}

/-- Blocks that match suppress the same text. -/
theorem Matches.suppressed (h : Matches phase c d) : c.suppressed = d.suppressed := by
  cases h <;> rfl

/-- A block is opened alike. -/
theorem Matches.openBlock (h : Matches .outside c d) (test : Bool) :
    Matches .first (c.openBlock test) (d.openBlock test) := by
  cases h
  exact .first test

/-- Another branch of a block is begun alike. -/
theorem Matches.branchBlocks (h : Matches .first c d) (b : BranchTest) (holds : Bool) :
    ∃ c' d', branchBlocks c b holds = .ok c' ∧ branchBlocks d b holds = .ok d' ∧
      Matches .last c' d' := by
  cases h with
  | first kept =>
    by_cases hb : b = .always
    · subst hb
      exact ⟨_, _, rfl, rfl, by cases kept <;> exact .last _ _⟩
    · -- A branch with a test is kept if the first one was not and the test is true.
      have hbranch : ∀ blocks : Conditional, Pass.branchBlocks blocks b holds =
          blocks.alternative (blocks.needsTest && holds) := by
        intro blocks
        cases b with
        | always => exact absurd rfl hb
        | _ => rfl
      rw [hbranch, hbranch]
      cases kept with
      | true => exact ⟨_, _, rfl, rfl, .last true false⟩
      | false =>
        exact ⟨.flat !holds, .scoped [⟨true, holds, holds⟩], rfl, rfl, .last holds holds⟩

/-- Where the first branch is suppressed, a branch that begins without a test may as well not. -/
theorem Matches.last_of_suppressed (h : Matches .first c d) (hs : c.suppressed = true) :
    Matches .last c d := by
  cases h with
  | first kept => exact .last kept kept

/-- A block is ended alike. -/
theorem Matches.closeBlock (h : Matches phase c d) (hphase : phase ≠ .outside) :
    c.closeBlock = .ok (.flat false) ∧ d.closeBlock = .ok (.scoped []) := by
  cases h with
  | outside => exact absurd rfl hphase
  | first kept => exact ⟨rfl, rfl⟩
  | last taken kept => exact ⟨rfl, rfl⟩

end Matches

section Phase

variable {phase next : Phase} {token : Token}

/-- A plain token does not change the phase. -/
theorem Phase.next?_plain {r : Role} (h : r.isPlain = true) : phase.next? r = some phase := by
  cases r <;> first | (cases phase <;> rfl) | exact absurd h Bool.false_ne_true

/-- Blocks are opened outside of others. -/
theorem Phase.next?_opening {b : BranchTest} (h : phase.next? (.opening b) = some next) :
    phase = .outside ∧ next = .first := by
  cases phase <;> simp_all [Phase.next?]

/-- A branch is begun only behind the first. -/
theorem Phase.next?_branch {b : BranchTest} (h : phase.next? (.branch b) = some next) :
    phase = .first ∧ next = .last := by
  cases phase <;> simp_all [Phase.next?]

/-- A block is ended in one of its branches. -/
theorem Phase.next?_ending (h : phase.next? .ending = some next) :
    phase ≠ .outside ∧ next = .outside := by
  cases phase <;> simp_all [Phase.next?, eq_comm]

/-- Tokens behind tokens are read behind them. -/
theorem Phase.behind?_append (first second : List Token) :
    phase.behind? (first ++ second) = (phase.behind? first).bind (·.behind? second) := by
  rw [Phase.behind?, List.foldlM_append]
  rfl

end Phase

section Pass

variable {env : Environment}

/-- What a token outside of blocks does is not a matter of their model. -/
theorem perform_inMode (mode : Mode) (state : State) (token : Token) :
    perform (env.inMode mode) state token = perform env state token := by
  have htarget : includeTarget (env.inMode mode) = includeTarget env := rfl
  have hread : readInclude (env.inMode mode) = readInclude env := rfl
  simp only [perform, insertFile, htarget, hread]

/-- What decides whether a branch is kept is no matter of the model of blocks. -/
theorem BranchTest.holds_inMode (mode : Mode) (state : State) (blocks : Conditional)
    (b : BranchTest) : b.holds (env.inMode mode) (state.withBlocks blocks) = b.holds env state := by
  have hmacros : (state.withBlocks blocks).macros = state.macros := rfl
  have hconstants : (env.inMode mode).config.SharesConstants env.config :=
    .of_eq rfl rfl rfl
  exact b.holds_of_constants hconstants hmacros

/-- A plain token does the same whichever blocks are open, as long as these suppress the same
text. -/
theorem processToken_plain_matches (emit emit' : State → String → Path → Step)
    (hrec : env.config.recursiveIncludes = false) {token : Token}
    (h : (role token).isPlain = true) {phase : Phase} {c d : Conditional}
    (hmatch : Matches phase c d) (state : State) :
    Step.Matches phase (processToken (env.inMode .flat) emit (state.withBlocks c) token)
      (processToken (env.inMode .scoped) emit' (state.withBlocks d) token) := by
  have hsame := hmatch.suppressed
  cases hs : c.suppressed with
  | true =>
    have hc : (state.withBlocks c).suppressed = true := hs
    have hd : (state.withBlocks d).suppressed = true := hsame.symm.trans hs
    rw [processToken_plain_suppressed h hc, processToken_plain_suppressed h hd]
    exact ⟨state.reach token, c, d, none, rfl, rfl, fun _ => hmatch⟩
  | false =>
    have hflat : (env.inMode .flat).config.recursiveIncludes = false := hrec
    have hscoped : (env.inMode .scoped).config.recursiveIncludes = false := hrec
    rw [processToken_plain_withBlocks hflat h state hs,
      processToken_plain_withBlocks hscoped h state (hsame.symm.trans hs), perform_inMode,
      perform_inMode]
    exact ⟨(perform env state token).1, c, d, (perform env state token).2, rfl, rfl,
      fun _ => hmatch⟩

/-- A token that simple blocks allow for does the same in both models. -/
theorem processToken_matches (emit emit' : State → String → Path → Step)
    (hrec : env.config.recursiveIncludes = false) {token : Token}
    {phase next : Phase} (hnext : phase.next? (role token) = some next) {c d : Conditional}
    (hmatch : Matches phase c d) (state : State) :
    Step.Matches next (processToken (env.inMode .flat) emit (state.withBlocks c) token)
      (processToken (env.inMode .scoped) emit' (state.withBlocks d) token) := by
  have hplain : (role token).isPlain = true →
      Step.Matches next (processToken (env.inMode .flat) emit (state.withBlocks c) token)
        (processToken (env.inMode .scoped) emit' (state.withBlocks d) token) := by
    intro h
    obtain rfl : phase = next := Option.some.inj ((Phase.next?_plain h).symm.trans hnext)
    exact processToken_plain_matches emit emit' hrec h hmatch state
  -- Whatever has no part in the blocks leaves the phase as it is; the rest goes through the phases.
  cases hrole : role token with
  | text => exact hplain (congrArg Role.isPlain hrole)
  | definition payload => exact hplain (congrArg Role.isPlain hrole)
  | inclusion payload => exact hplain (congrArg Role.isPlain hrole)
  | opening b =>
    obtain ⟨rfl, rfl⟩ := Phase.next?_opening (by rw [← hrole]; exact hnext)
    rw [processToken_opening hrole, processToken_opening hrole, BranchTest.holds_inMode,
      BranchTest.holds_inMode]
    exact ⟨state.reach token, _, _, none, rfl, rfl, fun _ => hmatch.openBlock _⟩
  | branch b =>
    obtain ⟨rfl, rfl⟩ := Phase.next?_branch (by rw [← hrole]; exact hnext)
    rw [processToken_branchBlocks hrole, processToken_branchBlocks hrole, BranchTest.holds_inMode,
      BranchTest.holds_inMode]
    have hsame : (state.withBlocks c).suppressed = (state.withBlocks d).suppressed :=
      hmatch.suppressed
    -- Both models skip the test of a branch where text is suppressed.
    rw [hsame]
    split
    case isTrue h =>
      have hs : c.suppressed = true := hmatch.suppressed.trans h.2
      exact ⟨state.reach token, c, d, none, rfl, rfl, fun _ => hmatch.last_of_suppressed hs⟩
    case isFalse =>
      obtain ⟨c', d', hc, hd, hlast⟩ := hmatch.branchBlocks b (b.holds env state)
      refine ⟨state.reach token, c', d', none, ?_, ?_, fun _ => hlast⟩
      · rw [show (state.withBlocks c).conditions = c from rfl, hc]
        rfl
      · rw [show (state.withBlocks d).conditions = d from rfl, hd]
        rfl
  | ending =>
    obtain ⟨hphase, rfl⟩ := Phase.next?_ending (by rw [← hrole]; exact hnext)
    obtain ⟨hc, hd⟩ := hmatch.closeBlock hphase
    rw [processToken_ending hrole, processToken_ending hrole]
    refine ⟨state.reach token, .flat false, .scoped [], none, ?_, ?_, fun _ => .outside⟩
    · rw [show (state.withBlocks c).conditions = c from rfl, hc]
      rfl
    · rw [show (state.withBlocks d).conditions = d from rfl, hd]
      rfl

/-- Tokens that simple blocks allow for do the same in both models. -/
theorem processTokens_matches (emit emit' : State → String → Path → Step)
    (hrec : env.config.recursiveIncludes = false) (tokens : List Token) {phase final : Phase}
    (hfinal : phase.behind? tokens = some final) {c d : Conditional}
    (hmatch : Matches phase c d) (state : State) :
    Step.Matches final (processTokens (env.inMode .flat) emit (state.withBlocks c) tokens)
      (processTokens (env.inMode .scoped) emit' (state.withBlocks d) tokens) := by
  induction tokens generalizing phase c d state with
  | nil =>
    obtain rfl : phase = final := Option.some.inj hfinal
    exact ⟨state, c, d, none, rfl, rfl, fun _ => hmatch⟩
  | cons token tokens ih =>
    obtain ⟨next, hnext, hfinal⟩ : ∃ next, phase.next? (role token) = some next ∧
        next.behind? tokens = some final := by
      simpa [Phase.behind?, Option.bind_eq_some_iff] using hfinal
    obtain ⟨after, c', d', failure, hflat, hscoped, hmatch'⟩ :=
      processToken_matches emit emit' hrec hnext hmatch state
    rw [processTokens, processTokens, hflat, hscoped]
    cases failure with
    | none => exact ih hfinal (hmatch' rfl) after
    | some e => exact ⟨after, c', d', some e, rfl, rfl, fun h => absurd h (by simp)⟩

/-- Pieces with simple blocks do the same in both models. -/
theorem processPieces_matches (emit emit' : State → String → Path → Step)
    (hrec : env.config.recursiveIncludes = false) {pieces : Tokenized}
    (h : AreSimple pieces.tokens) (state : State) :
    Step.Matches .outside
      (processPieces (env.inMode .flat) emit (state.withBlocks (.flat false)) pieces)
      (processPieces (env.inMode .scoped) emit' (state.withBlocks (.scoped [])) pieces) := by
  obtain ⟨phase, hscanned, hrest⟩ : ∃ phase, Phase.outside.behind? pieces.scanned = some phase ∧
      phase.behind? pieces.rest.toList = some .outside := by
    rw [AreSimple, Tokenized.tokens, Phase.behind?_append] at h
    exact Option.bind_eq_some_iff.1 h
  obtain ⟨after, c, d, failure, hflat, hscoped, hmatch⟩ :=
    processTokens_matches emit emit' hrec pieces.scanned hscanned .outside state
  rw [processPieces, processPieces, hflat, hscoped]
  cases failure with
  | none =>
    exact processTokens_matches emit emit' hrec pieces.rest.toList hrest (hmatch rfl)
      { after with
        warnings := pieces.warning.toList.map (warningText after.location.path) ++ after.warnings }
  | some e => exact ⟨after, c, d, some e, rfl, rfl, fun h => absurd h (by simp)⟩

/-- If files are included as they are, a pass over a source with simple blocks gives the same output
and the same macros in both models, or fails in both with the same error, whatever macros and
constants there are and whatever file it is over. -/
theorem run_simple {env : Environment} (hrec : env.config.recursiveIncludes = false) {text : String}
    (h : AreSimple (Source.tokenize text).tokens) (state : State) (path : Option Path) :
    (run (env.inMode .flat) (state.withBlocks (.start .flat)) text path).outcome =
      (run (env.inMode .scoped) (state.withBlocks (.start .scoped)) text path).outcome := by
  obtain ⟨after, c, d, failure, hflat, hscoped, hmatch⟩ :=
    processPieces_matches (included (env.inMode .flat)) (included (env.inMode .scoped)) hrec h
      (state.enter env path)
  have hentered : ∀ mode : Mode, (state.withBlocks (.start mode)).enter (env.inMode mode) path =
      (state.enter env path).withBlocks (.start mode) := by
    intro mode
    cases mode <;> rfl
  rw [run_eq_runPieces, run_eq_runPieces, runPieces_eq, runPieces_eq, hentered, hentered,
    Conditional.start, Conditional.start, hflat, hscoped]
  cases failure with
  | some e => rfl
  | none =>
    cases hmatch rfl
    rfl

/-- A block whose second branch has no condition and one that is kept because of a macro that the
first defines, and then an error within a block. -/
theorem run_simple_blocks :
    AreSimple (Source.tokenize
      "#ifndef A\n#define A 1\n#elif\nx\n#endif\n#if A\ny\n#define A 2\n#endif\n").tokens ∧
    ((run (Environment.inMode ⟨{}, ⟨[], ⟨"/", []⟩, 0⟩⟩ .flat)
        ((State.start .scoped).withBlocks (.start .flat))
        "#ifndef A\n#define A 1\n#elif\nx\n#endif\n#if A\ny\n#define A 2\n#endif\n" none).outcome =
      (run (Environment.inMode ⟨{}, ⟨[], ⟨"/", []⟩, 0⟩⟩ .scoped)
        ((State.start .scoped).withBlocks (.start .scoped))
        "#ifndef A\n#define A 1\n#elif\nx\n#endif\n#if A\ny\n#define A 2\n#endif\n"
        none).outcome) :=
  ⟨by decide +kernel, run_simple rfl (by decide +kernel) (State.start .scoped) none⟩

end Pass

end Hashmark.Pass
