import Hashmark.Proofs.FileTree.Text
import Hashmark.Proofs.Pass.Step

/-!
# Balance of blocks

Whether the blocks of a source match can be seen without running a pass: `imbalance?` counts the
blocks that are open from one token to the next. `runPieces_balance` says that a scoped pass fails
for its blocks exactly as that count does, with the same directive, number, and line. Macros,
constants, files, and the branches that are kept have no say in it, except that a definition or an
include may end the pass before.

The count is that of the frames of the pass: each token changes both alike, although a branch that
is passed over changes frames, and a directive without its expression is an ordinary comment there
(`processToken_follows`).
-/

namespace Hashmark.Pass

open Source (Token Tokenized)

/-- What is wrong with the blocks of tokens, and on which line, when `depth` blocks are open before
them: a directive outside any block, or blocks that are open at the end, for which there is no
line. -/
def imbalance? (depth : Nat) : List Token → Option (Imbalance × Int)
  | [] => if depth = 0 then none else some (.unterminated depth, 0)
  | token :: tokens =>
    match role token with
    | .opening _ => imbalance? (depth + 1) tokens
    | .branch b =>
      if depth = 0 then some (.unmatched b.directive, token.line) else imbalance? depth tokens
    | .ending =>
      if depth = 0 then some (.unmatched "#endif", token.line) else imbalance? (depth - 1) tokens
    | _ => imbalance? depth tokens

/-- The failure of a pass over the file at `path`, or over no file, for an imbalance on a line. -/
def imbalanceFailure (path : Option Path) (fault : Imbalance × Int) : Failure :=
  .at (.unbalanced fault.1) ⟨path, fault.2⟩

/-- A failure that a definition or an include ends a pass with. -/
def interrupts : Failure → Bool
  | .fault ⟨.redefinition _, _⟩ => true
  | .fault ⟨.includeNotFound _, _⟩ => true
  | .fault ⟨.circularInclude _, _⟩ => true
  | .file _ => true
  | .undecodable _ => true
  | .unknownEncoding _ => true
  | _ => false

/-- The outcome of processing tokens follows the count of open blocks: as many frames are left as
the count says, or the failure is that of the count, or a definition or an include has ended the
pass. -/
def Follows (path : Option Path) (depth : Nat) (tokens : List Token) : Step → Prop
  | (state, none) =>
    ∃ frames, state.conditions = .scoped frames ∧ state.location.path = path ∧
      ∀ rest, imbalance? depth (tokens ++ rest) = imbalance? frames.length rest
  | (_, some e) =>
    interrupts e = true ∨ ∃ fault, e = imbalanceFailure path fault ∧
      ∀ rest, imbalance? depth (tokens ++ rest) = some fault

section Follows

variable {env : Environment} (emit : State → String → Path → Step)

/-- Defining a macro changes the macros only, or fails as a definition. -/
theorem defineMacro_cases (state : State) (payload : String) :
    (∃ macros, defineMacro state payload = ({ state with macros }, .ok true)) ∨
      ∃ e, interrupts e = true ∧ defineMacro state payload = (state, .error e) := by
  simp only [defineMacro, MacroTable.define]
  generalize Text.cut ' ' payload.toList = parts
  by_cases hc : state.macros.contains (String.ofList parts.1) = true
  · rw [if_pos hc]
    exact .inr ⟨_, rfl, rfl⟩
  · rw [if_neg hc]
    exact .inl ⟨_, rfl⟩

/-- What cannot be read as an include ends a pass as an include. -/
theorem interrupts_of_readInclude {location : Location} {target : Path} {e : Failure}
    (h : readInclude env location target = .error e) : interrupts e = true := by
  unfold readInclude at h
  cases hr : env.files.readText target env.config with
  | ok text => simp [hr] at h
  | error reason =>
    rw [hr] at h
    cases FileTree.unreadable_of_readText hr with
    | name =>
      obtain rfl := Except.error.inj h
      rfl
    | file =>
      simp only at h
      split at h <;> obtain rfl := Except.error.inj h <;> rfl
    | encoding =>
      obtain rfl := Except.error.inj h
      rfl
    | @bytes _ _ error =>
      cases error <;> obtain rfl := Except.error.inj h <;> rfl

/-- Including a file as it is leaves the blocks and the file at hand alone, or fails as an
include. -/
theorem includeFile_cases (hrec : env.config.recursiveIncludes = false) (state : State)
    (payload : String) :
    (∃ reads text, includeFile env emit state payload =
      ({ state with reads := reads, output := state.output ++ text }, .ok true)) ∨
      ∃ reads e, interrupts e = true ∧
        includeFile env emit state payload = ({ state with reads := reads }, .error e) := by
  unfold includeFile
  simp only [hrec]
  cases h : readInclude env state.location
      (includeTarget env state (stripWrapping (Text.strip payload))) with
  | error e => exact .inr ⟨_, e, interrupts_of_readInclude h, rfl⟩
  | ok text => exact .inl ⟨_, text, rfl⟩

/-- Processing a token follows the count of open blocks. -/
theorem processToken_follows (hrec : env.config.recursiveIncludes = false) {state : State}
    {frames : List Frame} (hs : state.conditions = .scoped frames) (token : Token) :
    Follows state.location.path frames.length [token] (processToken env emit state token) := by
  -- A token without a part in the blocks may end the pass, and otherwise changes no frame.
  have keeps : ∀ s : State, s.conditions = state.conditions →
      s.location.path = state.location.path →
      (∀ rest, imbalance? frames.length (token :: rest) = imbalance? frames.length rest) →
      Follows state.location.path frames.length [token] (s, none) :=
    fun s hc hp hcount => ⟨frames, hc.trans hs, hp, hcount⟩
  cases hr : role token with
  | text =>
    rw [processToken_text hr]
    unfold copy
    split
    · exact keeps _ rfl rfl fun rest => by simp only [imbalance?, hr]
    · exact keeps _ rfl rfl fun rest => by simp only [imbalance?, hr]
  | definition payload =>
    rw [processToken_definition hr]
    split
    · exact keeps _ rfl rfl fun rest => by simp only [imbalance?, hr]
    · obtain ⟨macros, h⟩ | ⟨e, he, h⟩ := defineMacro_cases (state.reach token) payload
      · rw [h]
        exact keeps _ rfl rfl fun rest => by simp only [imbalance?, hr]
      · rw [h]
        exact .inl he
  | inclusion payload =>
    rw [processToken_inclusion hr]
    split
    · exact keeps _ rfl rfl fun rest => by simp only [imbalance?, hr]
    · have hi := includeFile_cases emit hrec (state.reach token) payload
      generalize includeFile env emit (state.reach token) payload = handled at hi
      obtain ⟨reads, text, h⟩ | ⟨reads, e, he, h⟩ := hi
      · rw [h]
        exact keeps _ rfl rfl fun rest => by simp only [imbalance?, hr]
      · rw [h]
        exact .inl he
  | opening b =>
    rw [processToken_opening hr, hs]
    exact ⟨_, rfl, rfl, fun rest => by simp only [List.singleton_append, imbalance?, hr]; rfl⟩
  | branch b =>
    cases frames with
    | nil =>
      rw [processToken_branch_unmatched hr hs]
      exact .inr ⟨(.unmatched b.directive, token.line), rfl, fun rest => by
        simp [imbalance?, hr]⟩
    | cons frame frames =>
      rw [processToken_branch hr hs]
      exact ⟨_, rfl, rfl, fun rest => by simp [imbalance?, hr]⟩
  | ending =>
    cases frames with
    | nil =>
      rw [processToken_ending_unmatched hr hs]
      exact .inr ⟨(.unmatched "#endif", token.line), rfl, fun rest => by simp [imbalance?, hr]⟩
    | cons frame frames =>
      rw [processToken_ending_matched hr hs]
      exact ⟨_, rfl, rfl, fun rest => by simp [imbalance?, hr]⟩

/-- Processing tokens one after another follows the count of open blocks. -/
theorem processTokens_follows (hrec : env.config.recursiveIncludes = false) {state : State}
    {frames : List Frame} (hs : state.conditions = .scoped frames) (tokens : List Token) :
    Follows state.location.path frames.length tokens (processTokens env emit state tokens) := by
  induction tokens generalizing state frames with
  | nil => exact ⟨frames, hs, rfl, fun _ => rfl⟩
  | cons token tokens ih =>
    have htoken := processToken_follows emit hrec hs token
    rw [processTokens]
    generalize processToken env emit state token = step at htoken
    obtain ⟨s, failure⟩ := step
    cases failure with
    | some e =>
      obtain he | ⟨fault, he, hcount⟩ := htoken
      · exact .inl he
      · exact .inr ⟨fault, he, fun rest => hcount (tokens ++ rest)⟩
    | none =>
      obtain ⟨frames', hs', hp', hcount⟩ := htoken
      have hcount' : ∀ rest, imbalance? frames.length (token :: tokens ++ rest) =
          imbalance? frames'.length (tokens ++ rest) := fun rest => hcount (tokens ++ rest)
      have htokens := ih hs'
      rw [hp'] at htokens
      simp only
      generalize processTokens env emit s tokens = step at htokens ⊢
      obtain ⟨after, failure⟩ := step
      cases failure with
      | some e =>
        obtain he | ⟨fault, he, hrest⟩ := htokens
        · exact .inl he
        · exact .inr ⟨fault, he, fun rest => (hcount' rest).trans (hrest rest)⟩
      | none =>
        obtain ⟨frames'', hs'', hp'', hrest⟩ := htokens
        exact ⟨frames'', hs'', hp'', fun rest => (hcount' rest).trans (hrest rest)⟩

/-- Processing the pieces of a source follows the count of open blocks. -/
theorem processPieces_follows (hrec : env.config.recursiveIncludes = false) {state : State}
    {frames : List Frame} (hs : state.conditions = .scoped frames) (pieces : Tokenized) :
    Follows state.location.path frames.length pieces.tokens
      (processPieces env emit state pieces) := by
  have hscanned := processTokens_follows emit hrec hs pieces.scanned
  unfold processPieces Tokenized.tokens
  generalize processTokens env emit state pieces.scanned = step at hscanned ⊢
  match step with
  | (s, some e) =>
    obtain he | ⟨fault, he, hcount⟩ := hscanned
    · exact .inl he
    · exact .inr ⟨fault, he, fun rest => by rw [List.append_assoc]; exact hcount _⟩
  | (s, none) =>
    obtain ⟨frames', hs', hp', hcount⟩ := hscanned
    simp only
    -- The warning between the pieces changes neither the blocks nor the place.
    generalize hw : { s with
      warnings := pieces.warning.toList.map (warningText s.location.path) ++ s.warnings } = s'
    have hsw : s'.conditions = .scoped frames' := by rw [← hw]; exact hs'
    have hpw : s'.location.path = state.location.path := by rw [← hw]; exact hp'
    have hrest := processTokens_follows emit hrec hsw pieces.rest.toList
    rw [hpw] at hrest
    generalize processTokens env emit s' pieces.rest.toList = step at hrest ⊢
    match step with
    | (s, some e) =>
      obtain he | ⟨fault, he, hrest⟩ := hrest
      · exact .inl he
      · exact .inr ⟨fault, he, fun rest => by
          rw [List.append_assoc, hcount, hrest]⟩
    | (s, none) =>
      obtain ⟨frames'', hs'', hp'', hrest⟩ := hrest
      exact ⟨frames'', hs'', hp'', fun rest => by rw [List.append_assoc, hcount, hrest]⟩

end Follows

/-- The blocks that are open at the end of a pass are those that the count finds, wherever the pass
says that it is. -/
theorem finish_follows {path : Option Path} {tokens : List Token} {state : State}
    {failure : Option Failure} (h : Follows path 0 tokens (state, failure)) (location : Location) :
    (∃ e, (finish path ({ state with location }, failure)).2 = some e ∧ interrupts e = true) ∨
      (finish path ({ state with location }, failure)).2 =
        (imbalance? 0 tokens).map (imbalanceFailure path) := by
  cases failure with
  | some e =>
    obtain he | ⟨fault, rfl, hcount⟩ := h
    · exact .inl ⟨e, rfl, he⟩
    · have hfault := hcount []
      rw [List.append_nil] at hfault
      rw [hfault]
      exact .inr rfl
  | none =>
    obtain ⟨frames, hs, -, hcount⟩ := h
    have hopen := hcount []
    rw [List.append_nil] at hopen
    right
    rw [hopen, finish]
    simp only [hs]
    cases frames with
    | nil => rfl
    | cons frame frames => rfl

/-- A scoped pass ends with the failure of the count of open blocks, or succeeds if there is none,
unless a definition or an include has ended it. -/
theorem runPieces_balance {env : Environment} (hrec : env.config.recursiveIncludes = false)
    {state : State} (hmode : state.conditions.mode = .scoped) (pieces : Tokenized)
    (path : Option Path) :
    (∃ e, (runPieces env state pieces path).2 = some e ∧ interrupts e = true) ∨
      (runPieces env state pieces path).2 =
        (imbalance? 0 pieces.tokens).map (imbalanceFailure path) := by
  generalize hstart : begin env.config state path = start
  have hs : start.conditions = .scoped [] := by
    rw [← hstart]
    exact congrArg Conditional.start hmode
  unfold runPieces
  rw [hstart]
  have hentered :
      ({ start with location := ⟨path, start.location.line⟩ } : State).conditions = .scoped [] := hs
  exact finish_follows (processPieces_follows _ hrec hentered pieces) start.location

/-- Two scoped passes over a source that neither a definition nor an include ends fail alike for its
blocks, whatever macros, constants, files and earlier passes they depend on: each fails exactly when
the count of open blocks does, with the failure that the count gives, and succeeds otherwise. -/
theorem run_imbalance_eq {env₁ env₂ : Environment}
    (hrec₁ : env₁.config.recursiveIncludes = false) (hrec₂ : env₂.config.recursiveIncludes = false)
    {state₁ state₂ : State} (hmode₁ : state₁.conditions.mode = .scoped)
    (hmode₂ : state₂.conditions.mode = .scoped) (text : String) (path : Option Path)
    (hend₁ : ∀ e, (run env₁ state₁ text path).2 = some e → interrupts e = false)
    (hend₂ : ∀ e, (run env₂ state₂ text path).2 = some e → interrupts e = false) :
    (run env₁ state₁ text path).2 = (run env₂ state₂ text path).2 ∧
      (run env₁ state₁ text path).2 =
        (imbalance? 0 (Source.tokenize text).tokens).map (imbalanceFailure path) := by
  rw [run_eq_runPieces] at hend₁ hend₂ ⊢
  rw [run_eq_runPieces]
  have resolve : ∀ {env state}, env.config.recursiveIncludes = false →
      state.conditions.mode = .scoped →
      (∀ e, (runPieces env state (Source.tokenize text) path).2 = some e → interrupts e = false) →
      (runPieces env state (Source.tokenize text) path).2 =
        (imbalance? 0 (Source.tokenize text).tokens).map (imbalanceFailure path) := by
    intro env state hrec hmode hend
    obtain ⟨e, he, hinterrupts⟩ | h := runPieces_balance hrec hmode (Source.tokenize text) path
    · rw [hend e he] at hinterrupts
      exact absurd hinterrupts Bool.false_ne_true
    · exact h
  exact ⟨(resolve hrec₁ hmode₁ hend₁).trans (resolve hrec₂ hmode₂ hend₂).symm,
    resolve hrec₁ hmode₁ hend₁⟩

/-- A directive behind the last block fails on its line whether or not the macro that the block asks
for is defined. -/
theorem run_imbalance_stray_otherwise :
    (run ⟨{ defines := [("A", "1")] }, ⟨[], ⟨"/", []⟩, 0⟩⟩ (State.start .scoped)
        "#ifdef A\n#elif\n#endif\n#else\n" none).2 =
      (run ⟨{}, ⟨[], ⟨"/", []⟩, 0⟩⟩ (State.start .scoped)
        "#ifdef A\n#elif\n#endif\n#else\n" none).2 ∧
    (run ⟨{ defines := [("A", "1")] }, ⟨[], ⟨"/", []⟩, 0⟩⟩ (State.start .scoped)
        "#ifdef A\n#elif\n#endif\n#else\n" none).2 =
      (imbalance? 0 (Source.tokenize "#ifdef A\n#elif\n#endif\n#else\n").tokens).map
        (imbalanceFailure none) := by
  refine run_imbalance_eq rfl rfl rfl rfl _ none ?_ ?_
  · intro e he
    have h : (run ⟨{ defines := [("A", "1")] }, ⟨[], ⟨"/", []⟩, 0⟩⟩ (State.start .scoped)
        "#ifdef A\n#elif\n#endif\n#else\n" none).2 =
          some (.at (.unbalanced (.unmatched "#else")) ⟨none, 4⟩) := by decide +kernel
    rw [h] at he
    obtain rfl := Option.some.inj he
    rfl
  · intro e he
    have h : (run ⟨{}, ⟨[], ⟨"/", []⟩, 0⟩⟩ (State.start .scoped)
        "#ifdef A\n#elif\n#endif\n#else\n" none).2 =
          some (.at (.unbalanced (.unmatched "#else")) ⟨none, 4⟩) := by decide +kernel
    rw [h] at he
    obtain rfl := Option.some.inj he
    rfl

end Hashmark.Pass
