import Hashmark.Proofs.Pass.Correspondence

/-!
# Included files in the place of their directives

Where included files are preprocessed, a pass processes one text within another and comes back. It
does what it would do if the tokens of each included file stood in the place of the directive that
includes it, and the files of these in the place of theirs (`inlined`). Which directives those are
depends on the macros and the blocks at the moment that each is reached, so that the tokens are put
together along the pass itself. A pass over them needs no files: it comes to no directive that
includes one (`run_inlined`).
-/

namespace Hashmark

/-- The names of a table in their order, with their texts. -/
def MacroTable.definitions (table : MacroTable) : List (String × String) :=
  table.macros.map fun m => (m.name, m.value)

namespace Pass

open Source (Token Tokenized)

/-- The state in which the text of an included file is processed. -/
def State.descend (state : State) (token : Token) (inclusion : Inclusion) : State :=
  { state.read token inclusion with including := state.including ++ [inclusion.file] }

/-- Tokens that are processed from a state on, with what `inline` makes of an included file in the
place of each directive that includes one. -/
def inlineTokens (env : Environment) (emit : State → String → Path → Step)
    (inline : State → String → Path → List Token) : State → List Token → List Token
  | _, [] => []
  | state, token :: tokens =>
    let inPlace :=
      match inclusion? env state token with
      | none => [token]
      | some inclusion => inline (state.descend token inclusion) inclusion.text inclusion.file
    inPlace ++ inlineTokens env emit inline (processToken env emit state token).1 tokens

/-- The tokens of a text that is processed from a state on, with those of the included files in the
place of the directives that include them. As in `emit`, the first argument bounds how deeply files
may include one another. -/
def inlined (env : Environment) : Nat → State → String → Option Path → List Token
  | 0, _, _, _ => []
  | depth + 1, state, text, path =>
    inlineTokens env (fun state text path => emit env depth state text (some path))
      (fun state text path => inlined env depth state text (some path))
      { state with location := ⟨path, state.location.line⟩ } (Source.tokenize text).tokens

/-- The tokens of the source of a pass, with those of the included files in the place of the
directives that include them. -/
def inlinedSource (env : Environment) (state : State) (text : String) (path : Option Path) :
    List Token :=
  inlined env (depthBound env.files) (begin env.config state path) text path

/-- Any two places. -/
def Anywhere (_ _ : Location) : Prop := True

/-- A step from `t` does what leads from `s` to `after`, wherever the places are, and reads no
file. -/
structure Replays (s after t : State) (step : Step) : Prop where
  /-- It does the same. -/
  same : Step.Corresponds Anywhere s t (after, none) step
  /-- It reads no file. -/
  reads : step.1.reads = t.reads

/-- What a text leads to, if it does not fail, is replayed by the tokens that are made of it. -/
def EmitReplayed (second : Environment) (emit' : State → String → Path → Step)
    (emit : State → String → Path → Step) (inline : State → String → Path → List Token) : Prop :=
  ∀ s text path after, emit s text path = (after, none) →
    ∀ t, s.Corresponds Anywhere t →
      Replays s after t (processTokens second emit' t (inline s text path))

section Replays

variable {first second : Environment} {emit emit' : State → String → Path → Step}
  {inline : State → String → Path → List Token} {s mid after t : State}

/-- In states that correspond the same names are defined as the same texts in the same order. -/
theorem State.Corresponds.definitions_eq {places : Location → Location → Prop}
    (h : s.Corresponds places t) : s.macros.definitions = t.macros.definitions := by
  have hentries : List.Forall₂ (fun m m' : Macro => (m.name, m.value) = (m'.name, m'.value))
      s.macros.macros t.macros.macros := h.macros.imp fun m m' hm => by rw [hm.name, hm.value]
  rw [← List.forall₂_map_right_iff, ← List.forall₂_map_left_iff, List.forall₂_eq_eq_eq] at hentries
  exact hentries

/-- What is replayed does not fail. -/
theorem Replays.failure_eq {step : Step} (h : Replays s after t step) : step.2 = none := by
  have hfailures := h.same.failures
  generalize step.2 = failure at hfailures
  cases hfailures
  rfl

/-- Only the outputs of the two states matter to what is replayed, and the macros and the blocks
behind. -/
theorem Replays.congr {before : State} {step : Step} (h : Replays before mid t step)
    (hbefore : s.output = before.output) (hmacros : after.macros = mid.macros)
    (hconditions : after.conditions = mid.conditions) (houtput : after.output = mid.output) :
    Replays s after t step where
  same := {
    states := ⟨hmacros ▸ h.same.states.macros, hconditions.trans h.same.states.conditions⟩
    output := houtput ▸ hbefore ▸ h.same.output
    failures := h.same.failures }
  reads := h.reads

/-- Tokens behind others replay what comes behind it. -/
theorem Replays.append {some more : List Token}
    (h : Replays s mid t (processTokens second emit' t some))
    (hmore : ∀ t', mid.Corresponds Anywhere t' →
      Replays mid after t' (processTokens second emit' t' more)) :
    Replays s after t (processTokens second emit' t (some ++ more)) := by
  have hnone := h.failure_eq
  rw [processTokens_append]
  generalize processTokens second emit' t some = step at h hnone
  obtain ⟨t', failure⟩ := step
  obtain rfl : failure = none := hnone
  have hrest := hmore t' h.same.states
  exact ⟨h.same.trans hrest.same, hrest.reads.trans h.reads⟩

/-- A token without a failure that has no file processed in its place includes no file. -/
theorem includedName?_eq_none (hrec : first.config.recursiveIncludes = true) {token : Token}
    (hinclusion : inclusion? first s token = none)
    (hnone : (processToken first emit s token).2 = none) : includedName? s token = none := by
  by_contra hname
  obtain ⟨name, hname⟩ := Option.ne_none_iff_exists'.1 hname
  obtain ⟨hkept, payload, hrole, -⟩ := includedName?_eq_some hname
  -- The directive is live, so that the file could not be read, and the token has failed.
  rw [processToken_inclusion hrole, if_neg (Bool.eq_false_iff.1 hkept)] at hnone
  simp only [inclusion?, hrec, hkept, hrole] at hinclusion
  unfold includeFile at hnone
  simp only at hnone
  generalize readInclude first (s.reach token).location _ = result at hinclusion hnone
  cases result with
  | ok text => simp at hinclusion
  | error e => cases hnone

/-- A token that has no file processed in its place replays itself. -/
theorem processToken_replays (hrec : first.config.recursiveIncludes = true)
    (hconstants : first.config.SharesConstants second.config)
    {token : Token} (hinclusion : inclusion? first s token = none)
    (hstep : processToken first emit s token = (after, none))
    (h : s.Corresponds Anywhere t) :
    Replays s after t (processTokens second emit' t [token]) := by
  have hname := includedName?_eq_none hrec hinclusion (congrArg Prod.snd hstep)
  have hsame := processToken_corresponds hconstants emit emit' h trivial hname
  have hname' : includedName? t token = none :=
    (includedName?_congr h.conditions token).symm.trans hname
  have hframe := processToken_frame second emit' hname'
  rw [hstep] at hsame
  have hsingle : processTokens second emit' t [token] = processToken second emit' t token := by
    rw [processTokens]
    generalize processToken second emit' t token = step
    obtain ⟨state, failure⟩ := step
    cases failure <;> rfl
  rw [hsingle]
  obtain ⟨_, _, _, hafter⟩ := hframe
  exact ⟨hsame, by rw [hafter]; rfl⟩

/-- A token that has a file processed in its place is replayed by what is made of the file. -/
theorem processToken_inclusion_replays (hemit : EmitReplayed second emit' emit inline)
    {token : Token} {inclusion : Inclusion}
    (hinclusion : inclusion? first s token = some inclusion)
    (hstep : processToken first emit s token = (after, none))
    (h : s.Corresponds Anywhere t) :
    Replays s after t (processTokens second emit' t
      (inline (s.descend token inclusion) inclusion.text inclusion.file)) := by
  by_cases hmem : inclusion.file ∈ s.including
  · rw [processToken_repeated emit hinclusion hmem] at hstep
    cases congrArg Prod.snd hstep
  have hdescend : (s.descend token inclusion).Corresponds Anywhere t :=
    ⟨h.macros, h.conditions⟩
  have hfile := hemit (s.descend token inclusion) inclusion.text inclusion.file
  have hread : { s.read token inclusion with
      including := s.including ++ [inclusion.file] } = s.descend token inclusion := rfl
  rw [processToken_entered emit hinclusion hmem, hread] at hstep
  generalize emit (s.descend token inclusion) inclusion.text inclusion.file = step at hfile hstep
  obtain ⟨left, failure⟩ := step
  cases failure with
  | some e => cases congrArg Prod.snd hstep
  | none =>
    -- Leaving the file changes nothing that is replayed.
    obtain rfl := congrArg Prod.fst hstep
    exact (hfile left rfl t hdescend).congr rfl rfl rfl rfl

/-- Tokens without a failure are replayed by those with the included files in their place. -/
theorem inlineTokens_replays (hrec : first.config.recursiveIncludes = true)
    (hconstants : first.config.SharesConstants second.config)
    (hemit : EmitReplayed second emit' emit inline) {tokens : List Token}
    (hstep : processTokens first emit s tokens = (after, none))
    (h : s.Corresponds Anywhere t) :
    Replays s after t (processTokens second emit' t (inlineTokens first emit inline s tokens)) := by
  induction tokens generalizing s t with
  | nil =>
    obtain rfl : s = after := congrArg Prod.fst hstep
    exact ⟨.silent h rfl rfl, rfl⟩
  | cons token tokens ih =>
    rw [processTokens] at hstep
    rw [inlineTokens]
    cases htoken : processToken first emit s token with
    | mk mid failure =>
      rw [htoken] at hstep
      cases failure with
      | some e => cases congrArg Prod.snd hstep
      | none =>
        have hmore : ∀ t', mid.Corresponds Anywhere t' → Replays mid after t'
            (processTokens second emit' t' (inlineTokens first emit inline mid tokens)) :=
          fun t' h' => ih hstep h'
        cases hinclusion : inclusion? first s token with
        | none => exact (processToken_replays hrec hconstants hinclusion htoken h).append hmore
        | some inclusion =>
          exact (processToken_inclusion_replays hemit hinclusion htoken h).append hmore

end Replays

/-- A text without a failure is replayed by its tokens with the included files in their place,
however deeply files include one another. -/
theorem inlined_replays {first second : Environment} (hrec : first.config.recursiveIncludes = true)
    (hconstants : first.config.SharesConstants second.config)
    (emit' : State → String → Path → Step) (depth : Nat) {s after t : State} {text : String}
    {path : Option Path} (hstep : emit first depth s text path = (after, none))
    (h : s.Corresponds Anywhere t) :
    Replays s after t (processTokens second emit' t (inlined first depth s text path)) := by
  induction depth generalizing s after t text path with
  | zero => cases congrArg Prod.snd hstep
  | succ depth ih =>
    let inner := fun state text path => emit first depth state text (some path)
    have hinner : EmitResembles Eq inner :=
      fun _ _ h hline text path =>
        emit_resembles (fun _ => rfl) first depth h hline text (some path)
    have hreplayed : EmitReplayed second emit' inner
        fun state text path => inlined first depth state text (some path) :=
      fun _ _ _ _ hstep _ h => ih hstep h
    -- What is done for the pieces of the text is what is done for its tokens.
    have hpieces := processPieces_resembles_tokens first hinner
      { s with location := ⟨path, s.location.line⟩ } (Source.tokenize text)
    have hemit : emit first (depth + 1) s text path =
        ({ (processPieces first inner { s with location := ⟨path, s.location.line⟩ }
            (Source.tokenize text)).1 with location := s.location },
          (processPieces first inner { s with location := ⟨path, s.location.line⟩ }
            (Source.tokenize text)).2) := rfl
    rw [hemit] at hstep
    obtain ⟨rfl, hnone⟩ := Prod.mk.inj hstep
    have hfailure := hpieces.failure_eq
    rw [hnone] at hfailure
    have hentered : State.Corresponds Anywhere { s with location := ⟨path, s.location.line⟩ } t :=
      ⟨h.macros, h.conditions⟩
    obtain ⟨done, hdone⟩ : ∃ done, processTokens first inner
        { s with location := ⟨path, s.location.line⟩ } (Source.tokenize text).tokens =
        (done, none) := ⟨_, Prod.ext rfl hfailure.symm⟩
    rw [hdone] at hpieces
    have hreplays := inlineTokens_replays hrec hconstants hreplayed hdone hentered
    exact hreplays.congr rfl hpieces.1.macros.eq hpieces.1.conditions hpieces.1.output

/-- A pass that does not fail has processed its source and left no block open. -/
theorem of_finish_eq {path : Option Path} {step : Step} {after : State}
    (h : finish path step = (after, none)) :
    step = (after, none) ∧ after.conditions.finish = none := by
  obtain ⟨state, failure⟩ := step
  cases failure with
  | some e => cases congrArg Prod.snd h
  | none =>
    rw [finish] at h
    cases hfinish : state.conditions.finish with
    | some e =>
      rw [hfinish] at h
      cases congrArg Prod.snd h
    | none =>
      rw [hfinish] at h
      obtain rfl : state = after := congrArg Prod.fst h
      exact ⟨rfl, hfinish⟩

/-- Included files are processed as if their tokens stood in the place of the directives. A pass
that preprocesses included files and does not fail does what a pass over the tokens of the source
does that has those of the included files in the place of the directives that include them: the
output is the same, the blocks are, and so are the names and the texts of the macros in their order.
That pass reads no file, so that it does so whatever files there are, and whether or not it would
preprocess included ones. -/
theorem run_inlined {env : Environment} {state after : State} {text : String} {path : Option Path}
    (hrec : env.config.recursiveIncludes = true) (h : run env state text path = (after, none))
    (files : FileTree) (recursiveIncludes : Bool) :
    let env' : Environment := ⟨{ env.config with recursiveIncludes }, files⟩
    let pieces : Tokenized := ⟨inlinedSource env state text path, none, none⟩
    ∃ after', runPieces env' state pieces path = (after', none) ∧
      after'.output = after.output ∧ after'.conditions = after.conditions ∧
      after'.macros.definitions = after.macros.definitions ∧ after'.reads = state.reads := by
  intro env' pieces
  obtain ⟨hemit, hfinish⟩ := of_finish_eq h
  have hanywhere : ∀ place, Anywhere place place := fun _ => trivial
  have hrefl := State.Corresponds.refl hanywhere (state.enter env' path)
  have henter : (begin env.config state path).Corresponds Anywhere (state.enter env' path) :=
    ⟨hrefl.macros, rfl⟩
  have hconstants : env.config.SharesConstants env'.config := .of_eq rfl rfl rfl
  have hreplays : Replays (begin env.config state path) after (state.enter env' path)
      (processTokens env' (included env') (state.enter env' path) pieces.scanned) :=
    inlined_replays hrec hconstants (included env') (depthBound env.files) hemit henter
  obtain ⟨last, hlast⟩ : ∃ last, processTokens env' (included env') (state.enter env' path)
      pieces.scanned = (last, none) := ⟨_, Prod.ext rfl hreplays.failure_eq⟩
  have hpieces : processPieces env' (included env') (state.enter env' path) pieces =
      (last, none) := by
    unfold processPieces
    rw [hlast]
    rfl
  -- Both passes start with an empty output, and what they add to it is the same.
  rw [hlast] at hreplays
  obtain ⟨⟨hstates, ⟨added, houtput, houtput'⟩, -⟩, hreads⟩ := hreplays
  have hclosed : last.conditions.finish = none := hstates.conditions ▸ hfinish
  refine ⟨{ last with location := state.location }, ?_, ?_, hstates.conditions.symm,
    hstates.definitions_eq.symm, hreads⟩
  · rw [runPieces_eq, hpieces]
    simp only [finish, hclosed]
  · exact houtput'.trans houtput.symm

/-- A block that an included file opens and the source closes. -/
theorem run_inlined_block :
    let files : FileTree :=
      ⟨[(["b"], .file (Text.Encoding.encodeUtf8 "#define W '2'\n#if W\n") 0)], ⟨"/", []⟩, 0⟩
    let env : Environment := ⟨{ recursiveIncludes := true }, files⟩
    let state := State.start env.config.mode
    let source := "#include 'b'\nkept\n#else\nlost\n#endif\n"
    let pieces : Tokenized := ⟨inlinedSource env state source none, none, none⟩
    let env' : Environment := ⟨{ env.config with recursiveIncludes := false }, ⟨[], ⟨"/", []⟩, 0⟩⟩
    env.config.recursiveIncludes = true ∧ (run env state source none).2 = none ∧
    String.join (pieces.tokens.map Token.text) =
      "#define W '2'\n#if W\n\nkept\n#else\nlost\n#endif\n" ∧
    ∃ after', runPieces env' state pieces none = (after', none) ∧
      after'.output = "\n\n\nkept\n\n" ∧ after'.macros.definitions = [("W", "2")] := by
  intro files env state source pieces env'
  have hnone : (run env state source none).2 = none := by decide +kernel
  have hwhole : (run env state source none).1.output = "\n\n\nkept\n\n" := by decide +kernel
  have hmacros : (run env state source none).1.macros.definitions = [("W", "2")] := by
    decide +kernel
  have htext : String.join (pieces.tokens.map Token.text) =
      "#define W '2'\n#if W\n\nkept\n#else\nlost\n#endif\n" := by decide +kernel
  obtain ⟨after, hrun⟩ : ∃ after, run env state source none = (after, none) :=
    ⟨_, Prod.ext rfl hnone⟩
  obtain ⟨after', hrun', houtput, -, hdefinitions, -⟩ := run_inlined rfl hrun env'.files false
  rw [hrun] at hwhole hmacros
  exact ⟨rfl, hnone, htext, after', hrun', houtput.trans hwhole, hdefinitions.trans hmacros⟩

end Pass

end Hashmark
