import Hashmark.Proofs.Pass.Correspondence
import Hashmark.Proofs.Pass.Moment

/-!
# Passes that include files as they are

Where included files are not preprocessed, a pass can be described before any file is read: it
produces pieces of text, with the texts of certain files between them, and comes to certain macros
and blocks, or to a failure (`outline`). The outline is computed from the options and the source
alone. Whatever the files hold, the pass fills their texts in and does nothing else with them
(`run_verbatim`).
-/

namespace Hashmark.Pass

open Source (Token Tokenized)

/-- Where the file to include is. -/
inductive Target where
  /-- At a path. -/
  | at (path : Path)
  /-- At a path from the working directory. -/
  | fromHere (path : Path)
  deriving DecidableEq, Repr

/-- The path of a target, given the working directory. -/
def Target.path (here : Path) : Target → Path
  | .at path => path
  | .fromHere path => here.join path

/-- Where a file of this name is looked for from another file, or from a source that is no file. -/
def Target.ofName (config : Config) (file : Option Path) (name : String) : Target :=
  if (Path.ofText name).isAbsolute then .at (Path.ofText name)
  else
    match file, config.baseDirectory with
    | some file, _ => .at (file.parent.join (Path.ofText name))
    | none, some directory => .at (directory.join (Path.ofText name))
    | none, none => .fromHere (Path.ofText name)

/-- A piece of a template. -/
inductive Piece where
  /-- A text. -/
  | text (text : String)
  /-- The text of a file. -/
  | file (target : Target)
  deriving DecidableEq, Repr

/-- The text of the file at a target. -/
def Target.read (env : Environment) (target : Target) : Except Failure String :=
  env.files.readText (target.path env.files.here) env.config

/-- The text of a piece. A file that cannot be read has none. -/
def Piece.content (env : Environment) : Piece → String
  | .text words => words
  | .file target => (target.read env).toOption.getD ""

/-- The text of a template. -/
def fill (env : Environment) : List Piece → String
  | [] => ""
  | piece :: pieces => piece.content env ++ fill env pieces

/-- What a pass produces and comes to, but for the texts of files. -/
structure Outline where
  /-- The output. -/
  template : List Piece
  /-- The state at the end, but for the output, and the failure if there is one. -/
  step : Step

/-- The options where there are no files. -/
def withoutFiles (config : Config) : Environment :=
  ⟨config, ⟨[], ⟨"/", []⟩, 0⟩⟩

/-- The outline of processing tokens. A token that includes a file is the place of the text of the
file; any other token adds what it adds to an empty output. -/
def outlineTokens (config : Config) : State → List Token → Outline
  | state, [] => ⟨[], (state, none)⟩
  | state, token :: tokens =>
    match includedName? state token with
    | some name =>
      let rest := outlineTokens config (state.reach token) tokens
      ⟨.file (.ofName config state.location.path name) :: rest.template, rest.step⟩
    | none =>
      match processToken (withoutFiles config) Moment.noFile { state with output := "" } token with
      | (after, some e) => ⟨[.text after.output], (after, some e)⟩
      | (after, none) =>
        let rest := outlineTokens config after tokens
        ⟨.text after.output :: rest.template, rest.step⟩

/-- The outline of a pass over a text. -/
def outline (config : Config) (state : State) (text : String) (path : Option Path) : Outline :=
  let tokens := (Source.tokenize text).tokens
  let whole := outlineTokens config (state.enter (withoutFiles config) path) tokens
  ⟨whole.template, finish path whole.step⟩

/-- A step from `s` fills the template of an outline in and comes to what the outline says. -/
structure Outline.Filled (env : Environment) (s : State) (o : Outline) (step : Step) : Prop where
  /-- The output is that of the template. -/
  output : step.1.output = s.output ++ fill env o.template
  /-- The macros are those of the outline. -/
  macros : step.1.macros = o.step.1.macros
  /-- The blocks are those of the outline. -/
  conditions : step.1.conditions = o.step.1.conditions
  /-- The failure is that of the outline. -/
  failure : step.2 = o.step.2

/-- A failure is that of a template with a file that cannot be included. -/
def Misses (env : Environment) (template : List Piece) (failure : Option Failure) : Prop :=
  ∃ target location e, .file target ∈ template ∧
    readInclude env location (target.path env.files.here) = .error e ∧ failure = some e

section Outline

variable {env : Environment} {emit : State → String → Path → Step} {s t : State}

/-- The place of a name in an include directive is that of its target. -/
theorem includeTarget_eq (env : Environment) (state : State) (name : String) :
    includeTarget env state name =
      (Target.ofName env.config state.location.path name).path env.files.here := by
  unfold includeTarget Target.ofName
  simp only
  split
  · rfl
  · cases state.location.path with
    | some file => rfl
    | none => cases env.config.baseDirectory <;> rfl

/-- Where included files are not preprocessed, a token that includes a file adds its text, or fails
if the file cannot be included. -/
theorem processToken_includedName? (hrec : env.config.recursiveIncludes = false) {token : Token}
    {name : String} (h : includedName? s token = some name) :
    let target := Target.ofName env.config s.location.path name
    let read : State := { s.reach token with reads := target.path env.files.here :: s.reads }
    processToken env emit s token =
      match readInclude env (s.reach token).location (target.path env.files.here) with
      | .ok text => (read.append text, none)
      | .error e => (read, some e) := by
  obtain ⟨hkept, payload, hrole, rfl⟩ := includedName?_eq_some h
  have htarget := includeTarget_eq env (s.reach token) (stripWrapping (Text.strip payload))
  rw [processToken_inclusion hrole, if_neg (Bool.eq_false_iff.1 hkept)]
  unfold includeFile
  simp only [htarget, hrec]
  generalize hread : readInclude env (s.reach token).location _ = result
  have hread' : readInclude env (s.reach token).location
      ((Target.ofName env.config s.location.path (stripWrapping (Text.strip payload))).path
        env.files.here) = result := hread
  simp only [hread']
  cases result <;> rfl

/-- The text of a file that is included is that of the piece. -/
theorem content_of_readInclude {location : Location} {target : Target} {text : String}
    (h : readInclude env location (target.path env.files.here) = .ok text) :
    (Piece.file target).content env = text := by
  rw [Piece.content, Target.read, readText_of_readInclude h]
  rfl

/-- A template begins with what is filled in first. -/
theorem Outline.Filled.cons {o : Outline} {step : Step} {after : State} {piece : Piece}
    (h : o.Filled env after step) (hafter : after.output = s.output ++ piece.content env) :
    Outline.Filled env s ⟨piece :: o.template, o.step⟩ step where
  output := by rw [h.output, hafter, fill, String.append_assoc]
  macros := h.macros
  conditions := h.conditions
  failure := h.failure

/-- What a template misses it misses behind another piece. -/
theorem Misses.cons {template : List Piece} {failure : Option Failure}
    (h : Misses env template failure) (piece : Piece) : Misses env (piece :: template) failure := by
  obtain ⟨target, location, e, hmem, hread, hfailure⟩ := h
  exact ⟨target, location, e, List.mem_cons_of_mem _ hmem, hread, hfailure⟩

/-- Tokens fill their outline in, or there is a file that they cannot include. The outline may be
that of another state with the same macros and blocks at the same place. -/
theorem processTokens_outline (emit : State → String → Path → Step)
    (hrec : env.config.recursiveIncludes = false) (h : s.Corresponds Eq t)
    (hlocation : s.location = t.location) (tokens : List Token) :
    (outlineTokens env.config t tokens).Filled env s (processTokens env emit s tokens) ∨
      Misses env (outlineTokens env.config t tokens).template
        (processTokens env emit s tokens).2 := by
  induction tokens generalizing s t with
  | nil =>
    refine .inl ⟨?_, h.macros_eq, h.conditions, rfl⟩
    simp [processTokens, outlineTokens, fill]
  | cons token tokens ih =>
    have hline : (s.reach token).location = (t.reach token).location := by
      simp only [State.reach, hlocation]
    have hcongr := includedName?_congr h.conditions token
    rw [processTokens, outlineTokens]
    cases hname : includedName? t token with
    | some name =>
      -- The text of the file goes to the output; otherwise the states stay as alike as they were.
      rw [hname] at hcongr
      rw [processToken_includedName? hrec hcongr, hlocation]
      cases hread : readInclude env (s.reach token).location
          ((Target.ofName env.config t.location.path name).path env.files.here) with
      | error e => exact .inr ⟨_, _, e, List.mem_cons_self, hread, rfl⟩
      | ok text =>
        have hafter : ∀ reads, (State.append { s.reach token with reads } text).Corresponds Eq
            (t.reach token) := fun _ => ⟨h.macros, h.conditions⟩
        refine (ih (hafter _) hline).imp (fun hfilled => hfilled.cons ?_) fun hmiss => hmiss.cons _
        rw [content_of_readInclude hread]
        rfl
    | none =>
      rw [hname] at hcongr
      -- A token that includes no file does the same in both states, and what it outputs is a piece
      -- of the outline.
      have hempty : s.Corresponds Eq { t with output := "" } := ⟨h.macros, h.conditions⟩
      have hconstants : env.config.SharesConstants (withoutFiles env.config).config :=
        .of_eq rfl rfl rfl
      have hstep := processToken_corresponds hconstants emit Moment.noFile hempty hline hcongr
      have hframe := processToken_frame env emit hcongr
      have hname' : includedName? { t with output := "" } token = none := hname
      have hframe' := processToken_frame (withoutFiles env.config) Moment.noFile hname'
      generalize processToken env emit s token = step at hstep hframe ⊢
      generalize
        processToken (withoutFiles env.config) Moment.noFile { t with output := "" } token = step'
        at hstep hframe' ⊢
      obtain ⟨after, failure⟩ := step
      obtain ⟨after', failure'⟩ := step'
      obtain ⟨text, houtput, houtput'⟩ := hstep.output
      obtain rfl : failure = failure' := hstep.failure_eq
      have hadded : after.output = s.output ++ (Piece.text after'.output).content env := by
        rw [Piece.content, houtput, houtput', String.empty_append]
      simp only
      cases failure with
      | some e =>
        refine .inl ⟨?_, hstep.states.macros_eq, hstep.states.conditions, rfl⟩
        rw [hadded]
        simp [fill]
      | none =>
        -- Neither token has moved the pass to another place than its own.
        have hplace : after.location = after'.location := by
          obtain ⟨_, _, _, rfl⟩ := hframe
          obtain ⟨_, _, _, rfl⟩ := hframe'
          exact hline
        exact (ih hstep.states hplace).imp (fun hfilled => hfilled.cons hadded)
          fun hmiss => hmiss.cons _

/-- A template misses no file if all of its files can be read. -/
theorem not_misses {template : List Piece}
    (hread : ∀ target, .file target ∈ template → ∃ text, target.read env = .ok text)
    (failure : Option Failure) : ¬Misses env template failure := by
  rintro ⟨target, location, e, hmem, herror, -⟩
  obtain ⟨text, htext⟩ := hread target hmem
  unfold Target.read at htext
  unfold readInclude at herror
  rw [htext] at herror
  cases herror

/-- Passes that come to the same blocks, or to the same failure, end with the same failure. -/
theorem finish_snd_congr {one other : Step} (hconditions : one.1.conditions = other.1.conditions)
    (hfailure : one.2 = other.2) (path : Option Path) :
    (finish path one).2 = (finish path other).2 := by
  obtain ⟨state, failure⟩ := one
  obtain ⟨state', failure'⟩ := other
  obtain rfl : failure = failure' := hfailure
  cases failure with
  | some e => rfl
  | none =>
    simp only [finish, show state.conditions = state'.conditions from hconditions]
    split <;> rfl

/-- A pass fills its outline in, or there is a file that it cannot include. -/
theorem run_filled (hrec : env.config.recursiveIncludes = false) (state : State) (text : String)
    (path : Option Path) :
    (outline env.config state text path).Filled env { state with output := "" }
        (run env state text path) ∨
      Misses env (outline env.config state text path).template (run env state text path).2 := by
  -- The pass comes to the tokens in two parts, which matters to the warnings only.
  have hpieces := processPieces_resembles_tokens env (included_resembles (fun _ => rfl) env)
    (state.enter env path) (Source.tokenize text)
  have houtline := processTokens_outline (included env) hrec
    (State.Corresponds.refl (fun _ => rfl) (state.enter env path)) rfl
    (Source.tokenize text).tokens
  have hfailure := hpieces.failure_eq
  obtain ⟨hstate, -⟩ := hpieces
  generalize processTokens env (included env) (state.enter env path)
    (Source.tokenize text).tokens = step at hstate hfailure houtline
  rw [run_eq_runPieces, runPieces_eq]
  generalize processPieces env (included env) (state.enter env path) (Source.tokenize text) =
    pieces at hstate hfailure
  refine houtline.imp (fun hfilled => ?_) fun hmiss => ?_
  · refine ⟨?_, ?_, ?_, ?_⟩
    · rw [finish_fst]
      exact hstate.output.trans hfilled.output
    · rw [finish_fst, outline, finish_fst]
      exact hstate.macros.eq.trans hfilled.macros
    · rw [finish_fst, outline, finish_fst]
      exact hstate.conditions.trans hfilled.conditions
    · refine finish_snd_congr ?_ ?_ path
      · exact hstate.conditions.trans hfilled.conditions
      · exact hfailure.trans hfilled.failure
  · obtain ⟨target, location, e, hmem, hread, he⟩ := hmiss
    refine ⟨target, location, e, hmem, hread, ?_⟩
    simp only [hfailure, he]
    rfl

end Outline

/-- Where included files are not preprocessed, they cannot influence a pass. The outline of the pass
is made of the options and the source alone. Of any files that can be read, the pass fills the texts
into the template of the outline, and its macros, its blocks and its failure are those of the
outline, whatever the texts of the files are. Of files that cannot all be read, the failure is still
that of the outline, unless a file of the template cannot be included. -/
theorem run_verbatim (config : Config) (hrec : config.recursiveIncludes = false) (state : State)
    (text : String) (path : Option Path) :
    let o := outline config state text path
    ∀ files : FileTree,
      let env : Environment := ⟨config, files⟩
      let step := run env state text path
      ((∀ target, .file target ∈ o.template → ∃ text, target.read env = .ok text) →
        step.1.output = fill env o.template ∧
        step.result = (match o.step.2 with
          | none => .ok (fill env o.template)
          | some e => .error e) ∧
        step.1.macros = o.step.1.macros ∧ step.1.conditions = o.step.1.conditions ∧
        step.2 = o.step.2) ∧
      (step.2 = o.step.2 ∨ Misses env o.template step.2) := by
  intro o files env step
  have hfilled : o.Filled env { state with output := "" } step ∨ Misses env o.template step.2 :=
    run_filled hrec state text path
  refine ⟨fun hread => ?_, hfilled.imp Outline.Filled.failure id⟩
  have hfilled := hfilled.resolve_right (not_misses hread step.2)
  have houtput : step.1.output = fill env o.template := by
    rw [hfilled.output]
    exact String.empty_append
  refine ⟨houtput, ?_, hfilled.macros, hfilled.conditions, hfilled.failure⟩
  have hfailure := hfilled.failure
  generalize step = step at houtput hfailure
  obtain ⟨after, failure⟩ := step
  obtain rfl : failure = o.step.2 := hfailure
  rw [← houtput]
  cases o.step.2 <;> rfl

/-- A file that is included in a block and holds what would be directives of it, and a definition of
the macro that the block depends on. -/
theorem run_verbatim_directives :
    let config : Config := { defines := [("A", "1")] }
    let state := State.start config.mode
    let source := "#if A\n#include 'b'\n#else\nno\n#endif\n"
    let o := outline config state source none
    let files : FileTree :=
      ⟨[(["b"], .file (Text.Encoding.encodeUtf8 "#else\n#define A\n") 0)], ⟨"/", []⟩, 0⟩
    let env : Environment := ⟨config, files⟩
    config.recursiveIncludes = false ∧
    .file (.fromHere ⟨"", ["b"]⟩) ∈ o.template ∧
    (∀ target, .file target ∈ o.template → ∃ text, target.read env = .ok text) ∧
    (run env state source none).result = .ok "\n#else\n#define A\n\n\n" ∧
    (run env state source none).1.macros = ⟨[⟨"A", "1", .unknown, none⟩]⟩ := by
  intro config state source o files env
  have hfiles : o.template.filter (fun piece => piece matches .file _) =
      [.file (.fromHere ⟨"", ["b"]⟩)] := by decide +kernel
  have hread : ∀ target, .file target ∈ o.template → ∃ text, target.read env = .ok text := by
    intro target hmem
    have hmem' := List.mem_filter_of_mem (p := fun piece => piece matches .file _) hmem rfl
    rw [hfiles] at hmem'
    obtain rfl : target = .fromHere ⟨"", ["b"]⟩ := by simpa using hmem'
    exact ⟨"#else\n#define A\n", by decide +kernel⟩
  obtain ⟨-, hresult, hmacros, -⟩ := (run_verbatim config rfl state source none files).1 hread
  refine ⟨rfl, by decide +kernel, hread, ?_, ?_⟩
  · rw [hresult]
    decide +kernel
  · rw [hmacros]
    decide +kernel

end Hashmark.Pass
