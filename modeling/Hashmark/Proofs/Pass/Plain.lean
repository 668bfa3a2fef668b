import Hashmark.Proofs.Pass.Correspondence
import Hashmark.Proofs.Pass.Identity

/-!
# Included files without directives

Whether included files are preprocessed makes no difference to files in which no comment asks for
anything. Taken as they are, they are added to the output in one piece. Preprocessed, they are cut
into tokens that are copied one after another, and since the tokens make up the file, the output is
the same (`emit_idle`). Nothing else that the pass does depends on the option, so that the two passes
come to the same state and to the same failure, but for the warnings that tokenizing the included
files gives (`process_plain`).

A file that is being processed might be included within itself, which is a failure only where
included files are preprocessed. But the directive that includes it is one of the file, which is then
not without directives.
-/

namespace Hashmark.Pass

open Source (Token Tokenized)

/-- An environment with the choice whether included files are preprocessed. -/
def Environment.preprocessing (env : Environment) (recursiveIncludes : Bool) : Environment :=
  { env with config := { env.config with recursiveIncludes } }

/-- A file in which no comment asks for anything, if it can be read. -/
def Environment.IsPlain (env : Environment) (target : Path) : Prop :=
  ∀ text, env.files.readText target env.config = .ok text → (Source.tokenize text).IsIdle

/-- What is read between two states for an include is such. -/
def ReadsOnly (P : Path → Prop) (before after : State) : Prop :=
  ∃ read, after.reads = read ++ before.reads ∧ ∀ target ∈ read, P target

/-- A step that is another one but for the warnings that have been given. -/
def Step.Rewarns (one other : Step) : Prop :=
  ∃ warnings, other = (one.1.warned warnings, one.2)

section Idle

variable {s : State} {text : String}

/-- Where no comment of a text asks for anything, and no text is suppressed, the pieces of the text
add it to the output. -/
theorem processPieces_idle (env : Environment) (emit : State → String → Path → Step)
    (hkept : s.suppressed = false) (hidle : (Source.tokenize text).IsIdle) :
    ∃ location warnings, processPieces env emit s (Source.tokenize text) =
      ({ s with output := s.output ++ text, location, warnings }, none) := by
  have hroles : ∀ token ∈ (Source.tokenize text).tokens, role token = .text :=
    fun token htoken => (role_eq_text_iff token).2 (hidle token htoken)
  obtain ⟨location, hscanned⟩ := processTokens_text env emit hkept
    fun token htoken => hroles token (List.mem_append_left _ htoken)
  unfold processPieces
  rw [hscanned]
  simp only
  generalize (Source.tokenize text).warning.toList.map _ ++ s.warnings = warnings
  have hkept' : State.suppressed { s with
      output := s.output ++ String.ofList (Source.concatText (Source.tokenize text).scanned)
      location, warnings } = false := hkept
  obtain ⟨location', hrest⟩ := processTokens_text env emit hkept'
    fun token htoken => hroles token (List.mem_append_right _ htoken)
  rw [hrest]
  refine ⟨location', warnings, ?_⟩
  have htext : Source.concatText (Source.tokenize text).tokens = text.toList :=
    Source.concatText_ofMarks text.toList (Source.scan text.toList)
  rw [Tokenized.tokens, Source.concatText_append] at htext
  rw [String.append_assoc, ← String.ofList_append, htext, String.ofList_toList]

/-- Such a text is added to the output wherever it is included. -/
theorem emit_idle (hkept : s.suppressed = false) (hidle : (Source.tokenize text).IsIdle)
    (env : Environment) (depth : Nat) (path : Option Path) :
    ∃ warnings, emit env (depth + 1) s text path = ((s.append text).warned warnings, none) := by
  have hkept' : State.suppressed { s with location := ⟨path, s.location.line⟩ } = false := hkept
  obtain ⟨location, warnings, hpieces⟩ := processPieces_idle env
    (fun state text path => emit env depth state text (some path)) hkept' hidle
  refine ⟨warnings, ?_⟩
  simp only [emit, hpieces]
  rfl

/-- Such a file is added to the output if it is not being processed. -/
theorem spliceFile_idle (hkept : s.suppressed = false) (hidle : (Source.tokenize text).IsIdle)
    {file : Path} (hnew : file ∉ s.including) (env : Environment) (depth : Nat) :
    ∃ warnings, spliceFile (fun state text path => emit env (depth + 1) state text (some path))
        s text file = ((s.append text).warned warnings, .ok true) := by
  have hkept' : State.suppressed { s with including := s.including ++ [file] } = false := hkept
  obtain ⟨warnings, hemit⟩ := emit_idle hkept' hidle env depth (some file)
  have hcontains : ¬s.including.contains file = true :=
    fun hin => hnew (List.contains_iff_mem.1 hin)
  refine ⟨warnings, ?_⟩
  unfold spliceFile
  rw [if_neg hcontains]
  simp only [hemit]
  rfl

end Idle

section Reads

variable {P : Path → Prop} {s mid last : State}

/-- What is read between two states is read before or behind one between them. -/
theorem ReadsOnly.split (h : ReadsOnly P s last) (hfirst : s.reads <:+ mid.reads)
    (hsecond : mid.reads <:+ last.reads) : ReadsOnly P s mid ∧ ReadsOnly P mid last := by
  obtain ⟨read, hread, hall⟩ := h
  obtain ⟨first, hfirst⟩ := hfirst
  obtain ⟨second, hsecond⟩ := hsecond
  rw [← hsecond, ← hfirst, ← List.append_assoc] at hread
  obtain rfl := List.append_cancel_right hread
  exact ⟨⟨first, hfirst.symm, fun target hmem => hall target (List.mem_append_right _ hmem)⟩,
    ⟨second, hsecond.symm, fun target hmem => hall target (List.mem_append_left _ hmem)⟩⟩

/-- What has been read first is such. -/
theorem ReadsOnly.of_mem (h : ReadsOnly P s last) {target : Path}
    (htarget : target :: s.reads <:+ last.reads) : P target := by
  obtain ⟨read, hread, hall⟩ := h
  obtain ⟨more, hmore⟩ := htarget
  rw [← hmore, List.append_cons] at hread
  exact hall target (List.append_cancel_right hread ▸ List.mem_append_right _ List.mem_cons_self)

end Reads

section Token

variable {env : Environment} {emit emit' : State → String → Path → Step} {s : State}
  {warnings : List String} {token : Token}

/-- A token that includes no file is processed alike, whether included files are preprocessed or
not. -/
theorem processToken_rewarns_of_none (hname : includedName? s token = none) :
    Step.Rewarns (processToken (env.preprocessing false) emit s token)
      (processToken (env.preprocessing true) emit' (s.warned warnings) token) := by
  have hsame : s.Corresponds Eq (s.warned warnings) :=
    { State.Corresponds.refl (fun _ => rfl) s with }
  have hname' : includedName? (s.warned warnings) token = none := hname
  have hconstants : (env.preprocessing false).config.SharesConstants
      (env.preprocessing true).config := .of_eq rfl rfl rfl
  have hstep := processToken_corresponds hconstants emit emit' hsame rfl hname
  have hframe := processToken_frame (env.preprocessing false) emit hname
  have hframe' := processToken_frame (env.preprocessing true) emit' hname'
  generalize processToken (env.preprocessing false) emit s token = step at hstep hframe ⊢
  generalize processToken (env.preprocessing true) emit' (s.warned warnings) token = step'
    at hstep hframe' ⊢
  obtain ⟨after, failure⟩ := step
  obtain ⟨after', failure'⟩ := step'
  obtain rfl : failure = failure' := hstep.failure_eq
  obtain ⟨macros, conditions, output, rfl⟩ := hframe
  obtain ⟨macros', conditions', output', rfl⟩ := hframe'
  obtain rfl : macros = macros' := hstep.states.macros_eq
  obtain rfl : conditions = conditions' := hstep.states.conditions
  obtain ⟨added, rfl, rfl⟩ : ∃ added, output = s.output ++ added ∧ output' = s.output ++ added :=
    hstep.output
  exact ⟨warnings, rfl⟩

/-- The file that a directive includes is added to the output alike if no comment of it asks for
anything, and it is not being processed. -/
theorem includeFile_rewarns (env : Environment) (emit : State → String → Path → Step) (depth : Nat)
    (hkept : s.suppressed = false) (warnings : List String) (payload : String)
    (hplain : ∀ text, readInclude env s.location
        (includeTarget env s (stripWrapping (Text.strip payload))) = .ok text →
      (Source.tokenize text).IsIdle ∧
        (includeTarget env s (stripWrapping (Text.strip payload))).resolve env.files.here ∉
          s.including) :
    let one := includeFile (env.preprocessing false) emit s payload
    ∃ warnings', includeFile (env.preprocessing true)
        (fun state text path =>
          Pass.emit (env.preprocessing true) (depth + 1) state text (some path))
        (s.warned warnings) payload = (one.1.warned warnings', one.2) := by
  -- The options in question have no part in which file it is and what is read from it.
  have htarget : ∀ name, includeTarget (env.preprocessing false) s name =
      includeTarget env s name := fun _ => rfl
  have htarget' : ∀ name, includeTarget (env.preprocessing true) (s.warned warnings) name =
      includeTarget env s name := fun _ => rfl
  have hread : ∀ recursiveIncludes, readInclude (env.preprocessing recursiveIncludes) =
      readInclude env := fun _ => rfl
  unfold includeFile
  rw [htarget, htarget']
  generalize includeTarget env s (stripWrapping (Text.strip payload)) = target at hplain ⊢
  have hlocation : (s.warned warnings).location = s.location := rfl
  simp only [hread, hlocation]
  cases hresult : readInclude env s.location target with
  | error e => exact ⟨warnings, rfl⟩
  | ok text =>
    obtain ⟨hidle, hself⟩ := hplain text hresult
    have hkept' : State.suppressed { s.warned warnings with reads := target :: s.reads } = false :=
      hkept
    obtain ⟨warnings', hsplice⟩ := spliceFile_idle hkept' hidle hself (env.preprocessing true) depth
    exact ⟨warnings', hsplice⟩

/-- A token is processed alike if no comment asks for anything in the file that it includes. The
token is one of any file that is being processed. -/
theorem processToken_rewarns (env : Environment) (emit : State → String → Path → Step)
    (depth : Nat) (warnings : List String)
    (hplain : ∀ name, includedName? s token = some name →
      env.IsPlain (includeTarget env (s.reach token) name))
    (hself : ∀ target text, env.files.readText target env.config = .ok text →
      target.resolve env.files.here ∈ s.including → token ∈ (Source.tokenize text).tokens) :
    Step.Rewarns (processToken (env.preprocessing false) emit s token)
      (processToken (env.preprocessing true)
        (fun state text path =>
          Pass.emit (env.preprocessing true) (depth + 1) state text (some path))
        (s.warned warnings) token) := by
  cases hname : includedName? s token with
  | none => exact processToken_rewarns_of_none hname
  | some name =>
    have hidle := hplain name hname
    obtain ⟨hkept, payload, hrole, rfl⟩ := includedName?_eq_some hname
    have hkept' : (s.warned warnings).suppressed = false := hkept
    obtain ⟨warnings', hinclude⟩ := includeFile_rewarns (s := s.reach token) env emit depth hkept
      warnings payload fun text hread => by
        have htext := readText_of_readInclude hread
        refine ⟨hidle text htext, fun hmem => ?_⟩
        -- The file would have this token, which asks for a file.
        have htoken := hidle text htext token (hself _ text htext hmem)
        rw [(role_eq_text_iff token).2 htoken] at hrole
        cases hrole
    rw [processToken_inclusion hrole, processToken_inclusion hrole, hkept, hkept']
    simp only [Bool.false_eq_true, if_false]
    have hreach : (s.warned warnings).reach token = (s.reach token).warned warnings := rfl
    refine ⟨warnings', ?_⟩
    rw [hreach, hinclude, settle_warned]

end Token

section Tokens

variable {env : Environment} {emit : State → String → Path → Step} {s : State}

/-- A token that includes a file has read it. -/
theorem reads_of_includedName? (recursiveIncludes : Bool) (hreturns : Returns emit) {token : Token}
    {name : String} (hname : includedName? s token = some name) :
    includeTarget env (s.reach token) name :: s.reads <:+
      (processToken (env.preprocessing recursiveIncludes) emit s token).1.reads := by
  obtain ⟨hkept, payload, hrole, rfl⟩ := includedName?_eq_some hname
  have hincluded : Continues { s.reach token with
      reads := includeTarget (env.preprocessing recursiveIncludes) (s.reach token)
        (stripWrapping (Text.strip payload)) :: (s.reach token).reads }
      (includeFile (env.preprocessing recursiveIncludes) emit (s.reach token) payload).1 :=
    includeFile_continues_target hreturns (s.reach token) payload
  have htarget : ∀ name, includeTarget (env.preprocessing recursiveIncludes) (s.reach token) name =
      includeTarget env (s.reach token) name := fun _ => rfl
  rw [htarget] at hincluded
  rw [processToken_inclusion hrole, hkept]
  simp only [Bool.false_eq_true, if_false]
  exact (settle_continues hincluded token.text).reads

/-- What a token reads is read by tokens that begin with it. -/
theorem reads_of_cons (env : Environment) (hreturns : Returns emit) (s : State) (token : Token)
    (tokens : List Token) :
    (processToken env emit s token).1.reads <:+
      (processTokens env emit s (token :: tokens)).1.reads := by
  rw [processTokens]
  generalize processToken env emit s token = step
  obtain ⟨after, failure⟩ := step
  cases failure with
  | none => exact (processTokens_continues env hreturns after tokens).reads
  | some e => exact List.suffix_refl _

/-- Tokens are processed alike if no comment asks for anything in the files that the one or the
other processing of them reads. The tokens are those of any file that is being processed. -/
theorem processTokens_rewarns (hreturns : Returns emit) (depth : Nat) (tokens : List Token)
    (warnings : List String)
    (hself : ∀ target text, env.files.readText target env.config = .ok text →
      target.resolve env.files.here ∈ s.including →
        ∀ token ∈ tokens, token ∈ (Source.tokenize text).tokens)
    (hreads : ReadsOnly env.IsPlain s
          (processTokens (env.preprocessing false) emit s tokens).1 ∨
        ReadsOnly env.IsPlain (s.warned warnings) (processTokens (env.preprocessing true)
          (fun state text path =>
            Pass.emit (env.preprocessing true) (depth + 1) state text (some path))
          (s.warned warnings) tokens).1) :
    Step.Rewarns (processTokens (env.preprocessing false) emit s tokens)
      (processTokens (env.preprocessing true)
        (fun state text path =>
          Pass.emit (env.preprocessing true) (depth + 1) state text (some path))
        (s.warned warnings) tokens) := by
  have hreturns' := emit_returns (env.preprocessing true) (depth + 1)
  generalize hemit : (fun state text path =>
    Pass.emit (env.preprocessing true) (depth + 1) state text (some path)) = emit'
    at hreads hreturns' ⊢
  induction tokens generalizing s warnings with
  | nil => exact ⟨warnings, rfl⟩
  | cons token tokens ih =>
    have hcontinues := processToken_continues (env.preprocessing false) hreturns s token
    have hcontinues' :=
      processToken_continues (env.preprocessing true) hreturns' (s.warned warnings) token
    have hrest := reads_of_cons (env.preprocessing false) hreturns s token tokens
    have hrest' := reads_of_cons (env.preprocessing true) hreturns' (s.warned warnings) token tokens
    have hplain : ∀ name, includedName? s token = some name →
        env.IsPlain (includeTarget env (s.reach token) name) := by
      intro name hname
      have hname' : includedName? (s.warned warnings) token = some name := hname
      have htarget : includeTarget env ((s.warned warnings).reach token) name =
          includeTarget env (s.reach token) name := rfl
      obtain hreads | hreads := hreads
      · exact hreads.of_mem ((reads_of_includedName? false hreturns hname).trans hrest)
      · rw [← htarget]
        exact hreads.of_mem ((reads_of_includedName? true hreturns' hname').trans hrest')
    have htoken := processToken_rewarns env emit depth warnings hplain
      fun target text htext hmem => hself target text htext hmem token List.mem_cons_self
    rw [hemit] at htoken
    obtain ⟨warnings', hstep⟩ := htoken
    -- What the other tokens read is read behind this one.
    have hsplit := hreads.imp (fun h => (h.split hcontinues.reads hrest).2)
      fun h => (h.split hcontinues'.reads hrest').2
    rw [processTokens, processTokens, hstep] at hsplit ⊢
    generalize processToken (env.preprocessing false) emit s token = step at hcontinues hsplit ⊢
    obtain ⟨after, failure⟩ := step
    cases failure with
    | some e => exact ⟨warnings', rfl⟩
    | none =>
      refine ih warnings' (fun target text htext hmem other hother => ?_) hsplit
      exact hself target text htext (hcontinues.including ▸ hmem) other (.tail _ hother)

/-- What the scanned tokens of a source read is read by its pieces. -/
theorem reads_of_scanned (env : Environment) (hreturns : Returns emit) (s : State)
    (pieces : Tokenized) :
    (processTokens env emit s pieces.scanned).1.reads <:+
      (processPieces env emit s pieces).1.reads := by
  unfold processPieces
  generalize processTokens env emit s pieces.scanned = step
  obtain ⟨after, failure⟩ := step
  cases failure with
  | none =>
    exact (processTokens_continues env hreturns { after with
      warnings := pieces.warning.toList.map (warningText after.location.path) ++ after.warnings }
      pieces.rest.toList).reads
  | some e => exact List.suffix_refl _

/-- The pieces of a source are processed alike under the same conditions. -/
theorem processPieces_rewarns (hreturns : Returns emit) (depth : Nat) (pieces : Tokenized)
    (warnings : List String)
    (hself : ∀ target text, env.files.readText target env.config = .ok text →
      target.resolve env.files.here ∈ s.including →
        ∀ token ∈ pieces.tokens, token ∈ (Source.tokenize text).tokens)
    (hreads : ReadsOnly env.IsPlain s
          (processPieces (env.preprocessing false) emit s pieces).1 ∨
        ReadsOnly env.IsPlain (s.warned warnings) (processPieces (env.preprocessing true)
          (fun state text path =>
            Pass.emit (env.preprocessing true) (depth + 1) state text (some path))
          (s.warned warnings) pieces).1) :
    Step.Rewarns (processPieces (env.preprocessing false) emit s pieces)
      (processPieces (env.preprocessing true)
        (fun state text path =>
          Pass.emit (env.preprocessing true) (depth + 1) state text (some path))
        (s.warned warnings) pieces) := by
  have hreturns' := emit_returns (env.preprocessing true) (depth + 1)
  have hcontinues :=
    processTokens_continues (env.preprocessing false) hreturns s pieces.scanned
  have hcontinues' := processTokens_continues (env.preprocessing true) hreturns'
    (s.warned warnings) pieces.scanned
  have hrest := reads_of_scanned (env.preprocessing false) hreturns s pieces
  have hrest' := reads_of_scanned (env.preprocessing true) hreturns' (s.warned warnings) pieces
  obtain ⟨warnings', hscanned⟩ := processTokens_rewarns hreturns depth pieces.scanned warnings
    (fun target text htext hmem token htoken =>
      hself target text htext hmem token (List.mem_append_left _ htoken))
    (hreads.imp (fun h => (h.split hcontinues.reads hrest).1)
      fun h => (h.split hcontinues'.reads hrest').1)
  have hsplit := hreads.imp (fun h => (h.split hcontinues.reads hrest).2)
    fun h => (h.split hcontinues'.reads hrest').2
  unfold processPieces at hsplit ⊢
  rw [hscanned] at hsplit ⊢
  generalize processTokens (env.preprocessing false) emit s pieces.scanned = step
    at hcontinues hsplit ⊢
  obtain ⟨after, failure⟩ := step
  cases failure with
  | some e => exact ⟨warnings', rfl⟩
  | none =>
    refine processTokens_rewarns (s := { after with
        warnings := pieces.warning.toList.map (warningText after.location.path) ++ after.warnings })
      hreturns depth pieces.rest.toList _ (fun target text htext hmem token htoken => ?_) hsplit
    exact hself target text htext (hcontinues.including ▸ hmem) token
      (List.mem_append_right _ htoken)

end Tokens

/-- Passes that end alike but for the warnings are finished alike. -/
theorem finish_rewarns {one other : Step} (h : one.Rewarns other) (path : Option Path) :
    (finish path one).Rewarns (finish path other) := by
  obtain ⟨warnings, rfl⟩ := h
  obtain ⟨state, failure⟩ := one
  refine ⟨warnings, ?_⟩
  cases failure with
  | some e => rfl
  | none =>
    have hconditions : (state.warned warnings).conditions = state.conditions := rfl
    simp only [finish, hconditions]
    cases state.conditions.finish <;> rfl

/-- A pass over a text does the same, whether included files are preprocessed or not, if no comment
asks for anything in the files that it includes. -/
theorem run_rewarns (env : Environment) (state : State) (text : String) (path : Option Path)
    (hself : ∀ target text', env.files.readText target env.config = .ok text' →
      target.resolve env.files.here ∈ path.toList → text' = text)
    (hreads : ReadsOnly env.IsPlain state (run (env.preprocessing false) state text path).1 ∨
      ReadsOnly env.IsPlain state (run (env.preprocessing true) state text path).1) :
    Step.Rewarns (run (env.preprocessing false) state text path)
      (run (env.preprocessing true) state text path) := by
  -- Both passes begin in the same state.
  have hfirst : ∀ recursiveIncludes, run (env.preprocessing recursiveIncludes) state text path =
      let step := processPieces (env.preprocessing recursiveIncludes)
        (included (env.preprocessing recursiveIncludes)) (state.enter env path)
        (Source.tokenize text)
      finish path ({ step.1 with location := state.location }, step.2) := fun _ => rfl
  have hwarned : state.enter env path = (state.enter env path).warned state.warnings := rfl
  have hself' : ∀ target text', env.files.readText target env.config = .ok text' →
      target.resolve env.files.here ∈ (state.enter env path).including →
        ∀ token ∈ (Source.tokenize text).tokens, token ∈ (Source.tokenize text').tokens :=
    fun target text' htext hmem token htoken => hself target text' htext hmem ▸ htoken
  have hpieces := processPieces_rewarns
    (emit_returns (env.preprocessing false) (env.files.nodes.length + 1)) env.files.nodes.length
    (Source.tokenize text) state.warnings hself'
  rw [hfirst, hfirst] at hreads ⊢
  rw [finish_fst, finish_fst] at hreads
  obtain ⟨warnings, hstep⟩ := hpieces hreads
  have hstep' : processPieces (env.preprocessing true) (included (env.preprocessing true))
      (state.enter env path) (Source.tokenize text) = _ := hstep
  rw [hstep']
  exact finish_rewarns ⟨warnings, rfl⟩ path

/-- Whether included files are preprocessed makes no difference to files in which no comment asks
for anything. If all files are such that a pass over a text or over a file reads for an include,
with the one choice or with the other, then the two passes come to the same state, with the same
output, the same macros and the same blocks, or to the same failure at the same place. Only the
warnings that tokenizing the included files gives are given by one of them alone. -/
theorem process_plain (env : Environment) (state : State) :
    (∀ text,
      let verbatim := processText (env.preprocessing false) state text
      let recursive := processText (env.preprocessing true) state text
      ReadsOnly env.IsPlain state verbatim.1 ∨ ReadsOnly env.IsPlain state recursive.1 →
        recursive = (verbatim.1.warned recursive.1.warnings, verbatim.2)) ∧
    ∀ path,
      let verbatim := processFile (env.preprocessing false) state path
      let recursive := processFile (env.preprocessing true) state path
      ReadsOnly env.IsPlain state verbatim.1 ∨ ReadsOnly env.IsPlain state recursive.1 →
        recursive = (verbatim.1.warned recursive.1.warnings, verbatim.2) := by
  have hrewarns : ∀ one other : Step, one.Rewarns other →
      other = (one.1.warned other.1.warnings, one.2) := by
    rintro one _ ⟨warnings, rfl⟩
    rfl
  constructor
  · intro text verbatim recursive hreads
    exact hrewarns _ _ (run_rewarns env state text none (fun _ _ _ hmem => nomatch hmem) hreads)
  · intro path verbatim recursive hreads
    refine hrewarns _ _ ?_
    have hsource : ∀ recursiveIncludes, readSource (env.preprocessing recursiveIncludes) path =
        readSource env path := fun _ => rfl
    simp only [verbatim, recursive, processFile, hsource] at hreads ⊢
    cases hread : readSource env path with
    | error e => exact ⟨state.warnings, rfl⟩
    | ok text =>
      rw [hread] at hreads
      refine run_rewarns env state text _ (fun target text' htext hmem => ?_) hreads
      -- Only the file itself is being processed.
      have hsame : target.resolve env.files.here = path.resolve env.files.here :=
        (Option.some.inj (Option.mem_toList.1 hmem)).symm
      exact FileTree.readText_unique htext (readText_of_readSource hread) hsame

/-- A file with a string that is never closed, included in a block. -/
theorem process_plain_prose :
    let files : FileTree :=
      ⟨[(["b"], .file (Text.Encoding.encodeUtf8 "'''it isn't\n#if") 0)], ⟨"/", []⟩, 0⟩
    let env : Environment := ⟨{}, files⟩
    let state := State.start env.config.mode
    let source := "#if 1\n#include 'b'\n#endif\n#define A 1"
    let verbatim := processText (env.preprocessing false) state source
    let recursive := processText (env.preprocessing true) state source
    verbatim.result = .ok "\n'''it isn't\n#if\n\n" ∧ recursive.result = verbatim.result ∧
      recursive.1.macros = verbatim.1.macros ∧ verbatim.1.warnings = [] ∧
      recursive.1.warnings =
        ["/b:1: cannot tokenize source (EOF in multi-line string), passing the rest through"] := by
  intro files env state source verbatim recursive
  have hreads : verbatim.1.reads = [⟨"/", ["b"]⟩] ++ state.reads := by decide +kernel
  have hread : env.files.readText ⟨"/", ["b"]⟩ env.config = .ok "'''it isn't\n#if" := by
    decide +kernel
  have hidle : (Source.tokenize "'''it isn't\n#if").IsIdle := by decide +kernel
  have hplain : ReadsOnly env.IsPlain state verbatim.1 := by
    refine ⟨_, hreads, fun target hmem text htext => ?_⟩
    rw [List.mem_singleton.1 hmem, hread] at htext
    exact Except.ok.inj htext ▸ hidle
  have hsame : recursive = (verbatim.1.warned recursive.1.warnings, verbatim.2) :=
    (process_plain env state).1 source (.inl hplain)
  have hresult : verbatim.result = .ok "\n'''it isn't\n#if\n\n" := by decide +kernel
  have hnone : verbatim.1.warnings = [] := by decide +kernel
  have hwarning : recursive.1.warnings =
      ["/b:1: cannot tokenize source (EOF in multi-line string), passing the rest through"] := by
    decide +kernel
  clear_value verbatim recursive
  have hsame' : recursive.result = verbatim.result ∧
      recursive.1.macros = verbatim.1.macros := by
    rw [hsame]
    obtain ⟨state, failure⟩ := verbatim
    cases failure <;> exact ⟨rfl, rfl⟩
  exact ⟨hresult, hsame'.1, hsame'.2, hnone, hwarning⟩

end Hashmark.Pass
