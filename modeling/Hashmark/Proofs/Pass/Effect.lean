import Hashmark.Proofs.Pass.Evolution
import Hashmark.Proofs.Pass.Resemblance

/-!
# What a token defines and includes

A token may define a macro (`definition?`), and it may have the file that it includes processed in
its place (`inclusion?`). For both there is a lemma that says what processing the token does. Every
other token leaves macros alone and does not depend on how an included file would be processed
(`processToken_cases`, `processToken_congr`).
-/

namespace Hashmark.Pass

open Source (Token Tokenized)

/-- The macro that a token defines, or fails to define because there is one of the name: nothing if
the token is no definition or text is suppressed. -/
def definition? (state : State) (token : Token) : Option Macro :=
  if state.suppressed then none
  else
    match role token with
    | .definition payload =>
      let (name, value) := Text.cut ' ' payload.toList
      some ⟨String.ofList name, stripWrapping (String.ofList (value.getD [])),
        (state.reach token).location, none⟩
    | _ => none

/-- A file that is to be processed in the place of the token that includes it. -/
structure Inclusion where
  /-- The path that the token names. -/
  target : Path
  /-- The text of the file. -/
  text : String
  /-- The file, by its resolved path. -/
  file : Path
  deriving DecidableEq, Repr

/-- What a token includes: nothing unless included files are preprocessed, the token is an include
directive that names a file, text is not suppressed, and the file can be read. -/
def inclusion? (env : Environment) (state : State) (token : Token) : Option Inclusion :=
  if !env.config.recursiveIncludes || state.suppressed then none
  else
    match role token with
    | .inclusion payload =>
      let target := includeTarget env (state.reach token) (stripWrapping (Text.strip payload))
      match readInclude env (state.reach token).location target with
      | .error _ => none
      | .ok text => some ⟨target, text, target.resolve env.files.here⟩
    | _ => none

/-- The state in which a token has read the file that it includes. -/
def State.read (state : State) (token : Token) (inclusion : Inclusion) : State :=
  { state.reach token with reads := inclusion.target :: state.reads }

section Token

variable {env : Environment} {state : State} {token : Token}

/-- What has to hold of a token that includes a file to be processed in its place. -/
theorem inclusion?_eq_some {inclusion : Inclusion}
    (h : inclusion? env state token = some inclusion) :
    env.config.recursiveIncludes = true ∧ state.suppressed = false ∧
      ∃ payload, role token = .inclusion payload ∧
        inclusion.target =
          includeTarget env (state.reach token) (stripWrapping (Text.strip payload)) ∧
        readInclude env (state.reach token).location inclusion.target = .ok inclusion.text ∧
        inclusion.file = inclusion.target.resolve env.files.here := by
  unfold inclusion? at h
  by_cases hlive : (!env.config.recursiveIncludes || state.suppressed) = true
  · rw [if_pos hlive] at h
    cases h
  rw [if_neg hlive] at h
  -- What is left are the options and the suppression, the role, and whether the file can be read.
  rw [Bool.not_eq_true, Bool.or_eq_false_iff, Bool.not_eq_false'] at hlive
  refine ⟨hlive.1, hlive.2, ?_⟩
  cases hrole : role token with
  | inclusion payload =>
    simp only [hrole] at h
    cases hread : readInclude env (state.reach token).location
        (includeTarget env (state.reach token) (stripWrapping (Text.strip payload))) with
    | error e =>
      rw [hread] at h
      cases h
    | ok text =>
      simp only [hread, Option.some.injEq] at h
      subst h
      dsimp only
      exact ⟨payload, rfl, rfl, hread, rfl⟩
  | _ =>
    simp only [hrole] at h
    cases h

/-- A token that includes a file is processed by processing the file. -/
theorem processToken_inclusion? (emit : State → String → Path → Step) {inclusion : Inclusion}
    (h : inclusion? env state token = some inclusion) :
    processToken env emit state token = settle token.text
      (spliceFile emit (state.read token inclusion) inclusion.text inclusion.file) := by
  obtain ⟨hrec, hkept, payload, hrole, htarget, hread, hfile⟩ := inclusion?_eq_some h
  rw [htarget] at hread
  rw [processToken_inclusion hrole, hkept, State.read, htarget, hfile, htarget]
  simp only [Bool.false_eq_true, if_false]
  unfold includeFile
  simp only [hread, hrec, if_true]
  rfl

/-- A token that includes a file that is being processed fails. -/
theorem processToken_repeated (emit : State → String → Path → Step) {inclusion : Inclusion}
    (h : inclusion? env state token = some inclusion) (hmem : inclusion.file ∈ state.including) :
    processToken env emit state token =
      (state.read token inclusion,
        some (.at (.circularInclude (state.including ++ [inclusion.file]))
          (state.reach token).location)) := by
  have hcontains : (state.read token inclusion).including.contains inclusion.file = true :=
    List.contains_iff_mem.2 hmem
  rw [processToken_inclusion? emit h, spliceFile, if_pos hcontains]
  rfl

/-- A token that includes another file processes the file among those that are being processed, and
leaves it. -/
theorem processToken_entered (emit : State → String → Path → Step) {inclusion : Inclusion}
    (h : inclusion? env state token = some inclusion) (hmem : inclusion.file ∉ state.including) :
    processToken env emit state token =
      let step := emit
        { state.read token inclusion with including := state.including ++ [inclusion.file] }
        inclusion.text inclusion.file
      ({ step.1 with including := state.including }, step.2) := by
  have hcontains : ¬(state.read token inclusion).including.contains inclusion.file = true :=
    fun hin => hmem (List.contains_iff_mem.1 hin)
  have hincluding : (state.read token inclusion).including = state.including := rfl
  rw [processToken_inclusion? emit h, spliceFile, if_neg hcontains, hincluding]
  generalize emit { state.read token inclusion with
    including := state.including ++ [inclusion.file] } inclusion.text inclusion.file = step
  obtain ⟨after, failure⟩ := step
  cases failure <;> rfl

/-- For a token that is no include directive it does not matter how an included file would be
processed. -/
theorem processToken_of_ne_inclusion (emit emit' : State → String → Path → Step)
    (h : ∀ payload, role token ≠ .inclusion payload) :
    processToken env emit state token = processToken env emit' state token := by
  rw [processToken_eq, processToken_eq]
  by_cases hcandidate : token.isCandidate = true
  swap
  · rw [if_neg hcandidate, if_neg hcandidate]
  rw [if_pos hcandidate, if_pos hcandidate]
  suffices hcomment : handleComment env emit (state.reach token) token.text =
      handleComment env emit' (state.reach token) token.text by rw [hcomment]
  unfold handleComment
  simp only
  cases hcommand : (Directive.ofComment token.text).command? with
  | none => rfl
  | some command =>
    -- Of all commands only an include with a payload looks at how a file is processed.
    have hrole : role token = Role.ofCommand command (Directive.ofComment token.text).payload := by
      rw [role, if_pos hcandidate, hcommand]
    refine obey_rel (Q := Eq) rfl rfl (fun _ => rfl) (fun _ => rfl) (fun _ _ => rfl)
      (fun _ _ _ => rfl) fun text htext _ => ?_
    exact absurd (hrole.trans htext) (h text)

/-- Where a token has no file processed in its place, it does not matter how one would be. -/
theorem processToken_congr (emit emit' : State → String → Path → Step)
    (h : inclusion? env state token = none) :
    processToken env emit state token = processToken env emit' state token := by
  -- An include directive is left, of which either the file is taken as it is or there is none.
  by_cases hrole : ∃ payload, role token = .inclusion payload
  swap
  · exact processToken_of_ne_inclusion emit emit' fun payload hpayload => hrole ⟨payload, hpayload⟩
  obtain ⟨payload, hrole⟩ := hrole
  rw [processToken_inclusion hrole, processToken_inclusion hrole]
  by_cases hkept : state.suppressed = true
  · rw [if_pos hkept, if_pos hkept]
  rw [if_neg hkept, if_neg hkept]
  -- The file cannot be read, or it is taken as it is.
  simp only [inclusion?, hrole] at h
  unfold includeFile
  simp only
  generalize readInclude env (state.reach token).location _ = result at h ⊢
  cases result with
  | error e => rfl
  | ok text =>
    cases hrec : env.config.recursiveIncludes with
    | false => rfl
    | true => simp [hrec, hkept] at h

/-- Processing a token has left macros alone, and has not failed for a macro or for files within
one another. -/
structure LeavesMacros (before : State) (step : Step) : Prop where
  /-- The macros are as before. -/
  macros : step.1.macros = before.macros
  /-- It has not failed for a name that is defined. -/
  ne_redefinition : ∀ name location, step.2 ≠ some (.at (.redefinition name) location)
  /-- It has not failed for a file within itself. -/
  ne_circular : ∀ chain location, step.2 ≠ some (.at (.circularInclude chain) location)

/-- A step that has not failed leaves macros alone if they are as before. -/
theorem LeavesMacros.of_none {before after : State} (h : after.macros = before.macros) :
    LeavesMacros before (after, none) where
  macros := h
  ne_redefinition := fun _ _ h => nomatch h
  ne_circular := fun _ _ h => nomatch h

/-- Copying a token leaves macros alone. -/
theorem copy_leavesMacros (state : State) (text : String) :
    LeavesMacros state (copy state text, none) := by
  refine .of_none ?_
  unfold copy
  split <;> rfl

/-- A change of the blocks leaves macros alone. -/
theorem changeBlocks_leavesMacros (state : State) (text : String)
    (result : Except Imbalance Conditional) :
    LeavesMacros state (settle text (changeBlocks state result)) := by
  cases result with
  | ok conditions => exact .of_none rfl
  | error e =>
    exact {
      macros := rfl
      ne_redefinition := fun _ _ h => nomatch h
      ne_circular := fun _ _ h => nomatch h }

/-- A directive that neither defines a macro nor includes a file leaves macros alone. -/
theorem obey_leavesMacros (emit : State → String → Path → Step) (state : State) (text : String)
    {command : Command} {payload : Option String}
    (hdefine : ∀ payload', Role.ofCommand command payload ≠ .definition payload')
    (hinclude : ∀ payload', Role.ofCommand command payload ≠ .inclusion payload') :
    LeavesMacros state (settle text (obey env emit state command payload)) := by
  refine obey_cases (P := fun handled => LeavesMacros state (settle text handled))
    ?idle ?turn ?define ?inclusion
  case idle =>
    intro consumed
    cases consumed with
    | true => exact .of_none rfl
    | false => exact copy_leavesMacros state text
  case turn => exact fun result _ => changeBlocks_leavesMacros state text result
  case define => exact fun payload' hrole _ => absurd hrole (hdefine payload')
  case inclusion => exact fun payload' hrole _ => absurd hrole (hinclude payload')

/-- A file that cannot be included is not found, or the reason is no fault of the source. -/
theorem readInclude_eq_error {location : Location} {target : Path} {e : Failure}
    (h : readInclude env location target = .error e) :
    e = .at (.includeNotFound target) location ∨ ∀ fault, e ≠ .fault fault := by
  unfold readInclude at h
  cases hread : env.files.readText target env.config with
  | ok text =>
    rw [hread] at h
    cases h
  | error reason =>
    rw [hread] at h
    cases FileTree.unreadable_of_readText hread with
    | name => exact .inr fun fault heq => nomatch (Except.error.inj h).trans heq
    | file =>
      simp only at h
      split at h
      · exact .inr fun fault heq => nomatch (Except.error.inj h).trans heq
      · exact .inl (Except.error.inj h).symm
    | encoding => exact .inr fun fault heq => nomatch (Except.error.inj h).trans heq
    | @bytes _ _ error =>
      cases error with
      | malformed => exact .inl (Except.error.inj h).symm
      | refused => exact .inr fun fault heq => nomatch (Except.error.inj h).trans heq

/-- A file that cannot be included, or is taken as it is, leaves macros alone. -/
theorem includeFile_leavesMacros (emit : State → String → Path → Step) {payload : String}
    (hrole : role token = .inclusion payload) (hkept : state.suppressed = false)
    (h : inclusion? env state token = none) :
    LeavesMacros (state.reach token)
      (settle token.text (includeFile env emit (state.reach token) payload)) := by
  unfold includeFile
  simp only [inclusion?, hrole, hkept] at h
  simp only
  generalize hresult : readInclude env (state.reach token).location _ = result at h ⊢
  cases result with
  | error e =>
    -- A file that cannot be read is not found, or the failure is none of the source.
    have hreason := readInclude_eq_error hresult
    refine ⟨rfl, fun name location he => ?_, fun chain location he => ?_⟩ <;>
      obtain rfl := Option.some.inj he <;> obtain heq | hne := hreason
    · cases heq
    · exact hne _ rfl
    · cases heq
    · exact hne _ rfl
  | ok text =>
    cases hrec : env.config.recursiveIncludes with
    | false => exact .of_none rfl
    | true =>
      -- A file that can be read would be processed in the place of the token.
      simp [hrec] at h

/-- Where a token defines a macro, the name is defined, or processing the token defines it. -/
theorem processToken_definition? (env : Environment) (emit : State → String → Path → Step)
    {m : Macro} (h : definition? state token = some m) :
    processToken env emit state token =
      if state.macros.contains m.name then
        (state.reach token, some (.at (.redefinition m.name) (state.reach token).location))
      else ({ state.reach token with macros := state.macros.push m }, none) := by
  unfold definition? at h
  cases hkept : state.suppressed with
  | true =>
    rw [if_pos hkept] at h
    cases h
  | false =>
    rw [if_neg (Bool.eq_false_iff.1 hkept)] at h
    cases hrole : role token with
    | definition payload =>
      simp only [hrole] at h
      obtain rfl := Option.some.inj h
      rw [processToken_definition hrole, hkept, if_neg Bool.false_ne_true]
      have hmacros : (state.reach token).macros = state.macros := rfl
      simp only [defineMacro, MacroTable.define, hmacros]
      generalize state.macros.contains _ = defined
      cases defined <;> rfl
    | _ =>
      simp only [hrole] at h
      cases h

/-- A token that has no file processed in its place defines a macro or leaves macros alone. -/
theorem processToken_cases (emit : State → String → Path → Step)
    (h : inclusion? env state token = none) :
    (∃ m, definition? state token = some m) ∨
      LeavesMacros (state.reach token) (processToken env emit state token) := by
  cases hrole : role token with
  | text =>
    rw [processToken_text hrole]
    exact .inr (copy_leavesMacros _ _)
  | definition payload =>
    cases hkept : state.suppressed with
    | true =>
      rw [processToken_definition hrole, if_pos hkept]
      exact .inr (.of_none rfl)
    | false =>
      refine .inl (Option.isSome_iff_exists.1 ?_)
      simp only [definition?, hkept, hrole]
      rfl
  | inclusion payload =>
    cases hkept : state.suppressed with
    | true =>
      rw [processToken_inclusion hrole, if_pos hkept]
      exact .inr (.of_none rfl)
    | false =>
      rw [processToken_inclusion hrole, hkept, if_neg Bool.false_ne_true]
      exact .inr (includeFile_leavesMacros emit hrole hkept h)
  | opening test | branch test | ending =>
    obtain ⟨hcandidate, command, hcommand, hof⟩ := command_of_role hrole Role.noConfusion
    rw [processToken_of_command hcandidate hcommand]
    refine .inr (obey_leavesMacros emit _ _ ?_ ?_) <;> rw [hof] <;>
      exact fun _ => Role.noConfusion

end Token

end Hashmark.Pass
