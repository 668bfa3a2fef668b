import Hashmark.Proofs.Pass.Correspondence
import Hashmark.Proofs.Pass.Nesting

/-!
# A file and its text

A pass over a file and one over its text differ in three ways: which file the source is, that the
file is among those in progress, and where relative includes start from. With the directory of the
file as the base directory they do the same, moment by moment (`Moment.Detached.advance`), but for
one case: a pass over the file does not let the file include itself, and one over its text does,
once. So a pass over the text succeeds where one over the file does, and without recursive includes
both have the same result. A pass over a file itself does not depend on the base directory.
-/

namespace Hashmark

/-- A place in a pass over a file, and in one over its text: the same place, but for the file, which
is no file to the other. -/
structure Location.Detached (file : Path) (one other : Location) : Prop where
  /-- The line is the same. -/
  line : one.line = other.line
  /-- The file is the same, or it is the one whose text the other pass is over. -/
  path : one.path = other.path ∨ one.path = some file ∧ other.path = none

/-- The failure of a pass over a file, and of one over its text. -/
inductive Failure.Detached (file : Path) : Failure → Failure → Prop
  /-- The failure has no place. -/
  | same (e : Failure) : Failure.Detached file e e
  /-- The problem is the same, at the same place. -/
  | located (problem : Problem) {one other : Location} (h : one.Detached file other) :
      Failure.Detached file (.at problem one) (.at problem other)
  /-- A file includes itself, by way of the same files behind the first. -/
  | circular (chain : List Path) {one other : Location} (h : one.Detached file other) :
      Failure.Detached file (.at (.circularInclude (file :: chain)) one)
        (.at (.circularInclude chain) other)

/-- The results of a pass over a file and of one over its text: the same text, or corresponding
failures. -/
inductive Failure.ResultsDetached (file : Path) :
    Except Failure String → Except Failure String → Prop
  /-- Both passes produce this text. -/
  | ok (text : String) : ResultsDetached file (.ok text) (.ok text)
  /-- Both passes fail. -/
  | error {e e' : Failure} (h : e.Detached file e') : ResultsDetached file (.error e) (.error e')

namespace Pass

open Source (Token Tokenized Piece)

/-- The environment with another base directory. -/
def Environment.withBase (env : Environment) (base : Option Path) : Environment :=
  { env with config := { env.config with baseDirectory := base } }

/-- The states of a pass over a file and of one over its text, but for the places in them. -/
structure State.Detached (file : Path) (one other : State) : Prop where
  /-- The macros and the blocks are the same. -/
  corresponds : one.Corresponds (Location.Detached file) other
  /-- The same text has been produced. -/
  output : one.output = other.output
  /-- The same files are in progress, besides the one whose text the other pass is over. -/
  including : one.including = file :: other.including

/-- The texts in progress in a pass over a file and in one over its text. -/
inductive Level.Detached (file : Path) : List Level → List Level → Prop
  /-- The pass is over. -/
  | finished : Level.Detached file [] []
  /-- The source is in progress, and both passes began at one place. -/
  | source (level : Level) : Level.Detached file [level] [level]
  /-- A file is in progress that was included at the same place. -/
  | within (left : List Piece) {back back' : Location} {outer outer' : List Level}
      (h : back.Detached file back') (hpath : back.path.isSome = true) (houter : outer ≠ [])
      (hrest : Level.Detached file outer outer') :
      Level.Detached file (⟨left, back⟩ :: outer) (⟨left, back'⟩ :: outer')

/-- Corresponding moments of a pass over a file and of one over its text. -/
structure Moment.Detached (file : Path) (one other : Moment) : Prop where
  /-- The states correspond. -/
  state : one.state.Detached file other.state
  /-- While there is something to do, the place is in a file for the first pass, and the same place
  for the other. -/
  place : one.levels ≠ [] →
    one.state.location.Detached file other.state.location ∧
      one.state.location.path.isSome = true
  /-- The texts in progress correspond. -/
  levels : Level.Detached file one.levels other.levels
  /-- Both passes have failed or neither has. -/
  failure : Option.Rel (Failure.Detached file) one.failure other.failure

section Detached

variable {env : Environment} {file : Path} {s t : State} {token : Token}

/-- The same place is the same place. -/
theorem Location.Detached.refl (file : Path) (location : Location) :
    location.Detached file location :=
  ⟨rfl, .inl rfl⟩

/-- Where the states correspond, so do those at the place of a token. -/
theorem State.Detached.reach (h : s.Detached file t) (token : Token) :
    (s.reach token).Detached file (t.reach token) :=
  ⟨⟨h.corresponds.macros, h.corresponds.conditions⟩, h.output, h.including⟩

/-- A place in a line is one of the same line. -/
theorem reach_location_detached (h : s.location.Detached file t.location) (token : Token) :
    (s.reach token).location.Detached file (t.reach token).location :=
  ⟨rfl, h.path⟩

variable (env)

/-- An include names the same path in both passes. -/
theorem includeTarget_detached (h : s.location.Detached file t.location)
    (hpath : s.location.path.isSome = true) (name : String) :
    includeTarget (env.withBase (some file.parent)) t name = includeTarget env s name := by
  unfold includeTarget
  obtain hsame | ⟨hfile, hnone⟩ := h.path
  · obtain ⟨path, hsome⟩ := Option.isSome_iff_exists.1 hpath
    rw [← hsame, hsome]
  · rw [hfile, hnone]
    rfl

/-- A file is read in both passes, or in neither, for the same reason. -/
theorem readInclude_detached {one other : Location} (h : one.Detached file other) (target : Path)
    (base : Option Path) :
    (∃ text, readInclude env one target = .ok text ∧
      readInclude (env.withBase base) other target = .ok text) ∨
    ∃ e e', readInclude env one target = .error e ∧
      readInclude (env.withBase base) other target = .error e' ∧ e.Detached file e' := by
  unfold readInclude
  have hread : (env.withBase base).files.readText target (env.withBase base).config =
      env.files.readText target env.config := rfl
  rw [hread]
  generalize env.files.readText target env.config = result
  match result with
  | .ok text => exact .inl ⟨text, rfl, rfl⟩
  | .error (.undecodable (.malformed _)) => exact .inr ⟨_, _, rfl, rfl, .located _ h⟩
  | .error (.undecodable (.refused _)) => exact .inr ⟨_, _, rfl, rfl, .same _⟩
  | .error (.file e) =>
    simp only
    split
    · exact .inr ⟨_, _, rfl, rfl, .same _⟩
    · exact .inr ⟨_, _, rfl, rfl, .located _ h⟩
  | .error (.fault e) => exact .inr ⟨_, _, rfl, rfl, .same _⟩
  | .error .unencodable => exact .inr ⟨_, _, rfl, rfl, .same _⟩
  | .error (.unknownEncoding _) => exact .inr ⟨_, _, rfl, rfl, .same _⟩
  | .error .integerTooLong => exact .inr ⟨_, _, rfl, rfl, .same _⟩
  | .error .overflow => exact .inr ⟨_, _, rfl, rfl, .same _⟩

/-- A token includes the same file in both passes, or none. -/
theorem inclusion?_detached (h : s.Detached file t)
    (hplace : s.location.Detached file t.location) (hpath : s.location.path.isSome = true)
    (token : Token) :
    inclusion? (env.withBase (some file.parent)) t token = inclusion? env s token := by
  have hsuppressed := h.corresponds.suppressed
  have hrec : (env.withBase (some file.parent)).config.recursiveIncludes =
      env.config.recursiveIncludes := rfl
  unfold inclusion?
  rw [← hsuppressed, hrec]
  split
  · rfl
  cases role token with
  | inclusion payload =>
    simp only
    have htarget := includeTarget_detached env (reach_location_detached hplace token) hpath
      (stripWrapping (Text.strip payload))
    rw [htarget]
    obtain ⟨text, hone, hother⟩ | ⟨e, e', hone, hother, -⟩ :=
      readInclude_detached env (reach_location_detached hplace token)
        (includeTarget env (s.reach token) (stripWrapping (Text.strip payload)))
        (some file.parent)
    · rw [hone, hother]
      rfl
    · rw [hone, hother]
  | _ => rfl

variable {env}

/-- Processing a token does the same in both passes if it has no file processed in its place. -/
theorem processToken_detached (h : s.Detached file t)
    (hplace : s.location.Detached file t.location) (hpath : s.location.path.isSome = true)
    (hnone : inclusion? env s token = none) :
    let one := processToken env Moment.noFile s token
    let other := processToken (env.withBase (some file.parent)) Moment.noFile t token
    one.1.Detached file other.1 ∧ Option.Rel (Failure.Detached file) one.2 other.2 := by
  intro one other
  have hincluding : one.1.including = file :: other.1.including := by
    rw [(processToken_continues env Moment.returns_noFile s token).including,
      (processToken_continues (env.withBase (some file.parent)) Moment.returns_noFile t
        token).including]
    exact h.including
  cases hname : includedName? s token with
  | none =>
    -- Nothing is included, and the base directory matters to includes only.
    have hconstants : env.config.SharesConstants (env.withBase (some file.parent)).config :=
      .of_eq rfl rfl rfl
    have hstep := processToken_corresponds hconstants Moment.noFile Moment.noFile h.corresponds
      (reach_location_detached hplace token) hname
    obtain ⟨text, hone, hother⟩ := hstep.output
    refine ⟨⟨hstep.states, ?_, hincluding⟩, ?_⟩
    · rw [hone, hother, h.output]
    · have hfailures := hstep.failures
      change Option.Rel _ one.2 other.2 at hfailures
      generalize one.2 = first at hfailures ⊢
      generalize other.2 = second at hfailures ⊢
      cases hfailures with
      | none => exact .none
      | some he =>
        obtain ⟨problem, hlocated⟩ := he
        exact .some (.located problem hlocated)
  | some name =>
    -- An include directive is left, of which the file is taken as it is or cannot be read.
    obtain ⟨hkept, payload, hrole, hpayload⟩ := includedName?_eq_some hname
    have hkept' : t.suppressed = false := h.corresponds.suppressed ▸ hkept
    have hreach := h.reach token
    have htarget := includeTarget_detached env (reach_location_detached hplace token) hpath
      (stripWrapping (Text.strip payload))
    have hread := readInclude_detached env (reach_location_detached hplace token)
      (includeTarget env (s.reach token) (stripWrapping (Text.strip payload)))
      (some file.parent)
    suffices hsettled : one.1.Corresponds (Location.Detached file) other.1 ∧
        one.1.output = other.1.output ∧ Option.Rel (Failure.Detached file) one.2 other.2 from
      ⟨⟨hsettled.1, hsettled.2.1, hincluding⟩, hsettled.2.2⟩
    simp only [one, other]
    rw [processToken_inclusion hrole, processToken_inclusion hrole, hkept, hkept',
      if_neg Bool.false_ne_true, if_neg Bool.false_ne_true]
    unfold includeFile
    rw [htarget]
    -- A file that can be read would be processed in the place of the token if includes were.
    simp only [inclusion?, hkept, hrole, Bool.or_false] at hnone
    generalize includeTarget env (s.reach token) (stripWrapping (Text.strip payload)) = target
      at hread hnone ⊢
    obtain ⟨text, hone, hother⟩ | ⟨e, e', hone, hother, he⟩ := hread
    · have hrec : env.config.recursiveIncludes = false := by
        by_contra hrec
        simp [hone, hrec] at hnone
      have hrec' : (env.withBase (some file.parent)).config.recursiveIncludes = false := hrec
      simp only [hone, hother, hrec, hrec', Bool.false_eq_true, if_false]
      refine ⟨⟨hreach.corresponds.macros, hreach.corresponds.conditions⟩, ?_, .none⟩
      show (s.reach token).output ++ text = (t.reach token).output ++ text
      rw [hreach.output]
    · simp only [hone, hother]
      exact ⟨⟨hreach.corresponds.macros, hreach.corresponds.conditions⟩, hreach.output, .some he⟩

end Detached

namespace Moment

variable {env : Environment} {file : Path}

/-- The failure of a pass in which the file that it is over includes itself. -/
def IncludesItself (env : Environment) (file : Path) (failure : Option Failure) : Prop :=
  env.config.recursiveIncludes = true ∧ ∃ chain location,
    failure = some (.at (.circularInclude (file :: chain ++ [file])) location)

/-- The same is left of the innermost texts, and they stay together when the same is done with
both. -/
theorem levels_detached {left : List Piece} {back : Location} {outer levels : List Level}
    (h : Level.Detached file (⟨left, back⟩ :: outer) levels) :
    ∃ back' outer', levels = ⟨left, back'⟩ :: outer' ∧
      ∀ rest, Level.Detached file (⟨rest, back⟩ :: outer) (⟨rest, back'⟩ :: outer') := by
  cases h with
  | source => exact ⟨back, [], rfl, fun rest => .source ⟨rest, back⟩⟩
  | within _ hback hpath houter hrest =>
    exact ⟨_, _, rfl, fun rest => .within rest hback hpath houter hrest⟩

/-- A pass over a file has as many texts in progress as one over its text. -/
theorem length_detached {levels levels' : List Level} (h : Level.Detached file levels levels') :
    levels.length = levels'.length := by
  induction h with
  | finished => rfl
  | source => rfl
  | within left hback hpath houter hrest ih => rw [List.length_cons, List.length_cons, ih]

/-- Where a text is left that is not the source, both passes come back to the one around it. -/
theorem left_detached {s t : State} (h : s.Detached file t) (back back' : Location)
    {outer outer' : List Level} (houter : outer ≠ []) (hrest : Level.Detached file outer outer')
    (ht : t.including ≠ []) : (left s back outer).Detached file (left t back' outer') := by
  refine ⟨⟨h.corresponds.macros, h.corresponds.conditions⟩, h.output, ?_⟩
  have houter' : outer' ≠ [] := by
    rw [← List.length_pos_iff, ← length_detached hrest]
    exact List.length_pos_iff.2 houter
  unfold left
  simp only [List.isEmpty_eq_false_iff.2 houter, List.isEmpty_eq_false_iff.2 houter',
    Bool.false_eq_true, if_false]
  rw [h.including, List.dropLast_cons_of_ne_nil ht]

/-- The passes stay together from one moment to the next, unless the file includes itself. -/
theorem Detached.advance {m m' n : Moment} (h : Detached file m n)
    (hnested : Nested (env.withBase (some file.parent)) none n) (hnext : Advances env m m') :
    (∃ n', Advances (env.withBase (some file.parent)) n n' ∧ Detached file m' n') ∨
      IncludesItself env file m'.failure := by
  obtain ⟨t, levels, failure⟩ := n
  obtain ⟨hstate, hplace, hlevels, hfailure⟩ := h
  dsimp only at hstate hplace hlevels hfailure
  -- What is done depends on the first piece of the innermost text, which is the same for both.
  cases hnext with
  | @leave s rest back outer failure' hleave =>
    -- Both passes leave a text where nothing is left of it, or after a failure.
    have hdone : failure = none → rest = [] := by
      rintro rfl
      cases hfailure
      exact hleave rfl
    refine .inl ?_
    cases hlevels with
    | source =>
      exact ⟨_, .leave hdone, ⟨⟨hstate.corresponds.macros, hstate.corresponds.conditions⟩,
        hstate.output, hstate.including⟩, fun hne => absurd rfl hne, .finished, hfailure⟩
    | @within _ _ back' _ outer' hback hpath houter hrest =>
      -- The other pass is within a file that it has entered itself, so that it has one to leave.
      have hdepth := hnested.depth (List.cons_ne_nil _ _)
      have hlength := length_detached hrest
      have hpos := List.length_pos_iff.2 houter
      have hincluding : t.including ≠ [] := by
        rw [← List.length_pos_iff]
        simp only [List.length_cons, Option.toList_none, List.length_nil] at hdepth
        omega
      exact ⟨_, .leave hdone, left_detached hstate back back' houter hrest hincluding,
        fun _ => ⟨hback, hpath⟩, hrest, hfailure⟩
  | warn =>
    cases hfailure
    obtain ⟨back', outer', rfl, hrest⟩ := levels_detached hlevels
    exact .inl ⟨_, .warn, ⟨⟨hstate.corresponds.macros, hstate.corresponds.conditions⟩,
      hstate.output, hstate.including⟩, fun _ => hplace (List.cons_ne_nil _ _), hrest _, .none⟩
  | @process s token rest back outer hnone =>
    cases hfailure
    obtain ⟨back', outer', rfl, hrest⟩ := levels_detached hlevels
    obtain ⟨hlocation, hpath⟩ := hplace (List.cons_ne_nil _ _)
    obtain ⟨hafter, hfailure⟩ := processToken_detached hstate hlocation hpath hnone
    -- What one pass processes in the place of a token, the other one does.
    have hnone' := inclusion?_detached env hstate hlocation hpath token
    rw [hnone] at hnone'
    refine .inl ⟨_, .process hnone', hafter, fun _ => ?_, hrest _, hfailure⟩
    dsimp only
    rw [processToken_noFile_location, processToken_noFile_location]
    exact ⟨reach_location_detached hlocation token, hpath⟩
  | @«repeat» s token rest back outer inclusion hsome hmem =>
    cases hfailure
    obtain ⟨back', outer', rfl, hrest⟩ := levels_detached hlevels
    obtain ⟨hlocation, hpath⟩ := hplace (List.cons_ne_nil _ _)
    have hsome' := inclusion?_detached env hstate hlocation hpath token
    rw [hsome] at hsome'
    have hreach := reach_location_detached hlocation token
    -- The files in progress are the same but for the one whose text the other pass is over.
    by_cases hmem' : inclusion.file ∈ t.including
    · refine .inl ⟨_, .repeat hsome' hmem', ⟨⟨hstate.corresponds.macros,
        hstate.corresponds.conditions⟩, hstate.output, hstate.including⟩, fun _ => ⟨hreach, hpath⟩,
        hrest _, .some ?_⟩
      unfold circular
      have hincluding : (s.read token inclusion).including = file :: t.including := hstate.including
      rw [hincluding]
      exact .circular (t.including ++ [inclusion.file]) hreach
    · -- The file that is included is the one whose text the other pass is over.
      rw [hstate.including] at hmem
      have hfile : inclusion.file = file := (List.mem_cons.1 hmem).resolve_right hmem'
      refine .inr ⟨(inclusion?_eq_some hsome).1, t.including, (s.reach token).location, ?_⟩
      dsimp only
      unfold circular
      have hincluding : (s.read token inclusion).including = file :: t.including := hstate.including
      rw [hincluding, hfile]
      rfl
  | @enter s token rest back outer inclusion hsome hmem =>
    cases hfailure
    obtain ⟨back', outer', rfl, hrest⟩ := levels_detached hlevels
    obtain ⟨hlocation, hpath⟩ := hplace (List.cons_ne_nil _ _)
    have hsome' := inclusion?_detached env hstate hlocation hpath token
    rw [hsome] at hsome'
    have hreach := reach_location_detached hlocation token
    rw [hstate.including, List.mem_cons, not_or] at hmem
    refine .inl ⟨_, .enter hsome' hmem.2, ⟨⟨hstate.corresponds.macros,
      hstate.corresponds.conditions⟩, hstate.output, ?_⟩, fun _ => ⟨⟨hreach.line, .inl rfl⟩, rfl⟩,
      .within _ hreach hpath (List.cons_ne_nil _ _) (hrest _), .none⟩
    show s.including ++ [inclusion.file] = file :: (t.including ++ [inclusion.file])
    rw [hstate.including]
    rfl

/-- The passes stay together all along, unless the file includes itself. -/
theorem Detached.reaches {m m' n : Moment} (h : Detached file m n)
    (hnested : Nested (env.withBase (some file.parent)) none n) (hm : Reaches env m m') :
    (∃ n', Reaches (env.withBase (some file.parent)) n n' ∧ Detached file m' n') ∨
      IncludesItself env file m'.failure := by
  induction hm with
  | refl => exact .inl ⟨n, .refl, h⟩
  | tail _ hnext ih =>
    have hadvances := advances_of_next? hnext
    obtain ⟨n', hn', hdetached⟩ | ⟨hrec, chain, location, hfailure⟩ := ih
    · obtain ⟨n'', hnext', hdetached'⟩ | hitself :=
        hdetached.advance (hnested.reaches hn') hadvances
      · exact .inl ⟨n'', hn'.trans hnext'.reaches, hdetached'⟩
      · exact .inr hitself
    · -- A pass that has failed stays so.
      exact .inr ⟨hrec, chain, location, (hadvances.failed hfailure).1⟩

/-- A pass over a file and one over its text begin together. -/
theorem detached_start (env : Environment) (file : Path) (state : State) (pieces : Tokenized) :
    Detached file (start env state pieces (some file))
      (start (env.withBase (some file.parent)) state pieces none) where
  state := by
    have hsame := State.Corresponds.refl (Location.Detached.refl file) (begin env.config state none)
    exact ⟨⟨hsame.macros, rfl⟩, rfl, rfl⟩
  place := fun _ => ⟨⟨rfl, .inr ⟨rfl, rfl⟩⟩, rfl⟩
  levels := .source _
  failure := .none

end Moment

section Run

variable {env : Environment} {file : Path}

/-- Passes that are together at their ends have the same result. -/
theorem finish_detached {one other : Step} (hstate : one.1.Detached file other.1)
    (hfailure : Option.Rel (Failure.Detached file) one.2 other.2) :
    Failure.ResultsDetached file (finish (some file) one).result (finish none other).result := by
  obtain ⟨s, failure⟩ := one
  obtain ⟨t, failure'⟩ := other
  cases hfailure with
  | some he => exact .error he
  | none =>
    have hconditions : s.conditions = t.conditions := hstate.corresponds.conditions
    have houtput : s.output = t.output := hstate.output
    simp only [finish, hconditions]
    cases t.conditions.finish with
    | none =>
      simp only [Step.result, houtput]
      exact .ok t.output
    | some imbalance =>
      have hplace : (⟨some file, 0⟩ : Location).Detached file ⟨none, 0⟩ := ⟨rfl, .inr ⟨rfl, rfl⟩⟩
      exact .error (.located _ hplace)

/-- A pass over a file has the result of one over its text, or the file includes itself. -/
theorem run_detached (hpath : env.Provides (some file)) (state : State) (source : String) :
    Failure.ResultsDetached file (run env state source (some file)).result
        (processText (env.withBase (some file.parent)) state source).result ∨
      Moment.IncludesItself env file (run env state source (some file)).2 := by
  have htext : (env.withBase (some file.parent)).Provides none := .text
  obtain ⟨last, hlast, hempty, hrun⟩ :=
    runPieces_eval env state (Source.tokenize source) hpath
  obtain ⟨last', hlast', -, hrun'⟩ :=
    runPieces_eval (env.withBase (some file.parent)) state (Source.tokenize source) htext
  rw [run_eq_runPieces, processText, run_eq_runPieces, ← hrun, ← hrun']
  obtain ⟨n, hn, hdetached⟩ | ⟨hrec, chain, location, hfailure⟩ :=
    (Moment.detached_start env file state (Source.tokenize source)).reaches
      (Moment.nested_start htext state (Source.tokenize source))
      (StateTransition.mem_eval.1 hlast).1
  · -- Both passes are over at the same moment.
    have hlength := Moment.length_detached hdetached.levels
    rw [hempty] at hlength
    have hover : Moment.next? (env.withBase (some file.parent)) n = none := by
      obtain ⟨t, levels, failure⟩ := n
      obtain rfl := List.eq_nil_of_length_eq_zero hlength.symm
      rfl
    obtain rfl := Part.mem_unique hlast' (StateTransition.mem_eval.2 ⟨hn, hover⟩)
    exact .inl (finish_detached hdetached.state hdetached.failure)
  · refine .inr ⟨hrec, chain, location, ?_⟩
    rw [hfailure]
    rfl

/-- A pass over a file does not depend on the base directory. -/
theorem processFile_withBase (env : Environment) (state : State) (path : Path)
    (base : Option Path) :
    (processFile (env.withBase base) state path).result = (processFile env state path).result := by
  have hsource : readSource (env.withBase base) path = readSource env path := rfl
  unfold processFile
  rw [hsource]
  cases hread : readSource env path with
  | error e => rfl
  | ok source =>
    have hfits := fits_of_readSource hread
    have halike : env.Alike (env.withBase base) := ⟨rfl, .of_eq rfl rfl rfl, rfl⟩
    have hagree := emits_agree halike (depthBound env.files) (depthBound env.files) _ _
      (.refl (begin env.config state (some (path.resolve env.files.here)))) source
      (path.resolve env.files.here) hfits hfits fun _ _ => rfl
    exact (finish_agree hagree (some (path.resolve env.files.here))).result_eq.1.symm

end Run

/-- Processing a file is processing its text with the directory of the file as the base directory:

* if the pass over the file produces a text, the pass over its text produces the same;
* unless included files are preprocessed, both produce the same text, or fail with the same problem
  in the same line;
* where included files are preprocessed, this holds as well unless the file includes itself, which
  ends the pass over the file;
* the pass over the file does not depend on the base directory. -/
theorem processFile_detached (env : Environment) (state : State) (path : Path) :
    let file := path.resolve env.files.here
    let based := env.withBase (some file.parent)
    (∀ text, (processFile env state path).result = .ok text →
      ∃ source, readSource env path = .ok source ∧
        (processText based state source).result = .ok text) ∧
    (∀ source, readSource env path = .ok source → env.config.recursiveIncludes = false →
      Failure.ResultsDetached file (processFile env state path).result
        (processText based state source).result) ∧
    (∀ source, readSource env path = .ok source → env.config.recursiveIncludes = true →
      Failure.ResultsDetached file (processFile env state path).result
          (processText based state source).result ∨
        ∃ chain location, (processFile env state path).result =
          .error (.at (.circularInclude (file :: chain ++ [file])) location)) ∧
    ∀ base, (processFile (env.withBase base) state path).result =
      (processFile env state path).result := by
  intro file based
  -- The pass over the file is one over its text, unless the file cannot be read.
  have hrun : ∀ source, readSource env path = .ok source →
      Failure.ResultsDetached file (processFile env state path).result
          (processText based state source).result ∨
        Moment.IncludesItself env file (processFile env state path).2 := by
    intro source hread
    have hprocess : processFile env state path = run env state source (some file) := by
      rw [processFile, hread]
    rw [hprocess]
    exact run_detached (.file hread) state source
  refine ⟨fun text htext => ?_, fun source hread hrec => ?_, fun source hread _ => ?_,
    processFile_withBase env state path⟩
  · cases hread : readSource env path with
    | error e =>
      rw [processFile, hread] at htext
      cases htext
    | ok source =>
      refine ⟨source, rfl, ?_⟩
      generalize processFile env state path = step at htext hrun
      obtain hresults | ⟨-, chain, location, hfailure⟩ := hrun source hread
      · rw [htext] at hresults
        generalize (processText based state source).result = result at hresults ⊢
        cases hresults
        rfl
      · -- The pass over the file has not failed.
        obtain ⟨after, failure⟩ := step
        obtain rfl : failure = some _ := hfailure
        cases htext
  -- A file does not include itself where includes are not preprocessed.
  · refine (hrun source hread).resolve_right fun hitself => ?_
    exact Bool.false_ne_true (hrec.symm.trans hitself.1)
  · refine (hrun source hread).imp id fun hitself => ?_
    obtain ⟨-, chain, location, hfailure⟩ := hitself
    generalize processFile env state path = step at hfailure ⊢
    obtain ⟨after, failure⟩ := step
    obtain rfl : failure = some _ := hfailure
    exact ⟨chain, location, rfl⟩

/-- A file in a directory that includes another one there, by a name that leads nowhere from the
working directory. -/
theorem processFile_detached_include :
    let one : Node := .file (Text.Encoding.encodeUtf8 "#include 'b'\nx = A\n") 0
    let other : Node := .file (Text.Encoding.encodeUtf8 "#define A 1\ny = 2\n") 0
    let files : FileTree :=
      ⟨[(["d"], .directory), (["d", "a"], one), (["d", "b"], other)], ⟨"/", []⟩, 0⟩
    let env : Environment := ⟨{ recursiveIncludes := true }, files⟩
    let state := State.start env.config.mode
    (processFile env state (.ofText "d/a")).result = .ok "\ny = 2\n\nx = A\n" ∧
      (processText (env.withBase (some ⟨"/", ["d"]⟩)) state "#include 'b'\nx = A\n").result =
        .ok "\ny = 2\n\nx = A\n" := by
  intro one other files env state
  have hfile : (processFile env state (.ofText "d/a")).result =
      .ok "\ny = 2\n\nx = A\n" := by decide +kernel
  obtain ⟨source, hread, htext⟩ := (processFile_detached env state (.ofText "d/a")).1 _ hfile
  have hsource : readSource env (.ofText "d/a") = .ok "#include 'b'\nx = A\n" := by decide +kernel
  obtain rfl := Except.ok.inj (hread.symm.trans hsource)
  have hparent : ((Path.ofText "d/a").resolve env.files.here).parent = ⟨"/", ["d"]⟩ := by
    decide +kernel
  rw [hparent] at htext
  exact ⟨hfile, htext⟩

/-- A file that includes itself behind a guard: its text includes it, but it does not itself. -/
example :
    let source := "#ifndef A\n#define A\n#include 'a'\nx\n#endif\n"
    let files : FileTree := ⟨[(["a"], .file (Text.Encoding.encodeUtf8 source) 0)], ⟨"/", []⟩, 0⟩
    let env : Environment := ⟨{ recursiveIncludes := true }, files⟩
    let file : Path := ⟨"/", ["a"]⟩
    (preprocessFile env file, preprocess env source) =
      (.error (.at (.circularInclude [file, file]) ⟨some file, 3⟩), .ok "\n\n\n\nx\n\n") := by
  decide +kernel

end Pass

end Hashmark
