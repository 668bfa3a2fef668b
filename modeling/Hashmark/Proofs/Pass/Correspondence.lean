import Hashmark.Proofs.Pass.Effect

/-!
# A token in two passes

What a token does that includes no file depends on little: the names and texts of the macros, the
constants, and the conditional blocks. So it does the same in two passes that have these in common
(`processToken_corresponds`): it adds the same text to the output, defines the same macro, turns the
blocks in the same way, or fails with the same problem. Everything else of a state it leaves alone
(`processToken_frame`).

The places of macros and failures differ as those of the tokens do. Their relation is a parameter,
`places`: with equality the macros and the failures are the same, and with a relation that always
holds nothing is said about places.
-/

namespace Hashmark

/-- Macros that are the same but for the places of their definitions, which are related. -/
structure Macro.Corresponds (places : Location → Location → Prop) (one other : Macro) : Prop where
  /-- The name is the same. -/
  name : one.name = other.name
  /-- The text is the same. -/
  value : one.value = other.value
  /-- The places are related. -/
  location : places one.location other.location
  /-- The text is the same object. -/
  object : one.object = other.object

/-- Failures with the same problem at places that are related. -/
inductive Failure.Corresponds (places : Location → Location → Prop) : Failure → Failure → Prop
  /-- The problem is the same, and the places are related. -/
  | located (problem : Problem) {one other : Location} (h : places one other) :
      Failure.Corresponds places (.at problem one) (.at problem other)

namespace Pass

open Source (Token)

/-- States in which the same macros are defined, but for the places of their definitions, and the
same blocks are open. -/
structure State.Corresponds (places : Location → Location → Prop) (one other : State) : Prop where
  /-- The macros correspond one by one. -/
  macros : List.Forall₂ (Macro.Corresponds places) one.macros.macros other.macros.macros
  /-- The same blocks are open. -/
  conditions : one.conditions = other.conditions

/-- Steps from `s` and from `t` that do the same: the states behind them correspond, the same text
has been added to the output, and they fail alike if they do. -/
structure Step.Corresponds (places : Location → Location → Prop) (s t : State)
    (one other : Step) : Prop where
  /-- The states correspond. -/
  states : one.1.Corresponds places other.1
  /-- The same text has been added. -/
  output : ∃ text, one.1.output = s.output ++ text ∧ other.1.output = t.output ++ text
  /-- The failures correspond. -/
  failures : Option.Rel (Failure.Corresponds places) one.2 other.2

/-- The name of the file that a token includes: nothing if the token is no include directive that
names a file, or text is suppressed. -/
def includedName? (state : State) (token : Token) : Option String :=
  if state.suppressed then none
  else
    match role token with
    | .inclusion payload => some (stripWrapping (Text.strip payload))
    | _ => none

/-- The blocks after the beginning of another branch. -/
def branchBlocks (blocks : Conditional) (b : BranchTest) (holds : Bool) :
    Except Imbalance Conditional :=
  match b with
  | .always => blocks.otherwise
  | _ => blocks.alternative (blocks.needsTest && holds)

section Token

variable {env : Environment} {emit : State → String → Path → Step} {state : State} {token : Token}

/-- A token that includes a file is an include directive outside suppressed text. -/
theorem includedName?_eq_some {name : String} (h : includedName? state token = some name) :
    state.suppressed = false ∧
      ∃ payload, role token = .inclusion payload ∧ name = stripWrapping (Text.strip payload) := by
  unfold includedName? at h
  cases hkept : state.suppressed with
  | true =>
    rw [if_pos hkept] at h
    cases h
  | false =>
    rw [if_neg (Bool.eq_false_iff.1 hkept)] at h
    cases hrole : role token with
    | inclusion payload =>
      simp only [hrole, Option.some.injEq] at h
      exact ⟨rfl, payload, rfl, h.symm⟩
    | _ =>
      simp only [hrole] at h
      cases h

/-- An include directive that includes no file is suppressed. -/
theorem suppressed_of_includedName? {payload : String} (hrole : role token = .inclusion payload)
    (h : includedName? state token = none) : state.suppressed = true := by
  by_contra hkept
  rw [includedName?, if_neg hkept, hrole] at h
  cases h

/-- Whether a token includes a file depends on the blocks of a state and on nothing else of it. -/
theorem includedName?_congr {s t : State} (h : s.conditions = t.conditions) (token : Token) :
    includedName? s token = includedName? t token := by
  unfold includedName? State.suppressed
  rw [h]

/-- A directive that begins another branch turns the blocks, in either model of them. Without an
expression it does nothing while text is suppressed. -/
theorem processToken_branchBlocks {b : BranchTest} (h : role token = .branch b) :
    processToken env emit state token =
      if b = .never ∧ state.suppressed = true then (state.reach token, none)
      else settle token.text
        (changeBlocks (state.reach token)
          (branchBlocks state.conditions b (b.holds env state))) := by
  obtain ⟨hcandidate, command, hcommand, hrole⟩ := command_of_role h Role.noConfusion
  rw [processToken_of_command hcandidate hcommand, ← BranchTest.holds_reach env state token]
  generalize (Directive.ofComment token.text).payload = payload at hrole
  unfold Role.ofCommand at hrole
  split at hrole
  case h_6 payload =>
    obtain rfl : .expression payload = b := by simpa using hrole
    rw [if_neg (by simp)]
    rfl
  case h_7 =>
    obtain rfl : .never = b := by simpa using hrole
    cases hsuppressed : state.suppressed with
    | true =>
      simp only [obey, State.reach_suppressed, hsuppressed, if_true, and_self, keep, settle,
        copy_of_suppressed]
    | false => simp [obey, hsuppressed, branchBlocks, BranchTest.holds]
  case h_8 =>
    obtain rfl : .always = b := by simpa using hrole
    rw [if_neg (by simp)]
    rfl
  all_goals simp at hrole

end Token

section Frame

variable {state : State} {token : Token}

/-- Besides the place that is reached, the state has at most other macros, other blocks and another
output. -/
def Frames (state : State) (token : Token) (after : State) : Prop :=
  ∃ macros conditions output, after = { state.reach token with macros, conditions, output }

/-- A change of the blocks leaves everything else alone. -/
theorem changeBlocks_frame (state : State) (token : Token) (text : String)
    (result : Except Imbalance Conditional) :
    Frames state token (settle text (changeBlocks (state.reach token) result)).1 := by
  cases result with
  | ok conditions => exact ⟨_, conditions, _, rfl⟩
  | error e => exact ⟨_, _, _, rfl⟩

/-- A token that includes no file leaves everything alone but the macros, the blocks and the output,
and the line that is reached. -/
theorem processToken_frame (env : Environment) (emit : State → String → Path → Step)
    (h : includedName? state token = none) :
    Frames state token (processToken env emit state token).1 := by
  have hreach : Frames state token (state.reach token) := ⟨_, _, _, rfl⟩
  cases hrole : role token with
  | text =>
    rw [processToken_text hrole]
    unfold copy
    split
    · exact hreach
    · exact ⟨_, _, _, rfl⟩
  | definition payload =>
    rw [processToken_definition hrole]
    split
    · exact hreach
    · simp only [defineMacro]
      generalize MacroTable.define _ _ _ _ = result
      cases result with
      | ok macros => exact ⟨macros, _, _, rfl⟩
      | error e => exact hreach
  | inclusion payload =>
    rw [processToken_inclusion hrole, if_pos (suppressed_of_includedName? hrole h)]
    exact hreach
  | opening b =>
    rw [processToken_opening hrole]
    exact ⟨_, _, _, rfl⟩
  | branch b =>
    rw [processToken_branchBlocks hrole]
    split
    · exact hreach
    · exact changeBlocks_frame state token _ _
  | ending =>
    rw [processToken_ending hrole]
    exact changeBlocks_frame state token _ _

end Frame

section Corresponds

variable {places : Location → Location → Prop} {first second : Environment} {s t : State}

/-- A state corresponds to itself. -/
theorem State.Corresponds.refl (hplaces : ∀ place, places place place) (state : State) :
    state.Corresponds places state where
  macros := List.forall₂_same.2 fun _ _ => ⟨rfl, rfl, hplaces _, rfl⟩
  conditions := rfl

/-- Macros at the same places that correspond are the same. -/
theorem State.Corresponds.macros_eq (h : s.Corresponds Eq t) : s.macros = t.macros := by
  refine MacroTable.Resembles.eq (h.macros.imp fun m m' hm => ?_)
  exact ⟨hm.name, hm.value, ⟨by rw [hm.location], by rw [hm.location]⟩, hm.object⟩

/-- Text is suppressed alike. -/
theorem State.Corresponds.suppressed (h : s.Corresponds places t) :
    s.suppressed = t.suppressed := by
  rw [State.suppressed, State.suppressed, h.conditions]

/-- Steps that fail at the same places fail alike. -/
theorem Step.Corresponds.failure_eq {one other : Step} (h : Step.Corresponds Eq s t one other) :
    one.2 = other.2 := by
  obtain ⟨state, failure⟩ := one
  obtain ⟨state', failure'⟩ := other
  obtain ⟨-, -, hfailure⟩ := h
  cases hfailure with
  | none => rfl
  | some he =>
    cases he with
    | located problem h =>
      subst h
      rfl

/-- Steps without a failure that add no text do the same if the states behind them correspond. -/
theorem Step.Corresponds.silent {after after' : State} (h : after.Corresponds places after')
    (hs : after.output = s.output) (ht : after'.output = t.output) :
    Step.Corresponds places s t (after, none) (after', none) :=
  ⟨h, ⟨"", by rw [hs, String.append_empty], by rw [ht, String.append_empty]⟩, .none⟩

/-- Steps that fail alike where they are, and add no text, do the same. -/
theorem Step.Corresponds.failed (h : s.Corresponds places t) (problem : Problem)
    (hplace : places s.location t.location) :
    Step.Corresponds places s t (s, some (.at problem s.location))
      (t, some (.at problem t.location)) :=
  ⟨h, ⟨"", String.append_empty.symm, String.append_empty.symm⟩, .some (.located problem hplace)⟩

/-- After steps without a failure that do the same, further ones that do the same do so from the
beginning. -/
theorem Step.Corresponds.trans {mid mid' : State} {one other : Step}
    (hfirst : Step.Corresponds places s t (mid, none) (mid', none))
    (h : Step.Corresponds places mid mid' one other) : Step.Corresponds places s t one other := by
  obtain ⟨text, hs, ht⟩ := hfirst.output
  obtain ⟨more, hmid, hmid'⟩ := h.output
  dsimp only at hs ht
  refine ⟨h.states, ⟨text ++ more, ?_, ?_⟩, h.failures⟩
  · rw [hmid, hs, String.append_assoc]
  · rw [hmid', ht, String.append_assoc]

/-- A name leads to macros with the same text, or to none. -/
theorem find?_corresponds (h : s.Corresponds places t) (name : String) :
    Option.Rel (Macro.Corresponds places) (s.macros.find? name) (t.macros.find? name) :=
  MacroTable.find?_rel Macro.Corresponds.name h.macros name

/-- The same names are defined. -/
theorem contains_corresponds (h : s.Corresponds places t) (name : String) :
    s.macros.contains name = t.macros.contains name := by
  have hfind := find?_corresponds h name
  rw [MacroTable.contains, MacroTable.contains]
  generalize s.macros.find? name = one at hfind
  generalize t.macros.find? name = other at hfind
  cases hfind with
  | none => rfl
  | some => rfl

/-- Tests of branches have the same results where names lead to the same constants. -/
theorem BranchTest.holds_corresponds
    (hconstants : first.config.SharesConstants second.config)
    (h : s.Corresponds places t) (b : BranchTest) : b.holds first s = b.holds second t := by
  have hlookup : lookup first s = lookup second t := by
    funext name
    have hfind := find?_corresponds h name
    unfold lookup
    rw [hconstants.ambient, hconstants.constantObject]
    generalize s.macros.find? name = one at hfind ⊢
    generalize t.macros.find? name = other at hfind ⊢
    cases hfind with
    | none => rfl
    | some hm => simp only [Macro.lookup, hm.value, hm.object]
  have htest : ∀ payload, test first s payload = test second t payload := by
    intro payload
    unfold test
    rw [hlookup]
  have hdefined : ∀ name, isDefined first s name = isDefined second t name := by
    intro name
    unfold isDefined Constants.contains
    rw [contains_corresponds h, hconstants.ambient]
  exact b.holds_of_eq htest hdefined

/-- A test has the same result with the same constants and the same macros. -/
theorem BranchTest.holds_of_constants (hconstants : first.config.SharesConstants second.config)
    (hmacros : s.macros = t.macros) (b : BranchTest) : b.holds first s = b.holds second t := by
  have hself : t.Corresponds Eq t := State.Corresponds.refl (fun _ => rfl) t
  rw [b.holds_congr hmacros]
  exact b.holds_corresponds hconstants hself

/-- Text is copied alike. -/
theorem copy_corresponds (h : s.Corresponds places t) (text : String) :
    Step.Corresponds places s t (copy s text, none) (copy t text, none) := by
  unfold copy
  rw [h.suppressed]
  split
  · exact .silent h rfl rfl
  · exact ⟨⟨h.macros, h.conditions⟩, ⟨text, rfl, rfl⟩, .none⟩

/-- Blocks are changed alike. -/
theorem changeBlocks_corresponds (h : s.Corresponds places t)
    (hplace : places s.location t.location) (text : String)
    (result : Except Imbalance Conditional) :
    Step.Corresponds places s t (settle text (changeBlocks s result))
      (settle text (changeBlocks t result)) := by
  cases result with
  | ok conditions => exact .silent ⟨h.macros, rfl⟩ rfl rfl
  | error e => exact .failed h _ hplace

/-- Macros are defined alike. -/
theorem defineMacro_corresponds (h : s.Corresponds places t)
    (hplace : places s.location t.location) (text payload : String) :
    Step.Corresponds places s t (settle text (defineMacro s payload))
      (settle text (defineMacro t payload)) := by
  simp only [defineMacro, MacroTable.define, contains_corresponds h]
  by_cases hdefined : t.macros.contains (String.ofList (Text.cut ' ' payload.toList).1) = true
  · simp only [if_pos hdefined]
    exact .failed h _ hplace
  · simp only [if_neg hdefined]
    have hmade : ∀ name value, Macro.Corresponds places ⟨name, value, s.location, none⟩
        ⟨name, value, t.location, none⟩ := fun _ _ => ⟨rfl, rfl, hplace, rfl⟩
    exact .silent ⟨List.rel_append h.macros (.cons (hmade _ _) .nil), h.conditions⟩ rfl rfl

/-- A token that includes no file does the same in two passes with the same constants, if the states
before it correspond. -/
theorem processToken_corresponds
    (hconstants : first.config.SharesConstants second.config)
    (emit emit' : State → String → Path → Step) (h : s.Corresponds places t) {token : Token}
    (hplace : places (s.reach token).location (t.reach token).location)
    (hname : includedName? s token = none) :
    Step.Corresponds places s t (processToken first emit s token)
      (processToken second emit' t token) := by
  have hreach : (s.reach token).Corresponds places (t.reach token) := ⟨h.macros, h.conditions⟩
  have hmoved : Step.Corresponds places s t (s.reach token, none) (t.reach token, none) :=
    .silent hreach rfl rfl
  cases hrole : role token with
  | text =>
    rw [processToken_text hrole, processToken_text hrole]
    exact hmoved.trans (copy_corresponds hreach token.text)
  | definition payload =>
    rw [processToken_definition hrole, processToken_definition hrole, h.suppressed]
    split
    · exact hmoved
    · exact hmoved.trans (defineMacro_corresponds hreach hplace token.text payload)
  | inclusion payload =>
    have hsuppressed := suppressed_of_includedName? hrole hname
    rw [processToken_inclusion hrole, processToken_inclusion hrole, ← h.suppressed,
      if_pos hsuppressed, if_pos hsuppressed]
    exact hmoved
  | opening b =>
    rw [processToken_opening hrole, processToken_opening hrole, h.conditions,
      b.holds_corresponds hconstants h]
    exact .silent ⟨h.macros, rfl⟩ rfl rfl
  | branch b =>
    rw [processToken_branchBlocks hrole, processToken_branchBlocks hrole, h.suppressed,
      h.conditions, b.holds_corresponds hconstants h]
    split
    · exact hmoved
    · exact hmoved.trans (changeBlocks_corresponds hreach hplace token.text _)
  | ending =>
    rw [processToken_ending hrole, processToken_ending hrole, h.conditions]
    exact hmoved.trans (changeBlocks_corresponds hreach hplace token.text _)

end Corresponds

end Pass

end Hashmark
