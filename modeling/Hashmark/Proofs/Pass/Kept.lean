import Hashmark.Proofs.Pass.Correspondence
import Hashmark.Proofs.Pass.Identity
import Hashmark.Proofs.Source.Comments

/-!
# What a pass keeps of its source

A pass comes to the tokens of its source one after another, each time in some state
(`encounters`). In that state a comment may be consumed as a directive, and any other token is kept
unless text is suppressed. So the output of a pass that includes nothing is what it keeps of the
source, in order. Where text is never suppressed, the pass leaves out nothing but the comments that
it consumes; they have no line feed, and each line of the output is what is left of the
corresponding line of the source (`run_lines`).
-/

namespace Hashmark.Pass

open Source (Token Tokenized concatText)

/-- A token, and the state in which a pass comes to it. -/
structure Encounter where
  /-- The state. -/
  state : State
  /-- The token. -/
  token : Token

namespace Encounter

/-- Whether the token is a comment that the pass consumes as a directive. -/
def isConsumed (env : Environment) (encounter : Encounter) : Bool :=
  encounter.token.isCandidate &&
    match (handleComment env (included env) (encounter.state.reach encounter.token)
      encounter.token.text).2 with
    | .ok consumed => consumed
    | .error _ => false

/-- Whether the pass copies the token. -/
def isKept (env : Environment) (encounter : Encounter) : Bool :=
  !encounter.isConsumed env && !encounter.state.suppressed

/-- The characters of the token, each with whether it is consumed. -/
def characters (env : Environment) (encounter : Encounter) : List (Char × Bool) :=
  encounter.token.text.toList.map fun c => (c, encounter.isConsumed env)

end Encounter

/-- How a pass comes to tokens, one after another. -/
def encounters (env : Environment) : State → List Token → List Encounter
  | _, [] => []
  | state, token :: tokens =>
    ⟨state, token⟩ :: encounters env (processToken env (included env) state token).1 tokens

/-- How a pass over a text comes to its tokens. -/
def encountersOf (env : Environment) (state : State) (text : String) (path : Option Path) :
    List Encounter :=
  let pieces := Source.tokenize text
  let first := state.enter env path
  let behind := (processTokens env (included env) first pieces.scanned).1
  let warnings := pieces.warning.toList.map (warningText behind.location.path)
  encounters env first pieces.scanned ++
    encounters env { behind with warnings := warnings ++ behind.warnings } pieces.rest.toList

/-- The characters of a source, each with whether a pass consumes it. -/
def charactersOf (env : Environment) (state : State) (text : String) (path : Option Path) :
    List (Char × Bool) :=
  (encountersOf env state text path).flatMap (Encounter.characters env)

/-- The lines that characters make up, without their line feeds. -/
def rows (characters : List (Char × Bool)) : List (List (Char × Bool)) :=
  characters.splitOnP fun c => c.1 == '\n'

/-- What is handled in a state adds nothing to the output, and changes nothing unless it is
consumed. -/
def Handled.AddsNothing (state : State) (handled : Handled) : Prop :=
  ∀ consumed, handled.2 = .ok consumed →
    handled.1.output = state.output ∧ (consumed = false → handled.1 = state)

section Token

variable {env : Environment} {emit : State → String → Path → Step} {state : State} {token : Token}

/-- What is left or consumed without a change adds nothing. -/
theorem idle_addsNothing (state : State) (consumed : Bool) :
    Handled.AddsNothing state (state, .ok consumed) :=
  fun _ _ => ⟨rfl, fun _ => rfl⟩

/-- A change of the blocks adds nothing. -/
theorem changeBlocks_addsNothing (state : State) (result : Except Imbalance Conditional) :
    (changeBlocks state result).AddsNothing state := by
  intro consumed h
  cases result with
  | ok conditions =>
    cases h
    exact ⟨rfl, by simp⟩
  | error e => cases h

/-- A definition adds nothing. -/
theorem defineMacro_addsNothing (state : State) (payload : String) :
    (defineMacro state payload).AddsNothing state := by
  intro consumed h
  simp only [defineMacro] at h ⊢
  generalize MacroTable.define _ _ _ _ = result at h ⊢
  cases result with
  | ok macros =>
    cases h
    exact ⟨rfl, by simp⟩
  | error e => cases h

/-- A directive that includes no file adds nothing. -/
theorem obey_addsNothing {command : Command} {payload : Option String}
    (h : ∀ text, Role.ofCommand command payload = .inclusion text → state.suppressed = true) :
    (obey env emit state command payload).AddsNothing state := by
  refine obey_cases (P := Handled.AddsNothing state) ?idle ?turn ?define ?inclusion
  case idle => exact idle_addsNothing state
  case turn => exact fun result _ => changeBlocks_addsNothing state result
  case define => exact fun text _ _ => defineMacro_addsNothing state text
  case inclusion =>
    intro text hrole hkept
    rw [h text hrole] at hkept
    cases hkept

/-- A comment that includes no file adds nothing where it is handled. -/
theorem handleComment_addsNothing (hcandidate : token.isCandidate = true)
    (hname : includedName? state token = none) :
    (handleComment env emit (state.reach token) token.text).AddsNothing (state.reach token) := by
  unfold handleComment
  dsimp only
  split
  case h_1 => exact idle_addsNothing _ false
  case h_2 command hcommand =>
    refine obey_addsNothing fun text htext => ?_
    have hrole : role token = .inclusion text := by
      rw [role, if_pos hcandidate, hcommand]
      exact htext
    exact suppressed_of_includedName? hrole hname

/-- A token that includes no file adds its text to the output if it is kept, and nothing
otherwise. -/
theorem processToken_kept {next : State} (hname : includedName? state token = none)
    (hstep : processToken env (included env) state token = (next, none)) :
    next.output.toList = state.output.toList ++
      if (Encounter.mk state token).isKept env then token.text.toList else [] := by
  have hcopy : (copy (state.reach token) token.text).output.toList =
      state.output.toList ++ if !state.suppressed then token.text.toList else [] := by
    rw [copy, State.reach_suppressed]
    cases state.suppressed with
    | true => exact (List.append_nil _).symm
    | false => exact String.toList_append
  rw [processToken_eq] at hstep
  by_cases hcandidate : token.isCandidate = true
  · rw [if_pos hcandidate] at hstep
    have hadds : (handleComment env (included env) (state.reach token) token.text).AddsNothing
        (state.reach token) := handleComment_addsNothing hcandidate hname
    simp only [Encounter.isKept, Encounter.isConsumed, hcandidate, Bool.true_and]
    generalize handleComment env (included env) (state.reach token) token.text = handled
      at hstep hadds ⊢
    obtain ⟨after, e | consumed⟩ := handled
    · cases hstep
    obtain ⟨houtput, hsame⟩ := hadds consumed rfl
    cases consumed with
    | true =>
      cases hstep
      exact (congrArg String.toList houtput).trans (List.append_nil _).symm
    | false =>
      obtain rfl : after = state.reach token := hsame rfl
      cases hstep
      exact hcopy
  · rw [if_neg hcandidate] at hstep
    cases hstep
    rw [hcopy, Encounter.isKept, Encounter.isConsumed, Bool.eq_false_iff.2 hcandidate,
      Bool.false_and, Bool.not_false, Bool.true_and]

end Token

section Pass

variable {env : Environment} {state : State}

/-- The tokens that a pass keeps of those that it comes to. -/
def keptOf (env : Environment) (encounters : List Encounter) : List Token :=
  (encounters.filter (Encounter.isKept env)).map Encounter.token

/-- What is kept of encounters and of others behind them. -/
theorem keptOf_append (first second : List Encounter) :
    keptOf env (first ++ second) = keptOf env first ++ keptOf env second := by
  rw [keptOf, List.filter_append, List.map_append]
  rfl

/-- The text of what is kept of an encounter and of others behind it. -/
theorem concatText_keptOf_cons (encounter : Encounter) (encounters : List Encounter) :
    concatText (keptOf env (encounter :: encounters)) =
      (if encounter.isKept env then encounter.token.text.toList else []) ++
        concatText (keptOf env encounters) := by
  rw [keptOf, List.filter_cons]
  split <;> rfl

/-- A pass comes to its tokens in order. -/
theorem map_encounters (state : State) (tokens : List Token) :
    (encounters env state tokens).map Encounter.token = tokens := by
  induction tokens generalizing state with
  | nil => rfl
  | cons token tokens ih => rw [encounters, List.map_cons, ih]

/-- Tokens that include no file add to the output what is kept of them. -/
theorem processTokens_kept {tokens : List Token} {next : State}
    (hname : ∀ encounter ∈ encounters env state tokens,
      includedName? encounter.state encounter.token = none)
    (hstep : processTokens env (included env) state tokens = (next, none)) :
    next.output.toList =
      state.output.toList ++ concatText (keptOf env (encounters env state tokens)) := by
  induction tokens generalizing state with
  | nil =>
    cases hstep
    exact (List.append_nil _).symm
  | cons token tokens ih =>
    obtain ⟨htoken, htokens⟩ := List.forall_mem_cons.1 hname
    rw [processTokens] at hstep
    generalize hfirst : processToken env (included env) state token = step at hstep
    obtain ⟨after, failure | e⟩ := step
    · have hafter : (processToken env (included env) state token).1 = after := by rw [hfirst]
      rw [hafter] at htokens
      rw [ih htokens hstep, processToken_kept htoken hfirst, encounters, hafter,
        concatText_keptOf_cons, List.append_assoc]
    · cases hstep

/-- A pass over a text comes to its tokens in order. -/
theorem map_encountersOf (env : Environment) (state : State) (text : String)
    (path : Option Path) :
    (encountersOf env state text path).map Encounter.token = (Source.tokenize text).tokens := by
  simp only [encountersOf, List.map_append, map_encounters]
  rfl

/-- The output of a pass that includes no file is what it keeps of its source. -/
theorem output_kept {text : String} {path : Option Path} {output : String}
    (hname : ∀ encounter ∈ encountersOf env state text path,
      includedName? encounter.state encounter.token = none)
    (h : (run env state text path).result = .ok output) :
    output.toList = concatText (keptOf env (encountersOf env state text path)) := by
  obtain ⟨after, hpieces, rfl, -⟩ := processPieces_of_result h
  simp only [encountersOf] at hname ⊢
  obtain ⟨hscanned, hrest⟩ := List.forall_mem_append.1 hname
  rw [processPieces] at hpieces
  generalize hstep : processTokens env (included env) (state.enter env path)
    (Source.tokenize text).scanned = step at hpieces hrest ⊢
  obtain ⟨behind, failure | e⟩ := step
  · have hfront := processTokens_kept hscanned hstep
    have hback := processTokens_kept hrest hpieces
    have hempty : (state.enter env path).output.toList = [] := rfl
    rw [hempty, List.nil_append] at hfront
    rw [hback, keptOf_append, Source.concatText_append, ← hfront]
  · cases hpieces

end Pass

section Rows

/-- Cutting a list and changing its elements one by one may be exchanged. -/
theorem splitOnP_map {α β : Type} (f : α → β) (p : β → Bool) (xs : List α) :
    (xs.map f).splitOnP p = (xs.splitOnP fun x => p (f x)).map (List.map f) := by
  induction xs with
  | nil => rfl
  | cons x xs ih =>
    rw [List.map_cons, List.splitOnP_cons_eq_if_modifyHead, List.splitOnP_cons_eq_if_modifyHead, ih]
    split
    · rfl
    · cases xs.splitOnP fun x => p (f x) <;> rfl

/-- Cutting a list and leaving out elements may be exchanged if no element is left out at which the
list is cut. -/
theorem splitOnP_filter {α : Type} {p q : α → Bool} {xs : List α}
    (h : ∀ x ∈ xs, p x = true → q x = true) :
    (xs.filter q).splitOnP p = (xs.splitOnP p).map (List.filter q) := by
  induction xs with
  | nil => rfl
  | cons x xs ih =>
    obtain ⟨hx, hxs⟩ := List.forall_mem_cons.1 h
    rw [List.splitOnP_cons_eq_if_modifyHead, List.filter_cons]
    by_cases hp : p x = true
    · rw [if_pos (hx hp), if_pos hp, List.splitOnP_cons_eq_if_modifyHead, if_pos hp, ih hxs]
      rfl
    · rw [if_neg hp]
      have hcons := List.splitOnP_ne_nil p xs
      cases hsplit : xs.splitOnP p with
      | nil => exact absurd hsplit hcons
      | cons first rest =>
        rw [hsplit] at ih
        rw [List.modifyHead_cons, List.map_cons, List.filter_cons]
        split
        · rw [List.splitOnP_cons_eq_if_modifyHead, if_neg hp, ih hxs]
          rfl
        · exact ih hxs

variable {env : Environment} {state : State}

/-- The characters of encounters are the text of their tokens. -/
theorem map_characters (encounters : List Encounter) :
    (encounters.flatMap (Encounter.characters env)).map Prod.fst =
      concatText (encounters.map Encounter.token) := by
  induction encounters with
  | nil => rfl
  | cons encounter encounters ih =>
    rw [List.flatMap_cons, List.map_append, ih, Encounter.characters, List.map_map]
    have hfst : (Prod.fst ∘ fun c => (c, encounter.isConsumed env)) = (id : Char → Char) := rfl
    rw [hfst, List.map_id]
    rfl

/-- Where no text is suppressed, what is kept of encounters are the characters that are not
consumed. -/
theorem filter_characters {encounters : List Encounter}
    (h : ∀ encounter ∈ encounters, encounter.state.suppressed = false) :
    ((encounters.flatMap (Encounter.characters env)).filter fun c => !c.2).map Prod.fst =
      concatText (keptOf env encounters) := by
  induction encounters with
  | nil => rfl
  | cons encounter encounters ih =>
    obtain ⟨hfirst, hrest⟩ := List.forall_mem_cons.1 h
    rw [List.flatMap_cons, List.filter_append, List.map_append, ih hrest, concatText_keptOf_cons,
      Encounter.isKept, hfirst, Encounter.characters, List.filter_map, List.map_map]
    congr 1
    cases encounter.isConsumed env <;> simp [Function.comp_def]

/-- No line feed is consumed. -/
theorem ne_newline_of_consumed {text : String} {path : Option Path} :
    ∀ c ∈ charactersOf env state text path, c.2 = true → c.1 ≠ '\n' := by
  intro c hc hconsumed
  obtain ⟨encounter, hencounter, hmem⟩ := List.mem_flatMap.1 hc
  obtain ⟨d, hd, rfl⟩ := List.mem_map.1 hmem
  have htoken : encounter.token ∈ (Source.tokenize text).tokens := by
    rw [← map_encountersOf env state text path]
    exact List.mem_map_of_mem hencounter
  have hcomment : encounter.token.kind = .comment := by
    have hcandidate := (Bool.and_eq_true_iff.1 hconsumed).1
    exact of_decide_eq_true (Bool.and_eq_true_iff.1 hcandidate).1
  rintro rfl
  exact Source.notMem_of_comment htoken hcomment hd

end Rows

/-- A pass that succeeds and includes no file gives some of the tokens of its source, in order. If
no text is suppressed when it comes to a token, then the output has as many line feeds as the
source, and each line of it is that of the source without the comments that are consumed. -/
theorem run_lines (env : Environment) (state : State) (text : String) (path : Option Path)
    {output : String}
    (hname : ∀ encounter ∈ encountersOf env state text path,
      includedName? encounter.state encounter.token = none)
    (h : (run env state text path).result = .ok output) :
    (∃ kept, kept.Sublist (Source.tokenize text).tokens ∧ output.toList = concatText kept) ∧
    ((∀ encounter ∈ encountersOf env state text path, encounter.state.suppressed = false) →
      output.toList.count '\n' = text.toList.count '\n' ∧
      text.toList.splitOn '\n' =
        (rows (charactersOf env state text path)).map (List.map Prod.fst) ∧
      output.toList.splitOn '\n' =
        (rows (charactersOf env state text path)).map fun row =>
          (row.filter fun c => !c.2).map Prod.fst) := by
  have houtput := output_kept hname h
  refine ⟨⟨_, ?_, houtput⟩, fun hkept => ?_⟩
  · rw [← map_encountersOf env state text path]
    exact List.filter_sublist.map Encounter.token
  have hsource : (charactersOf env state text path).map Prod.fst = text.toList := by
    rw [charactersOf, map_characters, map_encountersOf]
    exact Source.concatText_ofMarks _ _
  rw [← filter_characters hkept] at houtput
  change _ = ((charactersOf env state text path).filter _).map _ at houtput
  have hfeeds : ∀ c ∈ charactersOf env state text path, (c.1 == '\n') = true → (!c.2) = true := by
    intro c hc hfeed
    by_contra hconsumed
    exact ne_newline_of_consumed c hc (by simpa using hconsumed) (eq_of_beq hfeed)
  rw [houtput, ← hsource]
  generalize charactersOf env state text path = characters at hfeeds
  refine ⟨?_, splitOnP_map _ _ _, ?_⟩
  · rw [List.count_eq_countP, List.count_eq_countP, List.countP_map, List.countP_map,
      List.countP_filter]
    refine List.countP_congr fun c hc => ?_
    simpa using hfeeds c hc
  · rw [List.splitOn, splitOnP_map, splitOnP_filter hfeeds, List.map_map]
    rfl

/-- Directives behind code and on lines of their own, a comment behind a string that contains a line
with a number sign, and a definition that defines nothing. -/
theorem run_lines_directives :
    ∃ (env : Environment) (state : State) (text output : String),
      text = "a = 1 #define A 1\n#ifdef A\ns = '''b\n#c''' # d\n#define\n#endif\r\ne" ∧
      output = "a = 1 \n\ns = '''b\n#c''' # d\n#define\n\r\ne" ∧
      (∀ encounter ∈ encountersOf env state text none,
        includedName? encounter.state encounter.token = none ∧
          encounter.state.suppressed = false) ∧
      (run env state text none).result = .ok output ∧
      output.toList.count '\n' = text.toList.count '\n' := by
  obtain ⟨env, henv⟩ : ∃ env, env = Environment.mk {} ⟨[], ⟨"/", []⟩, 0⟩ := ⟨_, rfl⟩
  obtain ⟨text, htext⟩ : ∃ text,
      text = "a = 1 #define A 1\n#ifdef A\ns = '''b\n#c''' # d\n#define\n#endif\r\ne" :=
    ⟨_, rfl⟩
  obtain ⟨output, houtput⟩ : ∃ output,
      output = "a = 1 \n\ns = '''b\n#c''' # d\n#define\n\r\ne" := ⟨_, rfl⟩
  have hmet : ∀ encounter ∈ encountersOf env (.start .scoped) text none,
      includedName? encounter.state encounter.token = none ∧
        encounter.state.suppressed = false := by
    subst henv htext
    decide +kernel
  have hresult : (run env (.start .scoped) text none).result = .ok output := by
    subst henv htext houtput
    decide +kernel
  obtain ⟨-, hlines⟩ := run_lines _ _ _ _ (fun encounter h => (hmet encounter h).1) hresult
  obtain ⟨hcount, -⟩ := hlines fun encounter h => (hmet encounter h).2
  exact ⟨env, _, text, output, htext, houtput, hmet, hresult, hcount⟩

end Hashmark.Pass
