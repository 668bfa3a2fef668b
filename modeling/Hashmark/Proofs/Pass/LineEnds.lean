import Hashmark.Proofs.Pass.Idempotence
import Hashmark.Proofs.Pass.Verbatim
import Hashmark.Proofs.Source.Returns

/-!
# Line ends

A source may end its lines in line feeds, or in carriage returns and line feeds. A pass that includes
no file does the same with either (`processText_returned`): it succeeds or fails alike, with the same
macros, and what it produces has the line ends of its source.

No directive holds a line end, so that the two passes meet the same directives in states that know
the same (`processToken_returned`). Only text that is copied differs, and it is copied with its line
ends.
-/

namespace Hashmark.Pass

open Source (Token Tokenized returned returned_append returned_eq_self)

/-- States of two passes that know the same, where the output of the second has carriage returns. -/
structure State.Returned (one other : State) : Prop where
  /-- The same macros are defined, and the same blocks are open. -/
  corresponds : one.Corresponds Eq other
  /-- The place is in the same file. -/
  path : one.location.path = other.location.path
  /-- The second has produced the same, with carriage returns. -/
  output : other.output = returned one.output

/-- Steps of two passes that know the same and fail alike, where the output of the second has
carriage returns. -/
structure Step.Returned (one other : Step) : Prop where
  /-- The states behind them know the same. -/
  states : one.1.Returned other.1
  /-- They fail alike, or neither does. -/
  failure : one.2 = other.2

section Returned

variable {env : Environment} {emit : State → String → Path → Step} {one other : State}

/-- A token asks for the same with carriage returns, unless it is a comment that has line feeds. -/
theorem role_withReturns {token : Token}
    (hcomment : token.kind = .comment → '\n' ∉ token.text.toList) :
    role token.withReturns = role token := by
  by_cases hkind : token.kind = .comment
  · rw [Token.withReturns, returned_eq_self (hcomment hkind)]
  · have hkind' : token.withReturns.kind ≠ .comment := hkind
    rw [role_of_kind hkind, role_of_kind hkind']

/-- A token that includes no file is processed alike. -/
theorem processToken_returned (hemit : Returns emit) (h : one.Returned other) {token : Token}
    (hcomment : token.kind = .comment → '\n' ∉ token.text.toList)
    (hname : includedName? one token = none) :
    Step.Returned (processToken env emit one token)
      (processToken env emit other token.withReturns) := by
  have hpath := (processToken_continues env hemit one token).path
  have hpath' := (processToken_continues env hemit other token.withReturns).path
  have hplace : (processToken env emit one token).1.location.path =
      (processToken env emit other token.withReturns).1.location.path := by
    rw [hpath, hpath', h.path]
  by_cases hrole : role token = .text
  · -- Text is copied with its line ends, or suppressed.
    have hrole' : role token.withReturns = .text := (role_withReturns hcomment).trans hrole
    have hsuppressed : (one.reach token).suppressed = (other.reach token.withReturns).suppressed :=
      h.corresponds.suppressed
    rw [processToken_text hrole, processToken_text hrole'] at hplace ⊢
    refine ⟨⟨?_, hplace, ?_⟩, rfl⟩
    · unfold copy
      rw [hsuppressed]
      split <;> exact ⟨h.corresponds.macros, h.corresponds.conditions⟩
    · unfold copy
      rw [hsuppressed]
      split
      · exact h.output
      · show other.output ++ returned token.text = returned (one.output ++ token.text)
        rw [h.output, returned_append]
  · -- A directive is the same in both passes and produces nothing.
    have hkind : token.kind = .comment := by
      by_contra hkind
      exact hrole (role_of_kind hkind)
    have hsame : token.withReturns = token := by
      rw [Token.withReturns, returned_eq_self (hcomment hkind)]
    rw [hsame] at hplace ⊢
    have hlocation : (one.reach token).location = (other.reach token).location :=
      congrArg (Location.mk · token.line) h.path
    have hstep : Step.Corresponds Eq one other (processToken env emit one token)
        (processToken env emit other token) :=
      processToken_corresponds (.of_eq rfl rfl rfl) emit emit h.corresponds hlocation hname
    have hname' : includedName? other token = none := by
      rw [← includedName?_congr h.corresponds.conditions token, hname]
    refine ⟨⟨hstep.states, hplace, ?_⟩, hstep.failure_eq⟩
    rw [processToken_output hrole hname, processToken_output hrole hname', h.output]

/-- Tokens that read no file are processed alike. -/
theorem processTokens_returned (hemit : Returns emit) (h : one.Returned other) {tokens : List Token}
    (hcomments : ∀ token ∈ tokens, token.kind = .comment → '\n' ∉ token.text.toList)
    (hreads : (processTokens env emit one tokens).1.reads = one.reads) :
    Step.Returned (processTokens env emit one tokens)
      (processTokens env emit other (tokens.map Token.withReturns)) := by
  induction tokens generalizing one other with
  | nil => exact ⟨h, rfl⟩
  | cons token tokens ih =>
    obtain ⟨hcomment, hcomments⟩ := List.forall_mem_cons.1 hcomments
    have hcontinues := processToken_continues env hemit one token
    have hstep : (processToken env emit one token).1.reads = one.reads →
        Step.Returned (processToken env emit one token)
          (processToken env emit other token.withReturns) :=
      fun hsame => processToken_returned hemit h hcomment (includedName?_of_reads hemit hsame)
    rw [List.map_cons, processTokens, processTokens]
    rw [processTokens] at hreads
    generalize processToken env emit one token = step at hcontinues hstep hreads ⊢
    generalize processToken env emit other token.withReturns = step' at hstep ⊢
    obtain ⟨next, _ | e⟩ := step
    · -- Neither the token nor the others have read a file, since they have not all together.
      have hrest := processTokens_continues env hemit next tokens
      have hsame : next.reads = one.reads := hcontinues.reads_eq hrest hreads
      obtain ⟨hstates, hfailure⟩ := hstep hsame
      obtain ⟨next', _⟩ := step'
      obtain rfl := hfailure
      exact ih hstates hcomments (hreads.trans hsame.symm)
    · obtain ⟨hstates, hfailure⟩ := hstep hreads
      obtain ⟨next', _⟩ := step'
      obtain rfl := hfailure
      exact ⟨hstates, rfl⟩

/-- The pieces of a source that read no file are processed alike. -/
theorem processPieces_returned (hemit : Returns emit) (h : one.Returned other) {pieces : Tokenized}
    (hcomments : ∀ token ∈ pieces.tokens, token.kind = .comment → '\n' ∉ token.text.toList)
    (hreads : (processPieces env emit one pieces).1.reads = one.reads) :
    Step.Returned (processPieces env emit one pieces)
      (processPieces env emit other pieces.withReturns) := by
  have hscanned : ∀ token ∈ pieces.scanned, token.kind = .comment → '\n' ∉ token.text.toList :=
    fun token htoken => hcomments token (List.mem_append_left _ htoken)
  have hbehind : ∀ token ∈ pieces.rest.toList, token.kind = .comment → '\n' ∉ token.text.toList :=
    fun token htoken => hcomments token (List.mem_append_right _ htoken)
  have hrest : pieces.withReturns.rest.toList = pieces.rest.toList.map Token.withReturns := by
    rw [Tokenized.withReturns]
    cases pieces.rest <;> rfl
  have hcontinues := processTokens_continues env hemit one pieces.scanned
  have hstep : (processTokens env emit one pieces.scanned).1.reads = one.reads →
      Step.Returned (processTokens env emit one pieces.scanned)
        (processTokens env emit other (pieces.scanned.map Token.withReturns)) :=
    processTokens_returned hemit h hscanned
  have hmap : pieces.withReturns.scanned = pieces.scanned.map Token.withReturns := rfl
  rw [processPieces, processPieces, hrest, hmap]
  rw [processPieces] at hreads
  generalize processTokens env emit one pieces.scanned = step at hcontinues hstep hreads ⊢
  generalize processTokens env emit other (pieces.scanned.map Token.withReturns) = step'
    at hstep ⊢
  obtain ⟨next, _ | e⟩ := step
  · have hafter := processTokens_continues env hemit { next with
      warnings := pieces.warning.toList.map (warningText next.location.path) ++ next.warnings }
      pieces.rest.toList
    have hsame : next.reads = one.reads :=
      hcontinues.reads_eq ⟨hafter.1, hafter.2, hafter.3⟩ hreads
    obtain ⟨hstates, hfailure⟩ := hstep hsame
    obtain ⟨next', _⟩ := step'
    obtain rfl := hfailure
    refine processTokens_returned hemit ?_ hbehind (hreads.trans hsame.symm)
    exact ⟨⟨hstates.corresponds.macros, hstates.corresponds.conditions⟩, hstates.path,
      hstates.output⟩
  · obtain ⟨hstates, hfailure⟩ := hstep hreads
    obtain ⟨next', _⟩ := step'
    obtain rfl := hfailure
    exact ⟨hstates, rfl⟩

end Returned

section Ends

variable {one other : Step}

/-- Passes that come to a place know the same there. -/
theorem Step.Returned.at (h : one.Returned other) (location : Location) :
    Step.Returned ({ one.1 with location }, one.2) ({ other.1 with location }, other.2) :=
  ⟨⟨⟨h.states.corresponds.macros, h.states.corresponds.conditions⟩, rfl, h.states.output⟩,
    h.failure⟩

/-- Passes that know the same know the same at their end, and fail alike there. -/
theorem finish_returned (h : one.Returned other) :
    (finish none one).Returned (finish none other) := by
  refine ⟨?_, finish_snd_congr h.states.corresponds.conditions h.failure none⟩
  rw [finish_fst, finish_fst]
  exact h.states

/-- What passes produce that know the same, or why they fail. -/
theorem Step.Returned.result (h : one.Returned other) :
    other.result = one.result.map returned := by
  obtain ⟨after, failure⟩ := one
  obtain ⟨after', failure'⟩ := other
  obtain ⟨hstates, rfl⟩ := h
  cases failure with
  | none => exact congrArg Except.ok hstates.output
  | some e => rfl

end Ends

/-- Line ends do not matter: a pass that includes no file over a source without carriage returns, and
one over the source with a carriage return in front of each line feed, both succeed or fail for the
same reason at the same place, and define the same macros; what the second produces is what the first
does, with a carriage return in front of each line feed. -/
theorem processText_returned (env : Environment) (state : State) {source : String}
    (hreturn : '\r' ∉ source.toList)
    (hreads : (processText env state source).1.reads = state.reads) :
    (processText env state (returned source)).result =
        (processText env state source).result.map returned ∧
      (processText env state (returned source)).1.macros =
        (processText env state source).1.macros := by
  rw [processText, run_eq_runPieces, runPieces_eq] at hreads ⊢
  rw [processText, run_eq_runPieces, runPieces_eq, Source.tokenize_returned hreturn]
  simp only [finish_fst] at hreads
  have hreturns : Returns (included env) := emit_returns env _
  have henter : (state.enter env none).Returned (state.enter env none) :=
    ⟨.refl (fun _ => rfl) _, rfl, rfl⟩
  obtain ⟨hstates, hfailure⟩ := processPieces_returned hreturns henter
    (fun token htoken => Source.notMem_comment hreturn htoken) hreads
  generalize processPieces env (included env) (state.enter env none) (Source.tokenize source) = step
    at hstates hfailure ⊢
  generalize processPieces env (included env) (state.enter env none)
    (Source.tokenize source).withReturns = step' at hstates hfailure ⊢
  have hend := finish_returned (Step.Returned.at ⟨hstates, hfailure⟩ state.location)
  exact ⟨hend.result, hend.states.corresponds.macros_eq.symm⟩

/-- Directives, text that is suppressed, a string that goes on behind a backslash, a tab in front of
a branch, a triple quote, and a last line without an end. -/
theorem processText_returned_prose :
    (processText ⟨{}, ⟨[], ⟨"/", []⟩, 0⟩⟩ (State.start .scoped) (returned
        "#define A 1\n#ifdef A\nx = 'a\\\nb' # note\n\t#else\n  y\n#endif\n'''\n'''\\")).result =
      .ok "\r\n\r\nx = 'a\\\r\nb' # note\r\n\t\r\n'''\r\n'''\\" := by
  have hfirst : (processText ⟨{}, ⟨[], ⟨"/", []⟩, 0⟩⟩ (State.start .scoped)
      "#define A 1\n#ifdef A\nx = 'a\\\nb' # note\n\t#else\n  y\n#endif\n'''\n'''\\").result =
      .ok "\n\nx = 'a\\\nb' # note\n\t\n'''\n'''\\" := by decide +kernel
  have hreads : (processText ⟨{}, ⟨[], ⟨"/", []⟩, 0⟩⟩ (State.start .scoped)
      "#define A 1\n#ifdef A\nx = 'a\\\nb' # note\n\t#else\n  y\n#endif\n'''\n'''\\").1.reads =
      (State.start .scoped).reads := by decide +kernel
  obtain ⟨hresult, -⟩ := processText_returned _ _ (by decide +kernel) hreads
  rw [hresult, hfirst]
  decide +kernel

end Hashmark.Pass
