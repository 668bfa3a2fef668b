import Hashmark.Proofs.Pass.Recast
import Hashmark.Proofs.Pass.Resemblance

/-!
# What was produced before

A pass only adds to its output and never looks at it. So with a text in front of the output, tokens
do the same and leave the text where it is, whatever macros the options predefine
(`processTokens_prepend`). So a pass that comes to a state with a text in front of the one in which
another pass begins goes on as that one does (`runPieces_resembles_prepend`).
-/

namespace Hashmark.Pass

open Source (Token Tokenized)

/-- The state with a text in front of the output. -/
def State.prepend (text : String) (state : State) : State :=
  { state with output := text ++ state.output }

/-- What a step leads to, with a text in front of the output. -/
def prepend {α : Type} (text : String) (result : State × α) : State × α :=
  (result.1.prepend text, result.2)

/-- What a name leads to, and what is true of it, is a matter neither of the output nor of the
predefined macros. -/
theorem unnoticed_id (env : Environment) (defines : List (String × String))
    (object : String → Option Nat) :
    Unnoticed env (env.predefining defines object) id fun _ => True where
  contains := fun _ _ => rfl
  push := fun _ _ _ _ => rfl
  holds := by
    intro state text b _
    have hmacros : (state.recast text id).macros = state.macros := rfl
    have hconstants : (env.predefining defines object).config.SharesConstants env.config :=
      .of_eq rfl rfl rfl
    exact b.holds_of_constants hconstants hmacros

/-- Tokens are processed behind what was produced before, whatever macros the options predefine. -/
theorem processTokens_prepend (env : Environment) (text : String)
    (defines : List (String × String)) (state : State) (tokens : List Token) :
    processTokens (env.predefining defines) (included (env.predefining defines))
        (state.prepend text) tokens =
      prepend text (processTokens env (included env) state tokens) :=
  processTokens_recast (unnoticed_id env defines _) (fun _ _ _ _ _ _ _ _ => trivial) state
    fun _ _ _ _ => trivial

/-- The end of a pass leaves a text in front of the output where it is. -/
theorem finish_prepend (path : Option Path) (text : String) (step : Step) :
    finish path (prepend text step) = prepend text (finish path step) :=
  finish_recast path text id step

/-- Steps that resemble each other do so behind a text. -/
theorem prepend_resembles {lines : Int → Int → Prop} {one other : Step}
    (h : one.Resembles lines other) (text : String) :
    Step.Resembles lines (prepend text one) (prepend text other) :=
  ⟨{ h.1 with output := congrArg (text ++ ·) h.1.output }, h.2⟩

/-- A pass whose tokens do what those of another do, behind a text, does what that does behind the
text. -/
theorem runPieces_resembles_prepend {lines : Int → Int → Prop} (hlines : ∀ line, lines line line)
    {env env' : Environment} {state state' : State}
    (hplace : state.location.path = state'.location.path) {pieces pieces' : Tokenized}
    {path : Option Path} {text : String}
    (h : (processTokens env (included env) (state.enter env path) pieces.tokens).Resembles lines
      (prepend text
        (processTokens env' (included env') (state'.enter env' path) pieces'.tokens))) :
    (runPieces env state pieces path).Resembles lines
      (prepend text (runPieces env' state' pieces' path)) := by
  have hpieces := fun env state pieces => processPieces_resembles_tokens env
    (included_resembles (fun _ => rfl) env) (State.enter env state path) pieces
  have hboth := h.congr (hpieces env state pieces)
    (prepend_resembles (hpieces env' state' pieces') text)
  rw [runPieces_eq, runPieces_eq]
  generalize processPieces env (included env) (state.enter env path) pieces = step at hboth ⊢
  generalize processPieces env' (included env') (state'.enter env' path) pieces' = step'
    at hboth ⊢
  obtain ⟨hafter, hfailure⟩ := hboth
  rw [← finish_prepend]
  exact finish_resembles hlines path ⟨{ hafter with path := hplace }, hfailure⟩

end Hashmark.Pass
