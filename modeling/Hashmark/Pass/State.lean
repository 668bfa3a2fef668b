import Hashmark.Config
import Hashmark.Directive
import Hashmark.Macro

/-!
# The state of a pass

What a pass over a source knows and has produced: macros, conditional blocks, the text so far, the
files that are being included, and the place that has been reached. The files that were read and the
warnings that were given are recorded in their order.
-/

namespace Hashmark.Pass

/-- What a pass depends on and does not change. -/
structure Environment where
  /-- The options. -/
  config : Config
  /-- The files. -/
  files : FileTree

/-- The state of a pass. -/
structure State where
  /-- The macros that are defined. -/
  macros : MacroTable
  /-- The conditional blocks that are open. -/
  conditions : Conditional
  /-- The text that has been produced. -/
  output : String
  /-- The files that are being processed, each included by the one before it. -/
  including : List Path
  /-- The place of the present token. -/
  location : Location
  /-- The files that were read for an include, the last one first. -/
  reads : List Path
  /-- The warnings, the last one first. -/
  warnings : List String
  deriving DecidableEq, Repr

namespace State

/-- The state before the first pass. -/
def start (mode : Mode) : State :=
  ⟨.empty, .start mode, "", [], .unknown, [], []⟩

/-- Adds text to the output. -/
def append (state : State) (text : String) : State :=
  { state with output := state.output ++ text }

/-- Whether text is suppressed. -/
def suppressed (state : State) : Bool :=
  state.conditions.suppressed

end State

/-- Whether a name is that of a macro or of a constant. -/
def isDefined (env : Environment) (state : State) (name : String) : Bool :=
  state.macros.contains name || env.config.ambient.contains name

/-- What a name leads to: a macro before a constant. -/
def lookup (env : Environment) (state : State) (name : String) : Condition.Lookup :=
  match state.macros.find? name with
  | some m => m.lookup
  | none =>
    match env.config.ambient.find? name with
    | some v => .found v (.ofObject (env.config.constantObject name))
    | none => .undefined

/-- A condition without a pair of equal quotes around it, if there is such a pair and no further
quote of the kind within. -/
def unquoteCondition (text : String) : String :=
  match text.toList with
  | [] => text
  | quote :: rest =>
    -- With a further quote of the kind within, the outer two need not be a pair.
    if (quote = '"' || quote = '\'') && rest.getLast? = some quote &&
        !rest.dropLast.contains quote then
      stripWrapping text
    else text

/-- Whether a condition is true; one that has no value is not. -/
def test (env : Environment) (state : State) (payload : String) : Bool :=
  match Condition.isTruthy (lookup env state) (unquoteCondition (Text.strip payload)) with
  | .ok b => b
  | .error _ => false

end Hashmark.Pass
