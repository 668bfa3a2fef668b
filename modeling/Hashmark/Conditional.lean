import Hashmark.Failure

/-!
# Conditional blocks

Whether text is kept or suppressed, in two models. The flat one has a single flag: every opening,
alternative and end overrides what was before, so that blocks do not nest. The scoped one has a
frame for each open block; of the branches of a block that is itself kept, the first whose test is
true is kept, and an end closes the innermost block.
-/

namespace Hashmark

/-- The model of conditional blocks. -/
inductive Mode where
  /-- A single flag. -/
  | flat
  /-- A frame for each open block. -/
  | scoped
  deriving DecidableEq, Repr

/-- The name of each model. -/
def Mode.name : Mode → String
  | .flat => "flat"
  | .scoped => "scoped"

/-- The models. -/
def Mode.all : List Mode := [.flat, .scoped]

/-- The model that goes by a name. -/
def Mode.ofName? (name : String) : Option Mode :=
  Mode.all.find? fun mode => mode.name == name

/-- The names of the models. -/
def Mode.names : String :=
  String.intercalate ", " (Mode.all.map Mode.name)

/-- What is said when no model goes by a name. -/
def Mode.unknownMessage (name : String) : String :=
  "unknown conditional mode: " ++ Text.quoted name ++ " (expected one of " ++ Mode.names ++ ")"

/-- An open block. -/
structure Frame where
  /-- Whether the text around the block is kept. -/
  parentActive : Bool
  /-- Whether no further branch can be kept. -/
  taken : Bool
  /-- Whether the present branch is kept. -/
  active : Bool
  deriving DecidableEq, Repr

/-- The state of the conditional blocks. -/
inductive Conditional where
  /-- Whether text is suppressed. -/
  | flat (suppressed : Bool)
  /-- The open blocks, the innermost first. -/
  | scoped (frames : List Frame)
  deriving DecidableEq, Repr

namespace Conditional

/-- No block is open. -/
def start : Mode → Conditional
  | .flat => .flat false
  | .scoped => .scoped []

/-- The model of a state. -/
def mode : Conditional → Mode
  | .flat _ => .flat
  | .scoped _ => .scoped

/-- The state without open blocks. -/
def reset (state : Conditional) : Conditional :=
  start state.mode

/-- Whether text is suppressed. -/
def suppressed : Conditional → Bool
  | .flat suppressed => suppressed
  | .scoped [] => false
  | .scoped (frame :: _) => !frame.active

/-- The open blocks, the innermost first; the flat model has none. -/
def frames : Conditional → List Frame
  | .flat _ => []
  | .scoped frames => frames

/-- Opens a block whose test is `active`. -/
def openBlock (state : Conditional) (active : Bool) : Conditional :=
  match state with
  | .flat _ => .flat !active
  | .scoped frames =>
    let parent := !state.suppressed
    .scoped (⟨parent, parent && active, parent && active⟩ :: frames)

/-- Whether the test of another branch decides anything. -/
def needsTest : Conditional → Bool
  | .flat suppressed => suppressed
  | .scoped [] => false
  | .scoped (frame :: _) => frame.parentActive && !frame.taken

/-- Begins another branch of the innermost block; `test` is the result of its test, which does not
matter unless the test is needed. -/
def alternative (state : Conditional) (test : Bool) : Except Imbalance Conditional :=
  match state with
  | .flat suppressed => .ok (.flat (!suppressed || !test))
  | .scoped [] => .error (.unmatched "#elif")
  | .scoped (frame :: frames) =>
    if frame.taken || !frame.parentActive then
      .ok (.scoped ({ frame with active := false } :: frames))
    else .ok (.scoped ({ frame with active := test, taken := test } :: frames))

/-- Begins the branch that is kept if none before was. -/
def otherwise (state : Conditional) : Except Imbalance Conditional :=
  match state with
  | .flat suppressed => .ok (.flat !suppressed)
  | .scoped [] => .error (.unmatched "#else")
  | .scoped (frame :: frames) =>
    .ok (.scoped ({ frame with active := frame.parentActive && !frame.taken, taken := true } ::
      frames))

/-- Closes the innermost block. -/
def closeBlock (state : Conditional) : Except Imbalance Conditional :=
  match state with
  | .flat _ => .ok (.flat false)
  | .scoped [] => .error (.unmatched "#endif")
  | .scoped (_ :: frames) => .ok (.scoped frames)

/-- What is wrong at the end of a source: blocks that are still open. -/
def finish (state : Conditional) : Option Imbalance :=
  match state with
  | .flat _ => none
  | .scoped [] => none
  | .scoped frames => some (.unterminated frames.length)

end Conditional

end Hashmark
