import Hashmark.Pass.State
import Hashmark.Source.Token

/-!
# Passes

A pass goes over the tokens of a source. A comment that is a directive is consumed: it changes the
state and leaves no text. Every other token is copied to the output unless text is suppressed. An
included file is copied as it is, or its tokens are processed in its place, as the configuration
says; files that include one another are found out before they are processed again.

The state of a pass survives a failure, so that every step answers a state besides its result.
-/

namespace Hashmark.Pass

open Source (Token Tokenized)

/-- The state after a step, and the failure that ended it if there is one. -/
abbrev Step := State × Option Failure

/-- The state after a directive, and whether it was consumed or failed. -/
abbrev Handled := State × Except Failure Bool

/-- The place of a name in an include directive: taken from the directory of the present file, or
from the base directory, or from the working directory. -/
def includeTarget (env : Environment) (state : State) (name : String) : Path :=
  let target := Path.ofText name
  if target.isAbsolute then target
  else match state.location.path with
    | some path => path.parent.join target
    | none => (env.config.baseDirectory.getD env.files.here).join target

/-- The text of a file to include. A file that cannot be read or decoded is not found; an unknown
encoding, a null character in the name, and bytes that the encoding refuses as a whole are failures
of their own. -/
def readInclude (env : Environment) (location : Location) (target : Path) :
    Except Failure String :=
  match env.files.readText target env.config with
  | .ok text => .ok text
  | .error (.undecodable (.malformed _)) => .error (.at (.includeNotFound target) location)
  | .error (.file e) =>
    if e.fault = .nullCharacter then .error (.file e)
    else .error (.at (.includeNotFound target) location)
  | .error e => .error e

/-- Processes the text of a file within the pass over another; the list of files being included is
as before at the end. -/
def spliceFile (emit : State → String → Path → Step) (state : State) (text : String)
    (resolved : Path) : Handled :=
  if state.including.contains resolved then
    (state, .error (.at (.circularInclude (state.including ++ [resolved])) state.location))
  else
    let (after, failure) :=
      emit { state with including := state.including ++ [resolved] } text resolved
    let after := { after with including := state.including }
    match failure with
    | none => (after, .ok true)
    | some e => (after, .error e)

/-- Includes a file. -/
def includeFile (env : Environment) (emit : State → String → Path → Step) (state : State)
    (payload : String) : Handled :=
  let target := includeTarget env state (stripWrapping (Text.strip payload))
  let state := { state with reads := target :: state.reads }
  match readInclude env state.location target with
  | .error e => (state, .error e)
  | .ok text =>
    if env.config.recursiveIncludes then
      spliceFile emit state text (target.resolve env.files.here)
    else (state.append text, .ok true)

/-- Defines the macro that the payload of a directive names. -/
def defineMacro (state : State) (payload : String) : Handled :=
  let (name, value) := Text.cut ' ' payload.toList
  match state.macros.define (String.ofList name)
      (stripWrapping (String.ofList (value.getD []))) state.location with
  | .ok macros => ({ state with macros }, .ok true)
  | .error e => (state, .error e)

/-- The state after a change of the conditional blocks. -/
def changeBlocks (state : State) (result : Except Imbalance Conditional) : Handled :=
  match result with
  | .ok conditions => ({ state with conditions }, .ok true)
  | .error e => (state, .error (.at (.unbalanced e) state.location))

/-- The state after the opening of a block. -/
def openBlock (state : State) (active : Bool) : Handled :=
  changeBlocks state (.ok (state.conditions.openBlock active))

/-- Leaves a directive that asks for nothing as the comment that it is. -/
def keep (state : State) : Handled :=
  (state, .ok false)

/-- Obeys a command, given how to process the text of an included file. -/
def obey (env : Environment) (emit : State → String → Path → Step) (state : State)
    (command : Command) (payload : Option String) : Handled :=
  match command, payload with
  | .define, payload =>
    if state.suppressed then (state, .ok true)
    else match payload with
      | none => keep state
      | some payload => defineMacro state payload
  | .include, payload =>
    if state.suppressed then (state, .ok true)
    else match payload with
      | none => keep state
      | some payload => includeFile env emit state payload
  -- Blocks are opened, changed and closed in suppressed text too, so that they match.
  | .whenTrue, some payload => openBlock state (test env state payload)
  | .whenDefined, some payload => openBlock state (isDefined env state (Text.strip payload))
  | .whenUndefined, some payload => openBlock state !(isDefined env state (Text.strip payload))
  | .whenTrue, none => keep state
  | .whenDefined, none => keep state
  | .whenUndefined, none => keep state
  | .elseWhenTrue, none =>
    -- Without an expression, a further branch is an ordinary comment in suppressed text.
    if state.suppressed then keep state
    else changeBlocks state (state.conditions.alternative false)
  | .elseWhenTrue, some payload =>
    changeBlocks state
      -- The expression is looked at only if it decides something.
      (state.conditions.alternative (state.conditions.needsTest && test env state payload))
  | .otherwise, _ => changeBlocks state state.conditions.otherwise
  | .endBlock, _ => changeBlocks state state.conditions.closeBlock

/-- Obeys the directive that a comment is, if it is one. -/
def handleComment (env : Environment) (emit : State → String → Path → Step) (state : State)
    (comment : String) : Handled :=
  let directive := Directive.ofComment comment
  match directive.command? with
  | none => keep state
  | some command => obey env emit state command directive.payload

/-- Copies the text of a token unless text is suppressed. -/
def copy (state : State) (text : String) : State :=
  if state.suppressed then state else state.append text

/-- Processes a token. -/
def processToken (env : Environment) (emit : State → String → Path → Step) (state : State)
    (token : Token) : Step :=
  let state := { state with location := { state.location with line := token.line } }
  if token.isCandidate then
    match handleComment env emit state token.text with
    | (state, .ok true) => (state, none)
    | (state, .ok false) => (copy state token.text, none)
    | (state, .error e) => (state, some e)
  else (copy state token.text, none)

/-- Processes tokens up to the first that fails. -/
def processTokens (env : Environment) (emit : State → String → Path → Step) :
    State → List Token → Step
  | state, [] => (state, none)
  | state, token :: tokens =>
    match processToken env emit state token with
    | (state, none) => processTokens env emit state tokens
    | (state, some e) => (state, some e)

/-- The warning that the rest of a source is passed on as it is. -/
def warningText (path : Option Path) (warning : Source.ScanWarning) : String :=
  ((path.map Path.text).getD "<string>") ++ ":" ++ toString warning.line ++
    ": cannot tokenize source (" ++ warning.fault.message ++ "), passing the rest through"

/-- Processes the pieces of a source, with the warning between them. -/
def processPieces (env : Environment) (emit : State → String → Path → Step) (state : State)
    (pieces : Tokenized) : Step :=
  match processTokens env emit state pieces.scanned with
  | (state, some e) => (state, some e)
  | (state, none) =>
    let warnings := pieces.warning.toList.map (warningText state.location.path)
    processTokens env emit { state with warnings := warnings ++ state.warnings }
      pieces.rest.toList

/-- Processes a text as that of a file, or of none; the place reached is as before at the end. The
first argument bounds how deeply files may include one another, which `depthBound` makes large
enough. -/
def emit (env : Environment) : Nat → State → String → Option Path → Step
  | 0, state, _, _ => (state, some (.at (.circularInclude state.including) state.location))
  | depth + 1, state, text, path =>
    let inner := fun state text path => emit env depth state text (some path)
    let (after, failure) :=
      processPieces env inner { state with location := ⟨path, state.location.line⟩ }
        (Source.tokenize text)
    -- Failures have their places by now, and the text around goes on at its own.
    ({ after with location := state.location }, failure)

/-- More than the number of files that can be included within one another: no two of them are the
same. -/
def depthBound (files : FileTree) : Nat :=
  files.nodes.length + 2

/-- Handles a comment as a directive outside any pass: the state, and whether it was consumed. -/
def handleDirective (env : Environment) (state : State) (comment : String) : Handled :=
  handleComment env (fun state text path => emit env (depthBound env.files) state text (some path))
    state comment

/-- The state in which a pass over a file, or over no file, begins. -/
def begin (config : Config) (state : State) (path : Option Path) : State :=
  let macros := if config.keepMacros then state.macros else .empty
  -- Files that were read and warnings that were given are kept from pass to pass.
  { state with
    output := ""
    conditions := state.conditions.reset
    macros := macros.seedMissing config.defines config.macroObject
    including := path.toList }

/-- The end of a pass: blocks that are still open are a fault. -/
def finish (path : Option Path) : Step → Step
  | (state, some e) => (state, some e)
  | (state, none) =>
    match state.conditions.finish with
    | none => (state, none)
    | some e => (state, some (.at (.unbalanced e) ⟨path, 0⟩))

/-- A pass over a text. -/
def run (env : Environment) (state : State) (text : String) (path : Option Path) : Step :=
  finish path (emit env (depthBound env.files) (begin env.config state path) text path)

/-- A pass over a text that is no file. -/
def processText (env : Environment) (state : State) (text : String) : Step :=
  run env state text none

/-- The text of the file at a path. -/
def readSource (env : Environment) (path : Path) : Except Failure String :=
  match env.files.isFile path with
  | .error e => .error (.file e)
  | .ok false => .error (.at (.notFound path) .unknown)
  | .ok true => env.files.readText path env.config

/-- A pass over the file at a path. A file that is missing or cannot be read changes nothing. -/
def processFile (env : Environment) (state : State) (path : Path) : Step :=
  match readSource env path with
  | .error e => (state, some e)
  | .ok text => run env state text (some (path.resolve env.files.here))

/-- The output of a pass, or its failure. -/
def Step.result : Step → Except Failure String
  | (state, none) => .ok state.output
  | (_, some e) => .error e

/-- The output of a first pass over a text. -/
def preprocess (env : Environment) (text : String) : Except Failure String :=
  Step.result (processText env (State.start env.config.mode) text)

/-- The output of a first pass over a file. -/
def preprocessFile (env : Environment) (path : Path) : Except Failure String :=
  Step.result (processFile env (State.start env.config.mode) path)

end Hashmark.Pass
