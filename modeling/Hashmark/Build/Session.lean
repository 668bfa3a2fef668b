import Hashmark.Build.Process
import Hashmark.Tool

/-!
# Build sessions

What a build has at hand and has done: the files, the lines it has printed, the programs it has
started, and the replies that further programs will give. The tool of this library is a program too;
what it replies is not given in advance but is what the tool does.
-/

namespace Hashmark.Build

/-- The state of a build. -/
structure Session where
  /-- The directory of the project. -/
  root : Path
  /-- The program that runs scripts. -/
  interpreter : String
  /-- The files. -/
  files : FileTree
  /-- What has been printed. -/
  printed : String
  /-- The programs that were started, in order. -/
  calls : List Call
  /-- The replies of programs other than the tool, the next one first. -/
  replies : List Reply

/-- Why a build stops. -/
inductive Trouble where
  /-- The user interrupts it. -/
  | interrupted
  /-- Something fails. -/
  | failed (reason : String)
  deriving DecidableEq, Repr

/-- A step of a build; what was done before a trouble stays done. -/
abbrev Step := EStateM Trouble Session

/-- Prints a line. -/
def say (line : String) : Step Unit :=
  modify fun s => { s with printed := s.printed ++ line ++ "\n" }

/-- The file that starts the tool. -/
def Session.launcher (s : Session) : Path :=
  s.root.child "pypp.py"

/-- The lines of a text with a line feed at the end of each, in the place of a carriage return or of
both. -/
def plainLineEnds : List Char → List Char
  | [] => []
  | '\r' :: '\n' :: cs => '\n' :: plainLineEnds cs
  | c :: cs => (if c = '\r' then '\n' else c) :: plainLineEnds cs

/-- The reply of the tool to a run. -/
def replyOfTool (run : Tool.Run) : Reply :=
  let status := match run.ending with
    | .status code => code
    | .dismissed code => code
    | .failed _ => 1
  .ended status (String.ofList (plainLineEnds run.output.toList)) run.errors

/-- The reply to a command, and the session after it. -/
def Session.reply (s : Session) (command : List String) : Reply × Session :=
  -- The tool of this library is run as it is.
  if command.take 2 = [s.interpreter, s.launcher.text] then
    let run := Tool.run (command.drop 2) s.files
    (replyOfTool run, { s with files := run.files })
  else match s.replies with
    | [] => (.ended 0 "" "", s)
    | reply :: replies => (reply, { s with replies })

/-- Starts a program. -/
def start (call : Call) : Step Reply :=
  modifyGet fun s => { s with calls := s.calls ++ [call] }.reply call.command

/-- Prints a text under a heading, unless it is empty. -/
def sayUnlessEmpty (heading text : String) : Step Unit :=
  if text = "" then pure () else say (heading ++ text)

/-- Runs a program to its end, and answers its status. -/
def run (command : List String) (isChecked : Bool) : Step Int := do
  say ("Running: " ++ String.intercalate " " command)
  match ← start ⟨command, isChecked⟩ with
  | .interrupted => throw .interrupted
  | .unavailable reason => throw (.failed reason)
  | .ended status output errors =>
    -- What a failed program has printed is shown before the build stops.
    if isChecked && status != 0 then
      let reason := failureText command status
      say ("Error running command: " ++ reason)
      sayUnlessEmpty "stdout: " output
      sayUnlessEmpty "stderr: " errors
      throw (.failed reason)
    else
      sayUnlessEmpty "" output
      pure status

end Hashmark.Build
