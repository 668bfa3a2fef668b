import Hashmark.Text.Quoted

/-!
# Programs that a build starts

What is asked of the system, what comes of it, and the wording of a status that means failure.
-/

namespace Hashmark.Build

/-- A program to be started. -/
structure Call where
  /-- The program and its arguments. -/
  command : List String
  /-- Whether a status other than zero ends the build. -/
  isChecked : Bool
  deriving DecidableEq, Repr

/-- What comes of starting a program. -/
inductive Reply where
  /-- It ends with a status and has written texts to its two outputs; a negative status is that of
  a signal. -/
  | ended (status : Int) (output errors : String)
  /-- The user interrupts it. -/
  | interrupted
  /-- It cannot be started. -/
  | unavailable (reason : String)
  deriving DecidableEq, Repr

/-- The names of signals, the first one for number one. -/
def signalNames : List String :=
  ["HUP", "INT", "QUIT", "ILL", "TRAP", "ABRT", "BUS", "FPE", "KILL", "USR1", "SEGV", "USR2",
    "PIPE", "ALRM", "TERM", "STKFLT", "CHLD", "CONT", "STOP", "TSTP", "TTIN", "TTOU", "URG", "XCPU",
    "XFSZ", "VTALRM", "PROF", "WINCH", "IO", "PWR", "SYS"]

/-- The name of a signal; the last ones are those that programs may use as they like. -/
def signalName? (number : Nat) : Option String :=
  if number = 34 then some "RTMIN"
  else if number = 64 then some "RTMAX"
  else if number = 0 then none
  else signalNames[number - 1]?

/-- The end of a program in words. -/
def endText (status : Int) : String :=
  if 0 ≤ status then "returned non-zero exit status " ++ toString status ++ "."
  else
    let number := toString status.natAbs
    match signalName? status.natAbs with
    | some name => "died with <Signals.SIG" ++ name ++ ": " ++ number ++ ">."
    | none => "died with unknown signal " ++ number ++ "."

/-- The report that a program has failed. -/
def failureText (command : List String) (status : Int) : String :=
  "Command '[" ++ String.intercalate ", " (command.map Text.quoted) ++ "]' " ++ endText status

end Hashmark.Build
