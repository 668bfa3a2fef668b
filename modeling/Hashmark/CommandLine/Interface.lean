import Hashmark.Text.Quoted

/-!
# Interfaces of programs

What a program accepts on its command line: switches, which have names that begin with dashes, and
one operand. An interface determines the line that shows the use of the program, and the help.
-/

namespace Hashmark.CommandLine

/-- What a switch does. -/
inductive Effect where
  /-- Shows the help, and ends the program. -/
  | help
  /-- Shows this text, and ends the program. -/
  | version (text : String)
  /-- Is given or not. -/
  | flag
  /-- Takes a value, which the help calls by this name. -/
  | value (placeholder : String)
  deriving DecidableEq, Repr

/-- A switch; `κ` tells the switches of a program apart. -/
structure Switch (κ : Type) where
  /-- Which switch it is. -/
  key : κ
  /-- Its names, each with its dashes. -/
  names : List String
  /-- What it does. -/
  effect : Effect
  /-- What the help says about it. -/
  description : String

/-- The operand of a program. -/
structure Operand where
  /-- Its name. -/
  name : String
  /-- The values that it may have; every value if there are none. -/
  choices : List String
  /-- The value if none is given; there has to be one otherwise. -/
  fallback : Option String
  /-- What the help says about it. -/
  description : String

/-- What a program accepts on its command line. -/
structure Interface (κ : Type) where
  /-- The name of the program. -/
  program : String
  /-- What the program does. -/
  description : String
  /-- Its switches. -/
  switches : List (Switch κ)
  /-- Its operand. -/
  operand : Operand
  /-- What the help says at its end. -/
  closing : Option String

namespace Switch

variable {κ : Type}

/-- The names of a switch, as a message calls it. -/
def label (switch : Switch κ) : String :=
  String.intercalate "/" switch.names

/-- Whether a value belongs to a switch. -/
def takesValue (switch : Switch κ) : Bool :=
  match switch.effect with
  | .value _ => true
  | _ => false

/-- A name of a switch, with the name of its value if it takes one. -/
def shownName (switch : Switch κ) (name : String) : String :=
  match switch.effect with
  | .value placeholder => name ++ " " ++ placeholder
  | _ => name

/-- A switch in the line that shows the use of a program. -/
def usage (switch : Switch κ) : String :=
  "[" ++ switch.shownName (switch.names.headD "") ++ "]"

/-- A switch in the help. -/
def heading (switch : Switch κ) : String :=
  String.intercalate ", " (switch.names.map switch.shownName)

end Switch

namespace Operand

/-- An operand in the help: its choices, or its name. -/
def heading (operand : Operand) : String :=
  if operand.choices.isEmpty then operand.name
  else "\x7b" ++ String.intercalate "," operand.choices ++ "\x7d"

/-- An operand in the line that shows the use of a program. -/
def usage (operand : Operand) : String :=
  if operand.fallback.isSome then "[" ++ operand.heading ++ "]" else operand.heading

end Operand

/-- The column in which the help has its descriptions. -/
def descriptionColumn : Nat := 24

/-- An entry of the help. The description is on the line of the heading if there are two columns
between them, and otherwise on the next one. -/
def helpEntry (heading description : String) : String :=
  let indented := "  " ++ heading
  let gap := fun n => String.ofList (List.replicate n ' ')
  if indented.length + 2 ≤ descriptionColumn then
    indented ++ gap (descriptionColumn - indented.length) ++ description ++ "\n"
  else indented ++ "\n" ++ gap descriptionColumn ++ description ++ "\n"

namespace Interface

variable {κ : Type}

/-- The line that shows the use of a program. -/
def usage (interface : Interface κ) : String :=
  String.intercalate " " <|
    ["usage:", interface.program] ++ interface.switches.map Switch.usage ++
      [interface.operand.usage]

/-- The help. -/
def help (interface : Interface κ) : String :=
  let operand := interface.operand
  let switches := interface.switches.map fun s => helpEntry s.heading s.description
  String.intercalate "\n" <|
    [interface.usage ++ "\n", interface.description ++ "\n",
      "positional arguments:\n" ++ helpEntry operand.heading operand.description,
      "options:\n" ++ String.join switches] ++ interface.closing.toList

/-- The switch that goes by a name. -/
def find? (interface : Interface κ) (name : String) : Option (Switch κ) :=
  interface.switches.find? fun s => s.names.contains name

/-- The names of switches that begin like a text. -/
def completions (interface : Interface κ) (start : List Char) : List String :=
  (interface.switches.flatMap Switch.names).filter fun name => start.isPrefixOf name.toList

end Interface

end Hashmark.CommandLine
