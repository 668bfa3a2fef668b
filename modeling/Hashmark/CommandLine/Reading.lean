import Hashmark.CommandLine.Interface
import Hashmark.Text.Class

/-!
# Reading a command line

The arguments of a program as what is asked of it. The name of a switch may be shortened to any
beginning that no other name shares, its value may follow in the same argument, and flags with one
dash may be written behind one dash. Behind two dashes alone every argument is a value. Names are
found out for all arguments before the first one takes effect.
-/

namespace Hashmark.CommandLine

/-- What is wrong with a command line. -/
inductive UsageFault where
  /-- An argument is the beginning of several names. -/
  | ambiguous (argument : String) (names : List String)
  /-- A switch has no value behind it. -/
  | missingValue (switch : String)
  /-- A flag has a value. -/
  | ignoredValue (switch value : String)
  /-- The operand has no such value. -/
  | invalidChoice (operand value : String) (choices : List String)
  /-- There is no operand. -/
  | missingOperand (operand : String)
  /-- Arguments that the program does not know. -/
  | unrecognized (arguments : List String)
  deriving DecidableEq, Repr

/-- The wording of a fault. -/
def UsageFault.message : UsageFault → String
  | .ambiguous argument names =>
    "ambiguous option: " ++ argument ++ " could match " ++ String.intercalate ", " names
  | .missingValue switch => "argument " ++ switch ++ ": expected one argument"
  | .ignoredValue switch value =>
    "argument " ++ switch ++ ": ignored explicit argument " ++ Text.quoted value
  | .invalidChoice operand value choices =>
    "argument " ++ operand ++ ": invalid choice: " ++ Text.quoted value ++ " (choose from " ++
      String.intercalate ", " (choices.map Text.quoted) ++ ")"
  | .missingOperand operand => "the following arguments are required: " ++ operand
  | .unrecognized arguments =>
    "unrecognized arguments: " ++ String.intercalate " " arguments

/-- An argument by its form. -/
inductive Argument (κ : Type) where
  /-- Two dashes alone. -/
  | separator
  /-- A value. -/
  | value (text : String)
  /-- A switch by one of its names, and the value in the same argument. -/
  | switch (switch : Switch κ) (name : String) (attached : Option String)
  /-- No switch, but of the form of one. -/
  | unknown (text : String)

/-- The name of the switch that an argument is. -/
def Argument.name {κ : Type} : Argument κ → String
  | .switch _ name _ => name
  | _ => ""

/-- Whether an argument is a negative number: a dash and digits, or a dash and a decimal
fraction. -/
def isNegativeNumber : List Char → Bool
  | '-' :: rest =>
    -- One line feed at the end is overlooked.
    let rest := if rest.getLast? = some '\n' then rest.dropLast else rest
    let (whole, fraction) := Text.cut '.' rest
    match fraction with
    | none => !whole.isEmpty && whole.all Text.isDigit
    | some digits =>
      whole.all Text.isDigit && !digits.isEmpty && digits.all Text.isDigit
  | _ => false

namespace Interface

variable {κ : Type}

/-- A switch by one of its names, if there is such a switch. -/
def switch? (interface : Interface κ) (name : String) (attached : Option (List Char)) :
    Option (Argument κ) :=
  (interface.find? name).map fun s => .switch s name (attached.map String.ofList)

/-- The switches that an argument can mean without giving a whole name: those whose names begin
like it, up to an equals sign if it has two dashes, and that of its first letter otherwise. -/
def candidates (interface : Interface κ) (cs : List Char) : List (Argument κ) :=
  if ['-', '-'].isPrefixOf cs then
    let (start, value) := Text.cut '=' cs
    (interface.completions start).filterMap fun name => interface.switch? name value
  else
    let short := String.ofList (cs.take 2)
    (interface.switch? short (some (cs.drop 2))).toList ++
      ((interface.completions cs).filter (· != short)).filterMap fun name =>
        interface.switch? name none

/-- The form of an argument that begins with a dash and gives no whole name. -/
def classifyPartial (interface : Interface κ) (argument : String) :
    Except UsageFault (Argument κ) :=
  match interface.candidates argument.toList with
  | [candidate] => .ok candidate
  | [] =>
    -- No switch looks like a number or has a blank.
    if isNegativeNumber argument.toList || argument.toList.contains ' ' then
      .ok (.value argument)
    else .ok (.unknown argument)
  | several => .error (.ambiguous argument (several.map Argument.name))

/-- The form of an argument. -/
def classify (interface : Interface κ) (argument : String) : Except UsageFault (Argument κ) :=
  match argument.toList with
  | '-' :: rest =>
    match interface.switch? argument none with
    | some found => .ok found
    | none =>
      if rest.isEmpty then .ok (.value argument)
      else
        let (name, value) := Text.cut '=' argument.toList
        match value.bind fun v => interface.switch? (String.ofList name) (some v) with
        | some found => .ok found
        | none => interface.classifyPartial argument
  | _ => .ok (.value argument)

/-- The forms of all arguments; everything behind the first separator is a value. -/
def classifyAll (interface : Interface κ) : List String → Except UsageFault (List (Argument κ))
  | [] => .ok []
  | argument :: arguments =>
    if argument = "--" then .ok (.separator :: arguments.map .value)
    else
      match interface.classify argument with
      | .error e => .error e
      | .ok form => (interface.classifyAll arguments).map (form :: ·)

end Interface

/-- How reading ends when the arguments ask for nothing that the program does. -/
inductive Stop where
  /-- The help is asked for. -/
  | help
  /-- The version is asked for. -/
  | version (text : String)
  /-- The arguments are wrong. -/
  | fault (fault : UsageFault)
  deriving DecidableEq, Repr

/-- Flags behind one dash, and what their argument ends with. -/
structure Cluster (κ : Type) where
  /-- The flags. -/
  flags : List (Switch κ)
  /-- The switch that comes last. -/
  last : Switch κ
  /-- The value of the last one in the same argument. -/
  attached : Option String

/-- The switches of an argument that gives `switch` by the name `name` with characters behind it. A
flag with one dash may have further switches behind it, which share the dash. -/
def Interface.cluster {κ : Type} (interface : Interface κ) (switch : Switch κ) (name : String) :
    List Char → Except UsageFault (Cluster κ)
  | [] =>
    if switch.takesValue then .ok ⟨[], switch, some ""⟩
    else .error (.ignoredValue switch.label "")
  | c :: cs =>
    let ignored := Except.error (.ignoredValue switch.label (String.ofList (c :: cs)))
    if switch.takesValue then .ok ⟨[], switch, some (String.ofList (c :: cs))⟩
    -- Only flags with one dash share it.
    else if ['-', '-'].isPrefixOf name.toList then ignored
    else
      let next := String.ofList ['-', c]
      match interface.find? next with
      | none => ignored
      | some found =>
        if cs.isEmpty then .ok ⟨[switch], found, none⟩
        else (interface.cluster found next cs).map fun rest =>
          { rest with flags := switch :: rest.flags }

/-- What has been asked for so far. -/
structure Given (κ : Type) where
  /-- The switches with their values, in order; a flag has the empty value. -/
  settings : List (κ × String)
  /-- The operand. -/
  operand : Option String
  /-- Arguments that mean nothing. -/
  extras : List String
  /-- Whether the operand was the last argument. -/
  justSet : Bool

namespace Given

variable {κ : Type}

/-- Nothing. -/
def none : Given κ := ⟨[], Option.none, [], false⟩

/-- The last value that a switch was given. -/
def value? [BEq κ] (given : Given κ) (key : κ) : Option String :=
  (given.settings.reverse.find? fun entry => entry.1 == key).map Prod.snd

/-- All values that a switch was given. -/
def values [BEq κ] (given : Given κ) (key : κ) : List String :=
  (given.settings.filter fun entry => entry.1 == key).map Prod.snd

/-- Whether a switch was given. -/
def has [BEq κ] (given : Given κ) (key : κ) : Bool :=
  (given.value? key).isSome

/-- With a switch. -/
def apply (given : Given κ) (switch : Switch κ) (value : String) : Except Stop (Given κ) :=
  match switch.effect with
  | .help => .error .help
  | .version text => .error (.version text)
  | _ => .ok { given with settings := given.settings ++ [(switch.key, value)], justSet := false }

/-- With flags. -/
def applyFlags (given : Given κ) : List (Switch κ) → Except Stop (Given κ)
  | [] => .ok given
  | switch :: switches =>
    match given.apply switch "" with
    | .error e => .error e
    | .ok given => given.applyFlags switches

/-- With an argument that means nothing. -/
def ignoring (given : Given κ) (argument : String) : Given κ :=
  { given with extras := given.extras ++ [argument], justSet := false }

/-- With a value that no switch takes: the operand, unless there is one. -/
def applyValue (given : Given κ) (operand : Operand) (value : String) :
    Except Stop (Given κ) :=
  if given.operand.isSome then .ok (given.ignoring value)
  else if !operand.choices.isEmpty && !operand.choices.contains value then
    .error (.fault (.invalidChoice operand.name value operand.choices))
  else .ok { given with operand := some value, justSet := true }

end Given

namespace Interface

variable {κ : Type}

/-- The switches of an argument. -/
def clusterOf (interface : Interface κ) (switch : Switch κ) (name : String) :
    Option String → Except UsageFault (Cluster κ)
  | some text => interface.cluster switch name text.toList
  | none => .ok ⟨[], switch, none⟩

/-- Reads arguments. A separator next to the operand belongs to it. -/
def readFrom (interface : Interface κ) (given : Given κ) :
    List (Argument κ) → Except Stop (Given κ)
  | [] => .ok given
  | .unknown text :: rest => interface.readFrom (given.ignoring text) rest
  | .separator :: rest =>
    interface.readFrom
      (if given.operand.isNone || given.justSet then { given with justSet := false }
        else given.ignoring "--") rest
  | .value text :: rest =>
    match given.applyValue interface.operand text with
    | .error e => .error e
    | .ok given => interface.readFrom given rest
  | .switch switch name attached :: rest =>
    match interface.clusterOf switch name attached with
    | .error e => .error (.fault e)
    | .ok ⟨flags, last, attached⟩ =>
      let before := given.applyFlags flags
      let applyLast := fun value => before.bind fun given => given.apply last value
      -- The value is the next argument, which must not look like a switch.
      if last.takesValue && attached.isNone then
        match rest with
        | .value text :: rest =>
          match applyLast text with
          | .error e => .error e
          | .ok given => interface.readFrom given rest
        | _ => .error (.fault (.missingValue last.label))
      else
        match applyLast (attached.getD "") with
        | .error e => .error e
        | .ok given => interface.readFrom given rest

/-- Reads a command line. -/
def read (interface : Interface κ) (arguments : List String) : Except Stop (Given κ) :=
  match interface.classifyAll arguments with
  | .error e => .error (.fault e)
  | .ok forms =>
    match interface.readFrom .none forms with
    | .error e => .error e
    | .ok given =>
      match given.operand <|> interface.operand.fallback with
      | none => .error (.fault (.missingOperand interface.operand.name))
      | some operand =>
        if given.extras.isEmpty then .ok { given with operand := some operand }
        else .error (.fault (.unrecognized given.extras))

/-- What a program says when it is used wrongly. -/
def complaint (interface : Interface κ) (fault : UsageFault) : String :=
  interface.usage ++ "\n" ++ interface.program ++ ": error: " ++ fault.message ++ "\n"

end Interface

end Hashmark.CommandLine
