import Hashmark.Conditional
import Hashmark.Host

/-!
# Configuration

The options of a pass, with the host that it runs on. Predefined macros are given as items `NAME` or
`NAME=VALUE`, where the name has to be an identifier. The encoding is given by its name, so that
reading and writing texts depends on the host.
-/

namespace Hashmark

/-- Options that are refused. -/
inductive ConfigError where
  /-- No model of conditional blocks goes by this name. -/
  | unknownMode (name : String)
  /-- This is no name for a macro. -/
  | invalidName (name : String)
  deriving DecidableEq, Repr

/-- The wording of an error. -/
def ConfigError.message : ConfigError → String
  | .unknownMode name =>
    "conditional_mode must be one of " ++ Mode.names ++ ", got " ++ Text.quoted name
  | .invalidName name =>
    "predefined macro name must be an identifier, got: " ++ Text.quoted name

/-- The options of a pass. -/
structure Config where
  /-- The macros that are defined when a pass begins; no name occurs twice. -/
  defines : List (String × String) := []
  /-- The model of conditional blocks. -/
  mode : Mode := .scoped
  /-- Whether included files are preprocessed themselves. -/
  recursiveIncludes : Bool := false
  /-- Whether macros stay defined from one pass to the next. -/
  keepMacros : Bool := false
  /-- Where included files are looked for when the source is no file. -/
  baseDirectory : Option Path := none
  /-- The name of the encoding of sources. -/
  encoding : String := "utf-8"
  /-- The ambient constants, unless they are those of the host. -/
  constants : Option Constants := none
  /-- The host. -/
  host : Host := .reference
  /-- Which object the text of a predefined macro is, by a number, if not one of its own. -/
  macroObject : String → Option Nat := fun _ => none
  /-- Which object an ambient constant is, by a number, if not one of its own. -/
  constantObject : String → Option Nat := fun _ => none

namespace Config

/-- The model that a name calls for. -/
def modeOfName (name : String) : Except ConfigError Mode :=
  match Mode.ofName? name with
  | some mode => .ok mode
  | none => .error (.unknownMode name)

/-- The ambient constants. -/
def ambient (config : Config) : Constants :=
  config.constants.getD config.host.constants

/-- The encoding of sources, if the host knows it. -/
def codec? (config : Config) : Option Text.Codec :=
  config.host.codec? config.encoding

/-- The definitions with a name defined as `value`, in its place if it is there already. -/
def setDefine (defines : List (String × String)) (name value : String) : List (String × String) :=
  if defines.any fun entry => entry.1 == name then
    defines.map fun entry => if entry.1 == name then (name, value) else entry
  else defines ++ [(name, value)]

/-- The value of a macro that is predefined without one. -/
def defaultValue : String := "1"

/-- Reads an item that predefines a macro. -/
def parseDefine (item : String) : Except ConfigError (String × String) :=
  let (name, value) := Text.cut '=' item.toList
  let name := Text.trimBoth Text.isBlank name
  if Text.isIdentifier name then
    .ok (String.ofList name, (value.map String.ofList).getD defaultValue)
  else .error (.invalidName (String.ofList name))

/-- The configuration with the macros that items predefine, the last item for a name deciding. -/
def parseDefines (config : Config) : List String → Except ConfigError Config
  | [] => .ok config
  | item :: items =>
    match parseDefine item with
    | .error e => .error e
    | .ok (name, value) =>
      parseDefines { config with defines := setDefine config.defines name value } items

end Config

/-- The text of the file that a path leads to, with its line ends as they are. -/
def FileTree.readText (files : FileTree) (path : Path) (config : Config) : Except Failure String :=
  -- The name of the encoding is looked at first, like the path.
  if config.encoding.toList.contains '\x00' then .error (.file ⟨.nullCharacter, path⟩)
  else match files.read path with
    | .error e => .error (.file e)
    | .ok bytes =>
      match config.codec? with
      | none => .error (.unknownEncoding config.encoding)
      | some codec =>
        match codec.decode bytes with
        | .error e => .error (.undecodable e)
        | .ok text => .ok text

/-- Writes a text to the file that a path leads to: the files then, and the failure if there is
one. -/
def FileTree.writeText (files : FileTree) (path : Path) (config : Config) (text : String) :
    FileTree × Except Failure Unit :=
  if config.encoding.toList.contains '\x00' then
    (files, .error (.file ⟨.nullCharacter, path⟩))
  else
    -- The file is emptied before anything is written, and stays so if nothing can be.
    let (bytes, result) : List UInt8 × Except Failure Unit := match config.codec? with
      | none => ([], .error (.unknownEncoding config.encoding))
      | some codec =>
        match codec.encode text with
        | none => ([], .error .unencodable)
        | some bytes => (bytes, .ok ())
    match files.write path bytes with
    | .error e => (files, .error (.file e))
    | .ok written => (written, result)

end Hashmark
