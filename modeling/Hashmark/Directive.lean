import Hashmark.Text.Blank
import Hashmark.Text.Lower

/-!
# Directives

A directive is written in a comment: its name right behind the number sign, in letters of any case,
and behind a space the payload, which is kept as it is. A comment whose name is none of the eight
commands is an ordinary comment.
-/

namespace Hashmark

/-- A comment read as a directive. -/
structure Directive where
  /-- The name in small letters. -/
  name : String
  /-- What follows the first space, if there is one. -/
  payload : Option String
  deriving DecidableEq, Repr

/-- What a directive can ask for. -/
inductive Command where
  /-- Define a macro. -/
  | define
  /-- Put the text of a file here. -/
  | include
  /-- Begin a block, kept if an expression is true. -/
  | whenTrue
  /-- Begin another branch, kept if an expression is true and no branch before was kept. -/
  | elseWhenTrue
  /-- Begin a block, kept if a name is defined. -/
  | whenDefined
  /-- Begin a block, kept if a name is not defined. -/
  | whenUndefined
  /-- Begin the branch that is kept if no branch before was. -/
  | otherwise
  /-- End a block. -/
  | endBlock
  deriving DecidableEq, Repr

/-- The name of each command. -/
def Command.name : Command → String
  | .define => "define"
  | .include => "include"
  | .whenTrue => "if"
  | .elseWhenTrue => "elif"
  | .whenDefined => "ifdef"
  | .whenUndefined => "ifndef"
  | .otherwise => "else"
  | .endBlock => "endif"

/-- The commands. -/
def Command.all : List Command :=
  [.define, .include, .whenTrue, .elseWhenTrue, .whenDefined, .whenUndefined, .otherwise, .endBlock]

/-- The command that goes by a name. -/
def Command.ofName? (name : String) : Option Command :=
  Command.all.find? fun command => command.name == name

namespace Directive

/-- Reads a comment as a directive: blanks around it and its first character are dropped. -/
def ofComment (comment : String) : Directive :=
  let (name, payload) := Text.cut ' ' ((Text.strip comment).toList.drop 1)
  ⟨Text.lower (String.ofList name), payload.map String.ofList⟩

/-- The command of a directive. -/
def command? (directive : Directive) : Option Command :=
  Command.ofName? directive.name

/-- The key under which what a directive does is found. -/
def key (directive : Directive) : String :=
  directive.name ++ "_directive"

end Directive

/-- A text without its first and its last character, which are taken for quotes. -/
def stripWrapping (text : String) : String :=
  String.ofList (text.toList.drop 1).dropLast

end Hashmark
