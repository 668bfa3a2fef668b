import Hashmark.Failure
import Hashmark.Condition.Evaluate
import Hashmark.Literal

/-!
# Macros

Names with the texts that they are defined as. A table keeps macros in the order of their
definition; a name that is defined stays as it is, and defining it again is a fault. The value of a
macro is its text read as a literal, or else the text itself.
-/

namespace Hashmark

/-- A macro. -/
structure Macro where
  /-- Its name. -/
  name : String
  /-- The text that it is defined as. -/
  value : String
  /-- Where it is defined; unknown for one that a configuration defines. -/
  location : Location
  /-- Which object its text is, by a number, if it is not an object of its own. -/
  object : Option Nat
  deriving DecidableEq, Repr

namespace Macro

/-- The value of a text: as a literal, and otherwise the text itself; nothing if a number in it is
too large. -/
def literalOf (text : String) : Option Value :=
  match Literal.parse text with
  | .ok v => some v
  | .error .malformed => some (.text text)
  | .error .overflow => none

/-- The value of a macro. -/
def literal (m : Macro) : Option Value :=
  literalOf m.value

/-- What looking up a macro gives. A literal is a new object every time, the text itself is not. -/
def lookup (m : Macro) : Condition.Lookup :=
  match Literal.parse m.value with
  | .ok v => .found v .fresh
  | .error .malformed => .found (.text m.value) (.ofObject m.object)
  | .error .overflow => .overflow

end Macro

/-- A table of macros, in the order of their definition. -/
structure MacroTable where
  /-- The macros. -/
  macros : List Macro
  deriving DecidableEq, Repr

namespace MacroTable

/-- The table without macros. -/
def empty : MacroTable := ⟨[]⟩

/-- The macro that goes by a name. -/
def find? (table : MacroTable) (name : String) : Option Macro :=
  table.macros.find? fun m => m.name == name

/-- Whether a name is that of a macro. -/
def contains (table : MacroTable) (name : String) : Bool :=
  (table.find? name).isSome

/-- Adds a macro behind the others. -/
def push (table : MacroTable) (m : Macro) : MacroTable :=
  ⟨table.macros ++ [m]⟩

/-- Defines a name, which may not be defined yet. -/
def define (table : MacroTable) (name value : String) (location : Location)
    (object : Option Nat := none) : Except Failure MacroTable :=
  if table.contains name then .error (.at (.redefinition name) location)
  else .ok (table.push ⟨name, value, location, object⟩)

/-- Defines names in order, up to the first that is defined already: the table then, and the failure
if there is one. What `object` gives for a name says which object its text is. -/
def seed (table : MacroTable) (definitions : List (String × String))
    (object : String → Option Nat := fun _ => none) : MacroTable × Option Failure :=
  match definitions with
  | [] => (table, none)
  | (name, value) :: rest =>
    match table.define name value .unknown (object name) with
    | .ok table => seed table rest object
    | .error e => (table, some e)

/-- Defines those names that are not defined yet; `object` says which object each text is. -/
def seedMissing (table : MacroTable) (definitions : List (String × String))
    (object : String → Option Nat) : MacroTable :=
  definitions.foldl (fun table (name, value) =>
    if table.contains name then table
    else table.push ⟨name, value, .unknown, object name⟩) table

end MacroTable

end Hashmark
