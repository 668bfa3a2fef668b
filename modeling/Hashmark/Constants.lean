import Hashmark.Value.Text

/-!
# Ambient constants

Names that count as defined without a definition in any source, with their values.
-/

namespace Hashmark

/-- Constants by name; no name occurs twice. -/
structure Constants where
  /-- The names with their values. -/
  entries : List (String × Value)

namespace Constants

/-- No constants. -/
def none : Constants := ⟨[]⟩

/-- The value of a constant. -/
def find? (constants : Constants) (name : String) : Option Value :=
  constants.entries.lookup name

/-- Whether a name is that of a constant. -/
def contains (constants : Constants) (name : String) : Bool :=
  (constants.find? name).isSome

/-- The constants in the order of their names, as a text; none if a value has no text. -/
def shown? (constants : Constants) : Option String :=
  let sorted := constants.entries.mergeSort fun a b => decide (a.1 ≤ b.1)
  ((Value.list (sorted.map fun (name, v) => .tuple [.text name, v])).shown?).map fun text =>
    "MappingConstants(" ++ text ++ ")"

end Constants

end Hashmark
