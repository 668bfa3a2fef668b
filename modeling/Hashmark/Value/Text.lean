import Hashmark.Value.Basic

/-!
# The text of a value

How a value is written out: numbers in decimal notation, texts and bytes quoted, the members of
sequences, sets and dictionaries between brackets and separated by commas. The members of a set are
written in the order in which they stand. An integer with too many digits has no text, and then
nothing that holds it has one.
-/

namespace Hashmark.Value

/-- Texts separated by commas. -/
def commaSeparated (items : List String) : String :=
  String.intercalate ", " items

/-- A part of a complex number: without the point and the zero that mark an integer. -/
def partText (x : Float) : String :=
  let cs := (Number.floatText x).toList
  if cs.drop (cs.length - 2) = ['.', '0'] then String.ofList (cs.take (cs.length - 2))
  else String.ofList cs

/-- A complex number: its imaginary part alone if the real part is a positive zero, and otherwise
both in parentheses. -/
def complexText (z : Number.Complex) : String :=
  let im := partText z.im ++ "j"
  if z.re == 0.0 && !Number.isNegative z.re then im
  else
    let sign := if im.toList.head? = some '-' then "" else "+"
    "(" ++ partText z.re ++ sign ++ im ++ ")"

mutual

/-- The text of a value, if it has one. -/
def shown? : Value → Option String
  | .none => some "None"
  | .ellipsis => some "Ellipsis"
  | .bool b => some (if b then "True" else "False")
  | .int n => Number.intText? n
  | .float x => some (Number.floatText x)
  | .complex z => some (complexText z)
  | .text s => some (Text.quoted s)
  | .bytes bs => some (Text.quotedBytes bs)
  | .tuple items => (shownItems? items).map fun
    | [single] => "(" ++ single ++ ",)"
    | shown => "(" ++ commaSeparated shown ++ ")"
  | .list items => (shownItems? items).map fun shown => "[" ++ commaSeparated shown ++ "]"
  | .set items => (shownItems? items).map fun
    | [] => "set()"
    | shown => "\x7b" ++ commaSeparated shown ++ "\x7d"
  | .dict entries =>
    (shownEntries? entries).map fun shown => "\x7b" ++ commaSeparated shown ++ "\x7d"

/-- The texts of values, if all have one. -/
def shownItems? : List Value → Option (List String)
  | [] => some []
  | v :: vs =>
    match shown? v, shownItems? vs with
    | some s, some rest => some (s :: rest)
    | _, _ => Option.none

/-- The texts of the entries of a dictionary, if all have one. -/
def shownEntries? : List (Value × Value) → Option (List String)
  | [] => some []
  | (k, v) :: rest =>
    match shown? k, shown? v, shownEntries? rest with
    | some key, some value, some shown => some ((key ++ ": " ++ value) :: shown)
    | _, _, _ => Option.none

end

end Hashmark.Value
