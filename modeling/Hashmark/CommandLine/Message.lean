import Hashmark.Text.Pictograph

/-!
# Messages

The line by which a program reports something on its console. The short names of pictographs are
replaced, the characters that would move the cursor or ring the bell are dropped, and tabs go to the
next of the stops, which are eight columns apart.
-/

namespace Hashmark.CommandLine

/-- Bell, backspace, vertical tab, form feed and carriage return. -/
def isCursorControl (c : Char) : Bool :=
  c.toNat = 7 || c.toNat = 8 || c.toNat = 11 || c.toNat = 12 || c.toNat = 13

/-- The distance of the tab stops. -/
def tabStop : Nat := 8

/-- The characters of a text from a column on, with blanks in the place of tabs. -/
def expandTabs (column : Nat) : List Char → List Char
  | [] => []
  | c :: cs =>
    if c = '\t' then
      let width := tabStop - column % tabStop
      List.replicate width ' ' ++ expandTabs (column + width) cs
    else c :: expandTabs (if c = '\n' then 0 else column + 1) cs

/-- The line that reports a text. -/
def messageLine (text : String) : String :=
  let shown := (Text.expandPictographs text).toList.filter fun c => !isCursorControl c
  String.ofList (expandTabs 0 shown) ++ "\n"

end Hashmark.CommandLine
