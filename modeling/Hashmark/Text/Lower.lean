import Hashmark.Text.Range
import Hashmark.Text.Table.Case

/-!
# Lower case

The lower case of a text by Unicode's full mapping. All characters but two have an image of their
own: the dotted capital I becomes a small i and a combining dot, and the capital sigma takes its
final form when a cased letter precedes it and none follows it, characters such as accents and
apostrophes being passed over.
-/

namespace Hashmark.Text

/-- A run of a map of characters: every `stride`-th member of `range` has an image, the first one
`image` and the others as far beyond it. -/
structure CaseRun where
  /-- The characters between the first and the last that the run maps. -/
  range : Range
  /-- The distance between two characters that the run maps. -/
  stride : Nat
  /-- The image of the first one. -/
  image : Nat
  deriving Inhabited

/-- Reads `41>61`, `41-5a>61` or `100-12e/2>101`. -/
def CaseRun.ofText (cs : List Char) : CaseRun :=
  let (source, image) := cut '>' cs
  let (range, stride) := cut '/' source
  ⟨Range.ofText range, (stride.map ofHexDigits).getD 1, (image.map ofHexDigits).getD 0⟩

/-- The runs of characters that have lower case forms. -/
private def lowerRuns : Array CaseRun :=
  ((tableItems Table.lower).map CaseRun.ofText).toArray

/-- The characters that have case. -/
private def casedRanges : Array Range := rangesOfTable Table.cased

/-- The characters that are passed over when case depends on neighbours. -/
private def caseIgnorableRanges : Array Range := rangesOfTable Table.caseIgnorable

/-- The lower case of a character that has one of a single character, and otherwise itself. -/
def lowerChar (c : Char) : Char :=
  let n := c.toNat
  if n < 128 then (if 65 ≤ n && n ≤ 90 then Char.ofNat (n + 32) else c)
  else
    match lookupRange lowerRuns CaseRun.range n with
    | none => c
    | some run =>
      if (n - run.range.lo) % run.stride = 0 then Char.ofNat (run.image + (n - run.range.lo)) else c

/-- Whether the nearest character that is not passed over has case. -/
def meetsCased (cs : List Char) : Bool :=
  match cs.dropWhile fun c => inRanges caseIgnorableRanges c.toNat with
  | [] => false
  | c :: _ => inRanges casedRanges c.toNat

/-- The lower case of a text that stands behind the characters `before`, the nearest first. -/
def lowerAfter (before : List Char) : List Char → List Char
  | [] => []
  | c :: cs =>
    let image :=
      if c = 'Σ' then [if meetsCased before && !meetsCased cs then 'ς' else 'σ']
      else if c = 'İ' then ['i', '\u0307']
      else [lowerChar c]
    image ++ lowerAfter (c :: before) cs

/-- The lower case of a text. -/
def lower (text : String) : String :=
  String.ofList (lowerAfter [] text.toList)

end Hashmark.Text
