import Hashmark.Text.Range
import Hashmark.Text.Table.Compatibility

/-!
# Compatibility composition

The normal form KC of identifiers: every character is replaced by its full compatibility
decomposition, combining marks are sorted by class within each run of them, and what then composes
is composed. Hangul syllables are taken apart and put together by their arithmetic. A text of ASCII
is its own normal form.
-/

namespace Hashmark.Text

/-- A range of characters with one image: the first character of the image moves along with the
range, and the rest is shared. -/
structure MapRun where
  /-- The characters mapped. -/
  range : Range
  /-- The image of the first of them. -/
  image : List Nat
  deriving Inhabited

/-- Reads `b5>3bc`, `1d400-1d419>41` or `fb01>66+69`. -/
def MapRun.ofText (cs : List Char) : MapRun :=
  let (range, image) := cut '>' cs
  ⟨Range.ofText range, ((image.map (fields '+')).getD []).map ofHexDigits⟩

/-- The runs of characters that are decomposed. -/
private def decompositionRuns : Array MapRun :=
  ((tableItems Table.decomposition).map MapRun.ofText).toArray

/-- The runs of characters that combine with others. -/
private def combiningRuns : Array MapRun :=
  ((tableItems Table.combiningClass).map MapRun.ofText).toArray

/-- The pairs that compose, each as its two members and the result. -/
private def compositionPairs : Array (Nat × Nat × Nat) :=
  ((tableItems Table.composition).map fun item =>
    let (pair, image) := cut '>' item
    let (first, second) := cut '+' pair
    (ofHexDigits first, (second.map ofHexDigits).getD 0, (image.map ofHexDigits).getD 0)).toArray

/-- The full compatibility decomposition of a code point. -/
def decompose (n : Nat) : List Nat :=
  if n < 128 then [n]
  else if 0xac00 ≤ n && n ≤ 0xd7a3 then
    let index := n - 0xac00
    let leadVowel := [0x1100 + index / 588, 0x1161 + index % 588 / 28]
    if index % 28 = 0 then leadVowel else leadVowel ++ [0x11a7 + index % 28]
  else
    match lookupRange decompositionRuns MapRun.range n with
    | none => [n]
    | some run =>
      match run.image with
      | [single] => [single + (n - run.range.lo)]
      | several => several

/-- The canonical combining class of a code point, zero for one that begins a new run. -/
def combiningClass (n : Nat) : Nat :=
  if n < 128 then 0
  else
    match lookupRange combiningRuns MapRun.range n with
    | none => 0
    | some run => run.image.headD 0

/-- The code point that two compose to. -/
def composePair (first second : Nat) : Option Nat :=
  if 0x1100 ≤ first && first ≤ 0x1112 && 0x1161 ≤ second && second ≤ 0x1175 then
    some (0xac00 + ((first - 0x1100) * 21 + (second - 0x1161)) * 28)
  else if 0xac00 ≤ first && first ≤ 0xd7a3 && (first - 0xac00) % 28 = 0 &&
      0x11a8 ≤ second && second ≤ 0x11c2 then
    some (first + (second - 0x11a7))
  else
    (compositionPairs.find? fun (a, b, _) => a == first && b == second).map fun (_, _, c) => c

/-- Puts a mark of class `rank` behind the marks of no greater class at the end of a reversed
text. -/
def insertMark (n rank : Nat) : List Nat → List Nat
  | [] => [n]
  | m :: rest => if rank < combiningClass m then m :: insertMark n rank rest else n :: m :: rest

/-- Sorts the marks of each run by class, marks of one class staying in their order. The result is
reversed. -/
def orderMarks (ns : List Nat) : List Nat :=
  ns.foldl (fun done n =>
    let rank := combiningClass n
    if rank = 0 then n :: done else insertMark n rank done) []

/-- A text under composition: what is finished (reversed), the last starter, and the marks kept
behind it (reversed). -/
structure Composition where
  /-- The code points before the last starter, reversed. -/
  done : List Nat
  /-- The last code point of class zero. -/
  starter : Option Nat
  /-- The marks that did not combine with it, reversed. -/
  marks : List Nat

/-- Takes the next code point into a composition: it joins the last starter when no mark between
them has its class or a greater one. -/
def Composition.push (state : Composition) (n : Nat) : Composition :=
  let rank := combiningClass n
  let blocked := match state.marks with
    | [] => false
    | m :: _ => rank ≤ combiningClass m
  let joined := match state.starter with
    | some s => if blocked then none else composePair s n
    | none => none
  match joined with
  | some c => { state with starter := some c }
  | none =>
    if rank = 0 then ⟨state.marks ++ state.starter.toList ++ state.done, some n, []⟩
    else { state with marks := n :: state.marks }

/-- The code points of a composition. -/
def Composition.finish (state : Composition) : List Nat :=
  (state.marks ++ state.starter.toList ++ state.done).reverse

/-- The normal form KC of an identifier. -/
def normalize (name : String) : String :=
  if name.toList.all fun c => c.toNat < 128 then name
  else
    let marks := (orderMarks (name.toList.flatMap fun c => decompose c.toNat)).reverse
    let composed := (marks.foldl Composition.push ⟨[], none, []⟩).finish
    String.ofList (composed.map Char.ofNat)

end Hashmark.Text
