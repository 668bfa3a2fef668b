import Hashmark.Text.Blank

/-!
# Tables of code points

Reading and searching the tables that describe classes and maps of characters. A class is an
increasing list of closed ranges, searched by bisection; a map is an increasing list of ranges with
an image each.
-/

namespace Hashmark.Text

/-- The value of a hexadecimal digit; other characters count as zero. -/
def hexDigitValue (c : Char) : Nat :=
  let n := c.toNat
  if 48 ≤ n && n ≤ 57 then n - 48
  else if 97 ≤ n && n ≤ 102 then n - 87
  else if 65 ≤ n && n ≤ 70 then n - 55
  else 0

/-- The number that hexadecimal digits write. -/
def ofHexDigits (cs : List Char) : Nat :=
  cs.foldl (fun n c => 16 * n + hexDigitValue c) 0

/-- A range of code points, `lo` and `hi` included. -/
structure Range where
  /-- The first member. -/
  lo : Nat
  /-- The last member. -/
  hi : Nat
  deriving Inhabited, Repr

/-- Reads `41` or `41-5a`. -/
def Range.ofText (cs : List Char) : Range :=
  match cut '-' cs with
  | (lo, some hi) => ⟨ofHexDigits lo, ofHexDigits hi⟩
  | (lo, none) => ⟨ofHexDigits lo, ofHexDigits lo⟩

/-- The blank-separated items of a table's lines. -/
def tableItems (lines : List String) : List (List Char) :=
  lines.flatMap fun line => fields ' ' line.toList

/-- The ranges that a table lists. -/
def rangesOfTable (lines : List String) : Array Range :=
  ((tableItems lines).map Range.ofText).toArray

/-- The entry among those from `lo` up to `hi` whose range, given by `range`, holds `n`. The first
argument bounds the number of halvings. -/
def bisect {α : Type} (table : Array α) (range : α → Range) (n : Nat) :
    Nat → Nat → Nat → Option α
  | 0, _, _ => none
  | steps + 1, lo, hi =>
    if hi ≤ lo then none
    else
      let middle := (lo + hi) / 2
      match table[middle]? with
      | none => none
      | some entry =>
        if n < (range entry).lo then bisect table range n steps lo middle
        else if (range entry).hi < n then bisect table range n steps (middle + 1) hi
        else some entry

/-- The entry of a table in increasing order whose range holds `n`. -/
def lookupRange {α : Type} (table : Array α) (range : α → Range) (n : Nat) : Option α :=
  bisect table range n (table.size + 1) 0 table.size

/-- Whether a code point is in one of the ranges. -/
def inRanges (table : Array Range) (n : Nat) : Bool :=
  (lookupRange table id n).isSome

end Hashmark.Text
