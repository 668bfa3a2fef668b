import Hashmark.Source.Scan
import Hashmark.Text.Blank
import Hashmark.Text.Quoted

/-!
# Tokens

Tokens cut a source into pieces without losing any of it. `ofMarks` takes the marks of a scan one
after another and makes a token of the text that each covers; text between two marks becomes a token
of white space, and the text behind the last mark one token more, which is untokenized if the scan
failed. Whatever the marks are, the texts of the tokens are not empty and make up the source.
-/

namespace Hashmark.Source

/-- A piece of a source. -/
structure Token where
  /-- What the piece is. -/
  kind : Kind
  /-- Its text. -/
  text : String
  /-- The number of the line on which it begins. -/
  line : Nat
  deriving DecidableEq, Repr

namespace Token

/-- Whether a token may hold a directive: it is a comment. -/
def isCandidate (token : Token) : Bool :=
  token.kind = .comment && (Text.strip token.text).toList.head? = some '#'

/-- A token with its kind, its quoted text, and its line. -/
def description (token : Token) : String :=
  "SourceToken(" ++ token.kind.label ++ ", " ++ Text.quoted token.text ++ ", line " ++
    toString token.line ++ ")"

end Token

/-- A failed scan: the line from which the source is passed on as it is, and why. -/
structure ScanWarning where
  /-- The line on which the untokenized rest begins. -/
  line : Nat
  /-- Why the scan failed. -/
  fault : ScanFault
  deriving DecidableEq, Repr

/-- A source in pieces: the tokens up to the end of the scan, the token behind it, if any text is
left there, and the warning between the two if the scan failed. -/
structure Tokenized where
  /-- The tokens that the marks make. -/
  scanned : List Token
  /-- The warning of a failed scan. -/
  warning : Option ScanWarning
  /-- The token of the text behind the last mark. -/
  rest : Option Token
  deriving DecidableEq, Repr

/-- All tokens in order. -/
def Tokenized.tokens (pieces : Tokenized) : List Token :=
  pieces.scanned ++ pieces.rest.toList

/-- How many characters precede each line of a text, and how many there are in all. -/
def lineOffsets (source : List Char) : Array Nat :=
  ((lines source).foldl (fun (offsets, total) line =>
    (offsets.push (total + line.length), total + line.length)) (#[0], 0)).1

/-- How many characters precede a place. Rows beyond the last count as the end, and no place is
beyond the end. -/
def offsetOf (offsets : Array Nat) (size : Nat) (place : Place) : Nat :=
  min (offsets.getD (min (place.row - 1) (offsets.size - 1)) 0 + place.column) size

/-- The part of a source that is not in tokens yet. -/
structure Remainder where
  /-- How many characters precede it. -/
  offset : Nat
  /-- Its text. -/
  text : List Char
  deriving DecidableEq, Repr

/-- Cuts a token off the front of the remainder, up to the offset `stop`; none if that is not beyond
the front. -/
def Remainder.cut (remainder : Remainder) (kind : Kind) (line stop : Nat) :
    List Token × Remainder :=
  if remainder.offset < stop then
    let length := stop - remainder.offset
    ([⟨kind, String.ofList (remainder.text.take length), line⟩],
      ⟨stop, remainder.text.drop length⟩)
  else ([], remainder)

/-- Makes tokens of marks, given the offset of each place: the gap before a mark, then the text that
it covers, as far as they are not in tokens yet. -/
def fill (offset : Place → Nat) : Remainder → List Mark → List Token × Remainder
  | remainder, [] => ([], remainder)
  | remainder, mark :: marks =>
    let (gap, remainder) := remainder.cut .whitespace mark.start.row (offset mark.start)
    let (body, remainder) := remainder.cut mark.kind mark.start.row (offset mark.stop)
    let (tokens, remainder) := fill offset remainder marks
    (gap ++ body ++ tokens, remainder)

/-- The number of the line on which the character behind `before` stands. -/
def lineAfter (before : List Char) : Nat :=
  1 + before.count '\n'

/-- Makes tokens of a source from the marks of a scan. -/
def ofMarks (source : List Char) (scan : Scan) : Tokenized :=
  let offsets := lineOffsets source
  let (tokens, remainder) := fill (offsetOf offsets source.length) ⟨0, source⟩ scan.marks
  let line := lineAfter (source.take remainder.offset)
  { scanned := tokens
    warning := scan.fault.map fun fault => ⟨line, fault⟩
    rest :=
      if remainder.text.isEmpty then none
      else
        some ⟨if scan.fault.isSome then .untokenized else .whitespace,
          String.ofList remainder.text, line⟩ }

/-- The tokens of a source. -/
def tokenize (source : String) : Tokenized :=
  ofMarks source.toList (scan source.toList)

end Hashmark.Source
