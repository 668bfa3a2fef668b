import Hashmark.Source.Lexeme
import Hashmark.Source.Mark

/-!
# Scanning

The marks of a source, found line by line. Between lines the scan remembers the depth of brackets,
the columns of the open blocks, whether a backslash joins the next line, and the string that is
still open. Outside brackets and strings the blanks that begin a line are measured and compared with
the open blocks; inside, a line end is no end of a statement, and the source may not end.
-/

namespace Hashmark.Source

/-- A string that goes on over several lines. -/
structure OpenString where
  /-- The character that quotes it. -/
  quote : Char
  /-- Whether three of them do. -/
  triple : Bool
  /-- Where the string begins. -/
  start : Place
  deriving DecidableEq, Repr

/-- What a scan knows between two lines. -/
structure ScanState where
  /-- The depth of brackets; closing more than were opened makes it negative. -/
  depth : Int
  /-- Whether a backslash joins the next line to this one. -/
  joined : Bool
  /-- The string that is open, if any. -/
  openString : Option OpenString
  /-- Whether lines of an open string have to end in a backslash unless they close it. -/
  strict : Bool
  /-- The columns of the open blocks, the innermost first. -/
  blocks : List Nat
  deriving DecidableEq, Repr

/-- The state before the first line. -/
def ScanState.start : ScanState := ⟨0, false, none, false, [0]⟩

/-- A character that may stand between the elements of a line. -/
def isMargin (c : Char) : Bool :=
  c = ' ' || c = '\t' || c = '\x0c'

/-- The column that blanks reach: a tab goes to the next multiple of eight and a form feed back to
zero. -/
def reach (column : Nat) : List Char → Nat
  | [] => column
  | '\t' :: cs => reach ((column / 8 + 1) * 8) cs
  | '\x0c' :: cs => reach 0 cs
  | _ :: cs => reach (column + 1) cs

/-- The change of depth that an operator makes. -/
def depthChange : List Char → Int
  | [c] =>
    if c = '(' || c = '[' || c = '\x7b' then 1
    else if c = ')' || c = ']' || c = '\x7d' then -1
    else 0
  | _ => 0

/-- The state and the marks after a line. -/
abbrev LineScan := ScanState × List Mark

/-- Puts a mark in front of those that the rest of a line has. -/
def LineScan.withMark (kind : Kind) (row first last : Nat) (scan : LineScan) : LineScan :=
  (scan.1, ⟨kind, ⟨row, first⟩, ⟨row, last⟩⟩ :: scan.2)

/-- Scans the elements of a line from `column` on, where `cs` stands. The first argument bounds the
number of elements; the length of the line is enough, since each has at least one character. -/
def scanElements (row : Nat) : Nat → ScanState → Nat → List Char → LineScan
  | 0, state, _, _ => (state, [])
  | fuel + 1, state, column, cs =>
    let body := cs.dropWhile isMargin
    let first := column + (cs.takeWhile isMargin).length
    match body with
    | [] => (state, [])
    | initial :: _ =>
      match lexeme? body with
      -- Nothing begins here. The scan begins anew behind one character, which may be one of the
      -- blanks.
      | none => (scanElements row fuel state (column + 1) (cs.drop 1)).withMark .stray row column
          (column + 1)
      | some (lexeme, length) =>
        let rest := body.drop length
        let last := first + length
        match lexeme with
        | .join => scanElements row fuel { state with joined := true } last rest
        | .comment => (scanElements row fuel state last rest).withMark .comment row first last
        | .number => (scanElements row fuel state last rest).withMark .number row first last
        | .string => (scanElements row fuel state last rest).withMark .string row first last
        | .lineEnd =>
          (scanElements row fuel state last rest).withMark
            -- Within brackets a line end is no end of a statement.
            (if 0 < state.depth then .lineBreak else .newline) row first last
        | .operator =>
          (scanElements row fuel
            { state with depth := state.depth + depthChange (body.take length) }
            last rest).withMark .operator row first last
        | .word =>
          (scanElements row fuel state last rest).withMark
            (if Text.isIdentifierStart initial then .name else .operator) row first last
        | .tripleQuote quote =>
          match closingLength? quote true rest with
          | some more =>
            (scanElements row fuel state (last + more) (rest.drop more)).withMark .string row first
              (last + more)
          -- The string goes on behind this line and is marked where it ends.
          | none => ({ state with openString := some ⟨quote, true, ⟨row, first⟩⟩ }, [])
        | .brokenString quote =>
          ({ state with openString := some ⟨quote, false, ⟨row, first⟩⟩, strict := true }, [])

/-- Whether a line ends in a backslash before its line end. -/
def endsInBackslash (line : List Char) : Bool :=
  match line.reverse with
  | '\n' :: '\\' :: _ => true
  | '\n' :: '\r' :: '\\' :: _ => true
  | _ => false

/-- Scans a line within an open string. -/
def scanString (state : ScanState) (row : Nat) (line : List Char) (opened : OpenString) :
    LineScan :=
  match closingLength? opened.quote opened.triple line with
  | some length =>
    let (state, marks) := scanElements row line.length
      { state with openString := none, strict := false } length (line.drop length)
    (state, ⟨.string, opened.start, ⟨row, length⟩⟩ :: marks)
  | none =>
    -- A string in single quotes goes on only behind a backslash.
    if state.strict && !endsInBackslash line then
      ({ state with openString := none }, [⟨.stray, opened.start, ⟨row, line.length⟩⟩])
    else (state, [])

/-- Closes the blocks that a line at `column` is less indented than: the blocks that stay open, and
how many were closed; nothing if the column agrees with none of them. -/
def closeBlocks? (column : Nat) : List Nat → Option (List Nat × Nat)
  | [] => none
  | block :: blocks =>
    if block ≤ column then some (block :: blocks, 0)
    -- A block is closed only if one around it begins at the column.
    else if blocks.contains column then
      (closeBlocks? column blocks).map fun (kept, closed) => (kept, closed + 1)
    else none

/-- What comes of a line. -/
inductive LineResult where
  /-- The scan goes on with the next line. -/
  | next (scan : LineScan)
  /-- The source has only blanks from here on. -/
  | finished
  /-- The scan fails behind these marks. -/
  | failed (marks : List Mark) (fault : ScanFault)
  deriving DecidableEq, Repr

/-- Scans a line that begins a statement: its blanks, and its elements unless it is blank or holds
only a comment. -/
def scanStatement (state : ScanState) (row : Nat) (line : List Char) : LineResult :=
  let blanks := line.takeWhile isMargin
  let body := line.dropWhile isMargin
  let margin := blanks.length
  match body with
  -- Blanks without a line end are the last line of a source.
  | [] => .finished
  | c :: _ =>
    -- Neither a comment by itself nor a blank line has a part in the blocks.
    if c = '#' then
      let comment := Text.dropTrailing (fun c => c = '\r' || c = '\n') body
      let stop := margin + comment.length
      .next (state, [⟨.comment, ⟨row, margin⟩, ⟨row, stop⟩⟩,
        ⟨.lineBreak, ⟨row, stop⟩, ⟨row, line.length⟩⟩])
    else if c = '\r' || c = '\n' then
      .next (state, [⟨.lineBreak, ⟨row, margin⟩, ⟨row, line.length⟩⟩])
    else
      let column := reach 0 blanks
      if state.blocks.headD 0 < column then
        .next ((scanElements row line.length { state with blocks := column :: state.blocks }
          margin body).withMark .indent row 0 margin)
      else match closeBlocks? column state.blocks with
        | none => .failed [] .unindent
        | some (blocks, closed) =>
          let (state, marks) := scanElements row line.length { state with blocks } margin body
          .next (state, List.replicate closed ⟨.dedent, ⟨row, margin⟩, ⟨row, margin⟩⟩ ++ marks)

/-- Scans one line. -/
def scanLine (state : ScanState) (row : Nat) (line : List Char) : LineResult :=
  match state.openString with
  | some opened => .next (scanString state row line opened)
  | none =>
    if state.depth = 0 && !state.joined then scanStatement state row line
    else .next (scanElements row line.length { state with joined := false } 0 line)

/-- The marks behind the last line: a line end that the source lacks, the ends of the open blocks,
and the end of the source. -/
def closingMarks (state : ScanState) (row : Nat) (lastLine : List Char) : List Mark :=
  -- A last line that holds only a comment has its line end marked already.
  let stands := (Text.trimBoth Text.isBlank lastLine).head? != some '#'
  let ending := match lastLine.getLast? with
    | some c => if c != '\r' && c != '\n' && stands then
        [⟨.newline, ⟨row - 1, lastLine.length⟩, ⟨row - 1, lastLine.length + 1⟩⟩] else []
    | none => []
  ending ++ List.replicate (state.blocks.length - 1) ⟨.dedent, ⟨row, 0⟩, ⟨row, 0⟩⟩ ++
    [⟨.endMark, ⟨row, 0⟩, ⟨row, 0⟩⟩]

/-- Scans lines, the first of them being number `row` and `lastLine` the one before it. -/
def scanLines (state : ScanState) (row : Nat) (lastLine : List Char) : List (List Char) → Scan
  | [] =>
    if state.openString.isSome then ⟨[], some .openString⟩
    else if state.depth = 0 && !state.joined then ⟨closingMarks state row lastLine, none⟩
    else ⟨[], some .openStatement⟩
  | line :: lines =>
    match scanLine state row line with
    | .finished => ⟨closingMarks state row lastLine, none⟩
    | .failed marks fault => ⟨marks, some fault⟩
    | .next (state, marks) =>
      let rest := scanLines state (row + 1) line lines
      ⟨marks ++ rest.marks, rest.fault⟩

/-- The lines of a text, each with its line end. -/
def lines : List Char → List (List Char)
  | [] => []
  | c :: cs =>
    if c = '\n' then [c] :: lines cs
    else match lines cs with
      | [] => [[c]]
      | line :: rest => (c :: line) :: rest

/-- The marks of a source. -/
def scan (source : List Char) : Scan :=
  scanLines ScanState.start 1 [] (lines source)

end Hashmark.Source
