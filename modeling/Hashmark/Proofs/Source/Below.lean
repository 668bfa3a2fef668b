import Hashmark.Proofs.Pass.Resemblance
import Hashmark.Proofs.Source.Lines
import Hashmark.Proofs.Text.Separate

/-!
# A source below a comment

A line that holds only a comment leaves the scan in the state in which it begins. So the tokens of a
source with such a line in front of it are the comment, its line end, and the tokens of the source,
each one row further down (`tokens_commentLine`).

What a scan finds does not depend on the number of a row: from states that differ only in where the
open string begins, the marks of the same lines differ only in their rows (`scanLines_below`), and
the offsets of the marks differ by the length of the line in front, so that the tokens made of them
have the same texts (`fill_below`).
-/

namespace Hashmark.Source

/-- A place in a source, and the same place one row further down. -/
structure Place.Below (place other : Place) : Prop where
  /-- Rows count from one. -/
  pos : 1 ≤ place.row
  /-- The row is the next one. -/
  row : other.row = place.row + 1
  /-- The column is the same. -/
  column : other.column = place.column

/-- A mark, and the same mark one row further down. -/
structure Mark.Below (mark other : Mark) : Prop where
  /-- The kind is the same. -/
  kind : mark.kind = other.kind
  /-- It begins one row further down. -/
  start : mark.start.Below other.start
  /-- It ends one row further down. -/
  stop : mark.stop.Below other.stop

/-- An open string, and the same one begun one row further down. -/
structure OpenString.Below (opened other : OpenString) : Prop where
  /-- The quote is the same. -/
  quote : opened.quote = other.quote
  /-- There are as many quotes. -/
  triple : opened.triple = other.triple
  /-- It begins one row further down. -/
  start : opened.start.Below other.start

/-- States of a scan that are the same, but for an open string that begins one row further down. -/
structure ScanState.Below (state other : ScanState) : Prop where
  /-- The depth is the same. -/
  depth : state.depth = other.depth
  /-- Both join the next line, or neither does. -/
  joined : state.joined = other.joined
  /-- The open strings are the same but for a row. -/
  openString : Option.Rel OpenString.Below state.openString other.openString
  /-- Both ask for a backslash, or neither does. -/
  strict : state.strict = other.strict
  /-- The same blocks are open. -/
  blocks : state.blocks = other.blocks

/-- What is found on a line, and the same one row further down. -/
structure LineScan.Below (scan other : LineScan) : Prop where
  /-- The states are the same but for a row. -/
  state : scan.1.Below other.1
  /-- The marks are one row further down. -/
  marks : List.Forall₂ Mark.Below scan.2 other.2

/-- What comes of a line, and the same one row further down. -/
inductive LineResult.Below : LineResult → LineResult → Prop
  /-- Both scans go on. -/
  | next {scan other : LineScan} (h : scan.Below other) : Below (.next scan) (.next other)
  /-- Both sources have only blanks left. -/
  | finished : Below .finished .finished
  /-- Both scans fail for the same reason. -/
  | failed {marks others : List Mark} (fault : ScanFault)
      (h : List.Forall₂ Mark.Below marks others) :
      Below (.failed marks fault) (.failed others fault)

/-- What a scan reports, and the same one row further down. -/
structure Scan.Below (scan other : Scan) : Prop where
  /-- The marks are one row further down. -/
  marks : List.Forall₂ Mark.Below scan.marks other.marks
  /-- Both scans fail for the same reason, or neither does. -/
  fault : scan.fault = other.fault

section Scan

variable {row : Nat} {state other : ScanState}

/-- A place on a row, and the place below it. -/
theorem Place.below (hrow : 1 ≤ row) (column : Nat) :
    Place.Below ⟨row, column⟩ ⟨row + 1, column⟩ :=
  ⟨hrow, rfl, rfl⟩

/-- A mark on a row, and the mark below it. -/
theorem Mark.below (hrow : 1 ≤ row) (kind : Kind) (first last : Nat) :
    Mark.Below ⟨kind, ⟨row, first⟩, ⟨row, last⟩⟩ ⟨kind, ⟨row + 1, first⟩, ⟨row + 1, last⟩⟩ :=
  ⟨rfl, Place.below hrow first, Place.below hrow last⟩

/-- A mark as often as the mark below it. -/
theorem replicate_below {mark mark' : Mark} (h : mark.Below mark') (n : Nat) :
    List.Forall₂ Mark.Below (List.replicate n mark) (List.replicate n mark') := by
  induction n with
  | zero => exact .nil
  | succ n ih => exact .cons h ih

/-- A further mark in front of those of a line. -/
theorem LineScan.Below.withMark {scan scan' : LineScan} (h : scan.Below scan') (hrow : 1 ≤ row)
    (kind : Kind) (first last : Nat) :
    (scan.withMark kind row first last).Below (scan'.withMark kind (row + 1) first last) :=
  ⟨h.state, .cons (Mark.below hrow kind first last) h.marks⟩

/-- The elements of a line are found in any row. -/
theorem scanElements_below (hrow : 1 ≤ row) (fuel : Nat) (h : state.Below other) (column : Nat)
    (cs : List Char) :
    LineScan.Below (scanElements row fuel state column cs)
      (scanElements (row + 1) fuel other column cs) := by
  induction fuel generalizing state other column cs with
  | zero => exact ⟨h, .nil⟩
  | succ fuel ih =>
    obtain ⟨depth, joined, opened, strict, blocks⟩ := state
    obtain ⟨depth', joined', opened', strict', blocks'⟩ := other
    obtain ⟨rfl, rfl, hopened, rfl, rfl⟩ := h
    -- Only the row of an open string differs, which no element depends on.
    have hkept : ∀ depth joined strict, ScanState.Below ⟨depth, joined, opened, strict, blocks⟩
        ⟨depth, joined, opened', strict, blocks⟩ := fun _ _ _ => ⟨rfl, rfl, hopened, rfl, rfl⟩
    match hbody : cs.dropWhile isMargin with
    | [] =>
      simp only [scanElements, hbody]
      exact ⟨hkept _ _ _, .nil⟩
    | initial :: body =>
      match hlexeme : lexeme? (initial :: body) with
      | none =>
        simp only [scanElements, hbody, hlexeme]
        exact (ih (hkept _ _ _) _ _).withMark hrow _ _ _
      | some (lexeme, length) =>
        cases lexeme with
        | join =>
          simp only [scanElements, hbody, hlexeme]
          exact ih (hkept _ _ _) _ _
        | comment | number | string | lineEnd | operator | word =>
          simp only [scanElements, hbody, hlexeme]
          exact (ih (hkept _ _ _) _ _).withMark hrow _ _ _
        | tripleQuote quote =>
          simp only [scanElements, hbody, hlexeme]
          cases closingLength? quote true ((initial :: body).drop length) with
          | some more => exact (ih (hkept _ _ _) _ _).withMark hrow _ _ _
          | none => exact ⟨⟨rfl, rfl, .some ⟨rfl, rfl, Place.below hrow _⟩, rfl, rfl⟩, .nil⟩
        | brokenString quote =>
          simp only [scanElements, hbody, hlexeme]
          exact ⟨⟨rfl, rfl, .some ⟨rfl, rfl, Place.below hrow _⟩, rfl, rfl⟩, .nil⟩

/-- A line within an open string is scanned alike in any row. -/
theorem scanString_below (hrow : 1 ≤ row) (h : state.Below other) (line : List Char)
    {opened opened' : OpenString} (hopened : opened.Below opened') :
    LineScan.Below (scanString state row line opened)
      (scanString other (row + 1) line opened') := by
  obtain ⟨quote, triple, start⟩ := opened
  obtain ⟨quote', triple', start'⟩ := opened'
  obtain ⟨rfl, rfl, hstart⟩ := hopened
  have hstring : ∀ length kind, Mark.Below ⟨kind, start, ⟨row, length⟩⟩
      ⟨kind, start', ⟨row + 1, length⟩⟩ :=
    fun length _ => ⟨rfl, hstart, Place.below hrow length⟩
  unfold scanString
  simp only
  cases closingLength? quote triple line with
  | some length =>
    -- Closed strings leave no trace of their rows.
    have hclosed : ScanState.Below { state with openString := none, strict := false }
        { other with openString := none, strict := false } :=
      ⟨h.depth, h.joined, .none, rfl, h.blocks⟩
    have hrest := scanElements_below hrow line.length hclosed length (line.drop length)
    exact ⟨hrest.state, .cons (hstring length .string) hrest.marks⟩
  | none =>
    simp only [h.strict]
    split
    · exact ⟨⟨h.depth, h.joined, .none, rfl, h.blocks⟩, .cons (hstring _ _) .nil⟩
    · exact ⟨h, .nil⟩

/-- A line that begins a statement is scanned alike in any row. -/
theorem scanStatement_below (hrow : 1 ≤ row) (h : state.Below other) (line : List Char) :
    (scanStatement state row line).Below (scanStatement other (row + 1) line) := by
  unfold scanStatement
  simp only [h.blocks]
  split
  · exact .finished
  · split
    · exact .next ⟨h, .cons (Mark.below hrow _ _ _) (.cons (Mark.below hrow _ _ _) .nil)⟩
    · split
      · exact .next ⟨h, .cons (Mark.below hrow _ _ _) .nil⟩
      -- The columns of blocks are the same in any row.
      · have hblocks : ∀ blocks, ScanState.Below { state with blocks } { other with blocks } :=
          fun _ => ⟨h.depth, h.joined, h.openString, h.strict, rfl⟩
        have helements := fun blocks => scanElements_below hrow line.length (hblocks blocks)
          (line.takeWhile isMargin).length (line.dropWhile isMargin)
        split
        · exact .next ((helements _).withMark hrow _ _ _)
        · split
          · exact .failed _ .nil
          case h_2 blocks closed _ =>
            have hrest := helements blocks
            exact .next ⟨hrest.state, List.rel_append (replicate_below
              (Mark.below hrow .dedent _ _) closed) hrest.marks⟩

/-- A line is scanned alike in any row. -/
theorem scanLine_below (hrow : 1 ≤ row) (h : state.Below other) (line : List Char) :
    (scanLine state row line).Below (scanLine other (row + 1) line) := by
  have hopen := h.openString
  unfold scanLine
  simp only [h.depth, h.joined]
  generalize state.openString = opened at hopen
  generalize other.openString = opened' at hopen
  cases hopen with
  | some hopened => exact .next (scanString_below hrow h line hopened)
  | none =>
    simp only
    split
    · exact scanStatement_below hrow h line
    · have hjoined : ScanState.Below ⟨other.depth, false, none, state.strict, state.blocks⟩
          ⟨other.depth, false, none, other.strict, other.blocks⟩ :=
        ⟨rfl, rfl, .none, h.strict, h.blocks⟩
      rw [h.blocks] at hjoined ⊢
      exact .next (scanElements_below hrow line.length hjoined 0 line)

/-- The marks behind the last line are found in any row, if the lines before are the same or a line
has ended there. -/
theorem closingMarks_below (hrow : 1 ≤ row) (h : state.Below other) {lastLine lastLine' : List Char}
    (hlast : lastLine = [] ∧ EndsLine lastLine' ∨ lastLine = lastLine' ∧ 2 ≤ row) :
    List.Forall₂ Mark.Below (closingMarks state row lastLine)
      (closingMarks other (row + 1) lastLine') := by
  unfold closingMarks
  simp only [h.blocks]
  refine List.rel_append (List.rel_append ?_ (replicate_below (Mark.below hrow .dedent 0 0) _))
    (.cons (Mark.below hrow .endMark 0 0) .nil)
  obtain ⟨rfl, rfl | hends⟩ | ⟨rfl, hrow'⟩ := hlast
  · exact .nil
  · rw [hends]
    exact .nil
  · -- The line end that is missing would stand in the row before.
    have hbefore : row + 1 - 1 = row - 1 + 1 := by omega
    have hpos : 1 ≤ row - 1 := by omega
    rw [hbefore]
    split
    · split
      · exact .cons (Mark.below hpos _ _ _) .nil
      · exact .nil
    · exact .nil

/-- Lines are scanned alike in any row. -/
theorem scanLines_below (hrow : 1 ≤ row) (h : state.Below other) {lastLine lastLine' : List Char}
    (hlast : lastLine = [] ∧ EndsLine lastLine' ∨ lastLine = lastLine' ∧ 2 ≤ row)
    (rows : List (List Char)) :
    (scanLines state row lastLine rows).Below (scanLines other (row + 1) lastLine' rows) := by
  induction rows generalizing state other row lastLine lastLine' with
  -- Behind the last line there are marks that are told by that line alone.
  | nil =>
    have hopen := h.openString
    unfold scanLines
    simp only [h.depth, h.joined]
    generalize state.openString = opened at hopen
    generalize other.openString = opened' at hopen
    cases hopen with
    | some => exact ⟨.nil, rfl⟩
    | none =>
      simp only [Option.isSome_none, Bool.false_eq_true, if_false]
      split
      · exact ⟨closingMarks_below hrow h hlast, rfl⟩
      · exact ⟨.nil, rfl⟩
  | cons line rows ih =>
    have hline := scanLine_below hrow h line
    unfold scanLines
    generalize scanLine state row line = result at hline
    generalize scanLine other (row + 1) line = result' at hline
    cases hline with
    | finished => exact ⟨closingMarks_below hrow h hlast, rfl⟩
    | failed fault hmarks => exact ⟨hmarks, rfl⟩
    | next hscan =>
      have hlast' : line = [] ∧ EndsLine line ∨ line = line ∧ 2 ≤ row + 1 := .inr ⟨rfl, by omega⟩
      have hrest := ih (Nat.le_add_left 1 row) hscan.state hlast'
      exact ⟨List.rel_append hscan.marks hrest.marks, hrest.fault⟩

end Scan

section Fill

variable {before : List Char}

/-- The offset of a place in the source, and of the one below it behind a line. -/
theorem Place.Below.offsetOf (after : List Char) (hline : lines before = [before])
    (hends : EndsLine before) {place other : Place} (h : place.Below other) :
    offsetOf (lineOffsets (before ++ after)) (before ++ after).length other =
      before.length + Source.offsetOf (lineOffsets after) after.length place := by
  obtain ⟨row, column⟩ := other
  obtain ⟨hpos, rfl, rfl⟩ := h
  rw [← offsetOf_append hends after hpos, hline]
  rfl

/-- A token that is cut off behind a line, and the remainder, are those that are cut off without the
line. -/
theorem cut_below (remainder : Remainder) (kind : Kind) (line stop size : Nat) :
    List.Forall₂ (Token.Resembles fun one other => other = one + 1)
        (remainder.cut kind line stop).1
        (Remainder.cut ⟨size + remainder.offset, remainder.text⟩ kind (line + 1) (size + stop)).1 ∧
      (Remainder.cut ⟨size + remainder.offset, remainder.text⟩ kind (line + 1) (size + stop)).2 =
        ⟨size + (remainder.cut kind line stop).2.offset,
          (remainder.cut kind line stop).2.text⟩ := by
  have hlength : size + stop - (size + remainder.offset) = stop - remainder.offset := by omega
  unfold Remainder.cut
  simp only [Nat.add_lt_add_iff_left, hlength]
  split
  · exact ⟨.cons ⟨rfl, rfl, Int.natCast_succ line⟩ .nil, rfl⟩
  · exact ⟨.nil, rfl⟩

/-- The tokens that marks make of a source are those that the marks below them make behind a
line. -/
theorem fill_below (after : List Char) (hline : lines before = [before]) (hends : EndsLine before)
    {marks others : List Mark} (h : List.Forall₂ Mark.Below marks others) (remainder : Remainder) :
    List.Forall₂ (Token.Resembles fun one other => other = one + 1)
        (fill (offsetOf (lineOffsets after) after.length) remainder marks).1
        (fill (offsetOf (lineOffsets (before ++ after)) (before ++ after).length)
          ⟨before.length + remainder.offset, remainder.text⟩ others).1 ∧
      (fill (offsetOf (lineOffsets (before ++ after)) (before ++ after).length)
          ⟨before.length + remainder.offset, remainder.text⟩ others).2 =
        ⟨before.length +
            (fill (offsetOf (lineOffsets after) after.length) remainder marks).2.offset,
          (fill (offsetOf (lineOffsets after) after.length) remainder marks).2.text⟩ := by
  induction h generalizing remainder with
  | nil => exact ⟨.nil, rfl⟩
  | @cons mark other marks others hmark _ ih =>
    rw [fill_cons, fill_cons]
    simp only
    rw [hmark.start.offsetOf after hline hends, hmark.stop.offsetOf after hline hends,
      hmark.start.row, ← hmark.kind]
    -- The text in front of the mark, then that of the mark, are cut off at places that are as far
    -- apart.
    obtain ⟨hgap, hbehind⟩ := cut_below remainder .whitespace mark.start.row
      (offsetOf (lineOffsets after) after.length mark.start) before.length
    rw [hbehind]
    obtain ⟨hbody, hrest⟩ := cut_below
      (remainder.cut .whitespace mark.start.row
        (offsetOf (lineOffsets after) after.length mark.start)).2 mark.kind mark.start.row
      (offsetOf (lineOffsets after) after.length mark.stop) before.length
    rw [hrest]
    obtain ⟨htokens, hremainder⟩ := ih _
    exact ⟨List.rel_append (List.rel_append hgap hbody) htokens, hremainder⟩

/-- A comment that may fill a line. -/
structure IsComment (comment : List Char) : Prop where
  /-- It begins as one. -/
  head : comment.head? = some '#'
  /-- It stands on one line. -/
  line : '\n' ∉ comment
  /-- It does not end as a line may. -/
  last : comment.getLast? ≠ some '\r'

end Fill

section Comment

variable {comment : List Char}

/-- A line that holds only a comment is one line. -/
theorem IsComment.lines (h : IsComment comment) :
    lines (comment ++ ['\n']) = [comment ++ ['\n']] :=
  lines_line h.line

/-- The line end is no part of a comment. -/
theorem IsComment.dropTrailing (h : IsComment comment) :
    Text.dropTrailing (fun c => c = '\r' || c = '\n') (comment ++ ['\n']) = comment := by
  refine Text.dropTrailing_append_of_last (by simp) fun c hc => ?_
  have hr : c ≠ '\r' := fun heq => h.last (heq ▸ hc)
  have hn : c ≠ '\n' := fun heq => h.line (heq ▸ List.mem_of_getLast? hc)
  simp [hr, hn]

/-- A line that holds only a comment has two marks, and the scan goes on as before. -/
theorem IsComment.scanLine (h : IsComment comment) (row : Nat) :
    scanLine .start row (comment ++ ['\n']) =
      .next (.start, [⟨.comment, ⟨row, 0⟩, ⟨row, comment.length⟩⟩,
        ⟨.lineBreak, ⟨row, comment.length⟩, ⟨row, comment.length + 1⟩⟩]) := by
  have hdrop := h.dropTrailing
  obtain ⟨cs, rfl⟩ := List.head?_eq_some_iff.1 h.head
  have hstart : ScanState.start.openString = none ∧ ScanState.start.depth = 0 ∧
      ScanState.start.joined = false := ⟨rfl, rfl, rfl⟩
  have hmargin : isMargin '#' = false := rfl
  rw [List.cons_append] at hdrop ⊢
  simp only [Source.scanLine, hstart, scanStatement, List.takeWhile_cons, List.dropWhile_cons,
    hmargin]
  simp [hdrop]

/-- A character behind a line stands one row further down. -/
theorem lineAfter_below {line : List Char} (h : '\n' ∉ line) (after : List Char) (n : Nat) :
    lineAfter ((line ++ ['\n'] ++ after).take ((line ++ ['\n']).length + n)) =
      lineAfter (after.take n) + 1 := by
  have hcount : (line ++ ['\n']).count '\n' = 1 := by
    rw [List.count_append, List.count_eq_zero.2 h, List.count_singleton_self]
  rw [lineAfter, lineAfter, List.take_length_add_append, List.count_append, hcount]
  omega

/-- The marks of a line that holds only a comment make two tokens. -/
theorem IsComment.fill (h : IsComment comment) (after : List Char) (marks : List Mark) :
    let source := comment ++ ['\n'] ++ after
    fill (offsetOf (lineOffsets source) source.length) ⟨0, source⟩
        (⟨.comment, ⟨1, 0⟩, ⟨1, comment.length⟩⟩ ::
          ⟨.lineBreak, ⟨1, comment.length⟩, ⟨1, comment.length + 1⟩⟩ :: marks) =
      (⟨.comment, String.ofList comment, 1⟩ :: ⟨.lineBreak, "\n", 1⟩ ::
          (Source.fill (offsetOf (lineOffsets source) source.length)
            ⟨comment.length + 1, after⟩ marks).1,
        (Source.fill (offsetOf (lineOffsets source) source.length)
          ⟨comment.length + 1, after⟩ marks).2) := by
  intro source
  have hlength : source.length = comment.length + 1 + after.length := by
    simp only [source, List.length_append, List.length_singleton]
  -- The comment is the first line, where columns are offsets.
  have hoffset : ∀ column ≤ comment.length + 1,
      offsetOf (lineOffsets source) source.length ⟨1, column⟩ = column := by
    intro column hcolumn
    rw [offsetOf_eq]
    show min (0 + column) source.length = column
    omega
  have hpos : 0 < comment.length := by
    obtain ⟨cs, rfl⟩ := List.head?_eq_some_iff.1 h.head
    exact Nat.succ_pos _
  have hcomment : source.take comment.length = comment := by
    simp only [source, List.append_assoc, List.take_left']
  have hbehind : source.drop comment.length = '\n' :: after := by
    simp only [source, List.append_assoc, List.drop_left', List.singleton_append]
  have hone : comment.length + 1 - comment.length = 1 := by omega
  simp only [fill_cons, hoffset 0 (by omega), hoffset comment.length (by omega),
    hoffset (comment.length + 1) (Nat.le_refl _), Remainder.cut, Nat.lt_irrefl, if_false, hpos,
    if_true, Nat.sub_zero, hcomment, hbehind, Nat.lt_succ_self, hone]
  rfl

/-- The tokens of a source with a line in front of it that holds only a comment: the comment, its
line end, and the tokens of the source, one row further down. -/
theorem tokens_commentLine (h : IsComment comment) (text : String) :
    ∃ rest, (tokenize (String.ofList (comment ++ ['\n']) ++ text)).tokens =
        ⟨.comment, String.ofList comment, 1⟩ :: ⟨.lineBreak, "\n", 1⟩ :: rest ∧
      List.Forall₂ (Token.Resembles fun one other => other = one + 1) (tokenize text).tokens
        rest := by
  have hsource : (String.ofList (comment ++ ['\n']) ++ text).toList =
      comment ++ ['\n'] ++ text.toList := by
    rw [String.toList_append, String.toList_ofList]
  have hstart : ScanState.Below .start .start := ⟨rfl, rfl, .none, rfl, rfl⟩
  have hends := endsLine_concat comment
  -- Behind the comment the scan is in its first state again, one row below.
  have hbelow := scanLines_below (Nat.le_refl 1) hstart (.inl ⟨rfl, hends⟩) (lines text.toList)
  have hscan : scan (comment ++ ['\n'] ++ text.toList) =
      let rest := scanLines .start 2 (comment ++ ['\n']) (lines text.toList)
      ⟨⟨.comment, ⟨1, 0⟩, ⟨1, comment.length⟩⟩ ::
        ⟨.lineBreak, ⟨1, comment.length⟩, ⟨1, comment.length + 1⟩⟩ :: rest.marks, rest.fault⟩ := by
    rw [scan, lines_append hends, h.lines, List.singleton_append, scanLines, h.scanLine]
    rfl
  rw [tokenize, tokenize, hsource, hscan]
  simp only [ofMarks, Tokenized.tokens, h.fill]
  generalize scanLines .start 2 (comment ++ ['\n']) (lines text.toList) = scan' at hbelow
  rw [show scan text.toList = scanLines .start 1 [] (lines text.toList) from rfl]
  generalize scanLines .start 1 [] (lines text.toList) = scan at hbelow
  obtain ⟨htokens, hrest⟩ := fill_below text.toList h.lines hends hbelow.marks ⟨0, text.toList⟩
  have hlength : (comment ++ ['\n']).length + 0 = comment.length + 1 := by simp
  rw [hlength] at htokens hrest
  refine ⟨_, rfl, List.rel_append htokens ?_⟩
  rw [hrest]
  simp only [lineAfter_below h.line, hbelow.fault]
  split
  · exact .nil
  · exact .cons ⟨rfl, rfl, Int.natCast_succ _⟩ .nil

end Comment

end Hashmark.Source
