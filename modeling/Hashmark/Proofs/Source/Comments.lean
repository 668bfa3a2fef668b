import Hashmark.Proofs.Source.Numbering

/-!
# Comments are on one line

The scan finds a comment within a line and ends it in front of the line end, whatever the state in
which it comes to the line (`inline_scanLine`). So the token made of the mark has no line feed
(`notMem_of_comment`), in any source.
-/

namespace Hashmark.Source

/-- A mark on the row of a line that covers no line feed of it. -/
structure Mark.Inline (row : Nat) (line : List Char) (mark : Mark) : Prop where
  /-- It begins on the row. -/
  start : mark.start.row = row
  /-- It ends on the row. -/
  stop : mark.stop.row = row
  /-- It does not go back. -/
  le : mark.start.column ≤ mark.stop.column
  /-- It is within the line. -/
  within : mark.stop.column ≤ line.length
  /-- The line end is behind it. -/
  text : '\n' ∉ (line.take mark.stop.column).drop mark.start.column

/-- The comments among marks are on the row of a line and cover no line feed of it. -/
def InlineComments (row : Nat) (line : List Char) (marks : List Mark) : Prop :=
  ∀ mark ∈ marks, mark.kind = .comment → mark.Inline row line

section Line

variable {row : Nat} {line : List Char}

/-- Nothing is marked. -/
theorem InlineComments.nil : InlineComments row line [] :=
  List.forall_mem_nil _

/-- A further mark that is no comment. -/
theorem InlineComments.cons {mark : Mark} (hkind : mark.kind ≠ .comment) {marks : List Mark}
    (h : InlineComments row line marks) : InlineComments row line (mark :: marks) :=
  List.forall_mem_cons.2 ⟨fun hcomment => absurd hcomment hkind, h⟩

/-- A further mark of a line that is no comment. -/
theorem InlineComments.withMark {scan : LineScan} (h : InlineComments row line scan.2) {kind : Kind}
    (hkind : kind ≠ .comment) (row' first last : Nat) :
    InlineComments row line (scan.withMark kind row' first last).2 :=
  h.cons hkind

/-- The comments among the elements of a line, from a column on, are on the line. -/
theorem inline_scanElements (fuel : Nat) (state : ScanState) (column : Nat) :
    InlineComments row line (scanElements row fuel state column (line.drop column)).2 := by
  induction fuel generalizing state column with
  | zero => exact .nil
  | succ fuel ih =>
    have hsplit := List.takeWhile_append_dropWhile (p := isMargin) (l := line.drop column)
    -- Wherever the scan goes on, it goes on within the line.
    have hstray : InlineComments row line
        (scanElements row fuel state (column + 1) ((line.drop column).drop 1)).2 := by
      rw [List.drop_drop]
      exact ih state (column + 1)
    unfold scanElements
    simp only
    generalize (line.drop column).takeWhile isMargin = blanks at hsplit ⊢
    generalize (line.drop column).dropWhile isMargin = body at hsplit ⊢
    have hbody : body = line.drop (column + blanks.length) := by
      rw [← List.drop_drop, ← hsplit, List.drop_left]
    have hbehind : ∀ (state : ScanState) (n : Nat), InlineComments row line
        (scanElements row fuel state (column + blanks.length + n) (body.drop n)).2 := by
      intro state n
      rw [hbody, List.drop_drop]
      exact ih state _
    split
    · exact .nil
    split
    · exact hstray.withMark Kind.noConfusion _ _ _
    case h_2 initial cs _ lexeme length hlexeme =>
      cases lexeme with
      | join => exact hbehind _ _
      | comment =>
        refine List.forall_mem_cons.2 ⟨fun _ => ?_, hbehind state length⟩
        -- A comment reaches up to the line end, or up to the end of a line without one.
        have hlength := lexeme?_comment (form_of_lexeme? hlexeme)
        rw [hlexeme, Option.some.injEq, Prod.mk.injEq] at hlength
        obtain ⟨-, rfl⟩ := hlength
        obtain ⟨hpos, hle⟩ := lexeme?_le hlexeme
        rw [hbody] at hpos hle ⊢
        rw [List.length_drop] at hle
        generalize hstart : column + blanks.length = start at hpos hle ⊢
        have htake := List.prefix_iff_eq_take.1
          (List.takeWhile_prefix (fun c => c != '\r' && c != '\n') (l := line.drop start))
        have hnone : '\n' ∉ (line.drop start).takeWhile fun c => c != '\r' && c != '\n' :=
          fun hmem => by simpa using List.mem_takeWhile_imp hmem
        refine ⟨rfl, rfl, Nat.le_add_right _ _, by show start + _ ≤ _; omega, ?_⟩
        show '\n' ∉ (line.take (start + _)).drop start
        rwa [List.drop_take, Nat.add_sub_cancel_left, ← htake]
      | tripleQuote quote =>
        dsimp only
        split
        case h_1 more hmore =>
          have hrest := hbehind state (length + more)
          rw [← List.drop_drop, ← Nat.add_assoc] at hrest
          exact hrest.withMark Kind.noConfusion _ _ _
        case h_2 => exact .nil
      | brokenString quote => exact .nil
      | word =>
        refine (hbehind _ _).withMark ?_ _ _ _
        split <;> exact Kind.noConfusion
      | lineEnd =>
        refine (hbehind _ _).withMark ?_ _ _ _
        split <;> exact Kind.noConfusion
      | number => exact (hbehind _ _).withMark Kind.noConfusion _ _ _
      | string => exact (hbehind _ _).withMark Kind.noConfusion _ _ _
      | operator => exact (hbehind _ _).withMark Kind.noConfusion _ _ _

/-- The comments behind a string that a line closes are on the line. -/
theorem inline_scanString (state : ScanState) (opened : OpenString) :
    InlineComments row line (scanString state row line opened).2 := by
  unfold scanString
  split
  · exact (inline_scanElements _ _ _).cons Kind.noConfusion
  · split
    · exact InlineComments.nil.cons Kind.noConfusion
    · exact .nil

variable (hline : ∀ column < line.length, '\n' ∉ line.take column)
include hline

/-- The comments of a line that begins a statement are on the line. -/
theorem inline_scanStatement {state : ScanState} {scan : LineScan}
    (h : scanStatement state row line = .next scan) : InlineComments row line scan.2 := by
  have hsplit := List.takeWhile_append_dropWhile (p := isMargin) (l := line)
  unfold scanStatement at h
  simp only at h
  generalize line.takeWhile isMargin = blanks at hsplit h
  generalize line.dropWhile isMargin = body at hsplit h
  have hbody : body = line.drop blanks.length := by rw [← hsplit, List.drop_left]
  have helements : ∀ state : ScanState, InlineComments row line
      (scanElements row line.length state blanks.length body).2 := by
    intro state
    rw [hbody]
    exact inline_scanElements _ state _
  split at h
  · cases h
  case h_2 c cs =>
    split at h
    case isTrue =>
      cases h
      -- A comment by itself reaches up to the line end.
      refine List.forall_mem_cons.2 ⟨fun _ => ?_, InlineComments.nil.cons Kind.noConfusion⟩
      obtain ⟨ending, hcomment, -⟩ :=
        Text.dropTrailing_append (fun c => c = '\r' || c = '\n') (c :: cs)
      have hlast := Text.getLast?_dropTrailing (fun c => c = '\r' || c = '\n') (c :: cs)
      generalize Text.dropTrailing (fun c => c = '\r' || c = '\n') (c :: cs) = comment
        at hcomment hlast ⊢
      have htake : ∀ front rest, comment = front ++ rest →
          line.take (blanks.length + front.length) = blanks ++ front := by
        rintro front rest rfl
        rw [← hsplit, hcomment, List.take_length_add_append, List.append_assoc, List.take_left]
      have hlength : line.length = blanks.length + comment.length + ending.length := by
        rw [← hsplit, hcomment, List.length_append, List.length_append, Nat.add_assoc]
      refine ⟨rfl, rfl, Nat.le_add_right _ _, by show blanks.length + _ ≤ _; omega, ?_⟩
      show '\n' ∉ (line.take (blanks.length + comment.length)).drop blanks.length
      rw [htake comment [] (List.append_nil _).symm, List.drop_left]
      obtain rfl | ⟨front, d, rfl⟩ := List.eq_nil_or_concat' comment
      · exact List.not_mem_nil
      -- The last character is no line end, and those before it are not the last of the line.
      have hd : ¬d = '\r' ∧ ¬d = '\n' := by simpa using hlast d List.getLast?_concat
      have hfront := hline (blanks.length + front.length) (by simp at hlength; omega)
      rw [htake front [d] rfl] at hfront
      simpa [Ne.symm hd.2] using fun hmem => hfront (List.mem_append_right _ hmem)
    split at h
    · cases h
      exact InlineComments.nil.cons Kind.noConfusion
    split at h
    · cases h
      exact (helements _).withMark Kind.noConfusion _ _ _
    split at h
    · cases h
    case h_2 blocks closed hclose =>
      cases h
      refine List.forall_mem_append.2 ⟨fun mark hmark hcomment => ?_, helements _⟩
      rw [List.eq_of_mem_replicate hmark] at hcomment
      cases hcomment

/-- The comments of a line are on the line. -/
theorem inline_scanLine {state : ScanState} {scan : LineScan}
    (h : scanLine state row line = .next scan) : InlineComments row line scan.2 := by
  unfold scanLine at h
  split at h
  · cases h
    exact inline_scanString state _
  · split at h
    · exact inline_scanStatement hline h
    · cases h
      exact inline_scanElements _ _ 0

end Line

section Scan

variable {source : List Char} {done rest : List (List Char)}

/-- In front of a character of a line there is no line feed on the line. -/
theorem notMem_take_line {line : List Char} (h : lines source = done ++ line :: rest) :
    ∀ column < line.length, '\n' ∉ line.take column := by
  intro column hcolumn hmem
  have hbefore := count_newlines h (Nat.zero_lt_of_lt hcolumn)
  have hcount := count_newlines h hcolumn
  rw [List.take_zero, List.append_nil] at hbefore
  rw [List.count_append, hbefore] at hcount
  have hpos := List.count_pos_iff.2 hmem
  omega

/-- A line at which a scan fails has no marks. -/
theorem eq_nil_of_failed {state : ScanState} {row : Nat} {line : List Char} {marks : List Mark}
    {fault : ScanFault} (h : scanLine state row line = .failed marks fault) : marks = [] := by
  unfold scanLine at h
  split at h
  · cases h
  · split at h
    · unfold scanStatement at h
      simp only at h
      repeat' split at h
      all_goals cases h
      rfl
    · cases h

/-- A mark on a line covers in the source what it covers on the line. -/
theorem Mark.Inline.drop_take {line : List Char} (h : lines source = done ++ line :: rest)
    {mark : Mark} (hmark : mark.Inline (done.length + 1) line) :
    (source.take (offsetOf (lineOffsets source) source.length mark.stop)).drop
        (offsetOf (lineOffsets source) source.length mark.start) =
      (line.take mark.stop.column).drop mark.start.column := by
  obtain ⟨kind, ⟨row, first⟩, ⟨row', last⟩⟩ := mark
  obtain ⟨hrow, hrow', hle, hwithin, -⟩ := hmark
  simp only at hrow hrow' hle hwithin ⊢
  subst hrow hrow'
  have hsource := flatten_lines source
  rw [h, List.flatten_append, List.flatten_cons] at hsource
  rw [isOffset_offsetOf source done line rest h first (hle.trans hwithin),
    isOffset_offsetOf source done line rest h last hwithin]
  nth_rewrite 1 [← hsource]
  rw [List.take_length_add_append, List.drop_length_add_append,
    List.take_append_of_le_length hwithin]

/-- No comment mark of a source covers a line feed. -/
theorem notMem_scanLines (h : lines source = done ++ rest) (state : ScanState)
    (lastLine : List Char) :
    ∀ mark ∈ (scanLines state (done.length + 1) lastLine rest).marks, mark.kind = .comment →
      '\n' ∉ (source.take (offsetOf (lineOffsets source) source.length mark.stop)).drop
        (offsetOf (lineOffsets source) source.length mark.start) := by
  induction rest generalizing done state lastLine with
  | nil =>
    intro mark hmark hcomment
    unfold scanLines at hmark
    split at hmark
    · cases hmark
    split at hmark
    · exact absurd hcomment (kind_of_mem_closingMarks hmark)
    · cases hmark
  | cons line rest ih =>
    intro mark hmark hcomment
    unfold scanLines at hmark
    split at hmark
    · exact absurd hcomment (kind_of_mem_closingMarks hmark)
    case h_2 marks fault hscan =>
      rw [eq_nil_of_failed hscan] at hmark
      cases hmark
    -- A comment is on the line that is scanned, or on one of those behind it.
    case h_3 state' marks hscan =>
      obtain hmark | hmark := List.mem_append.1 hmark
      · have hinline := inline_scanLine (notMem_take_line h) hscan mark hmark hcomment
        rw [hinline.drop_take h]
        exact hinline.text
      · have hnext : lines source = (done ++ [line]) ++ rest := List.append_cons .. ▸ h
        have hlength : (done ++ [line]).length = done.length + 1 := List.length_append
        rw [← hlength] at hmark
        exact ih hnext state' line mark hmark hcomment

end Scan

/-- No comment of a source has a line feed. -/
theorem notMem_of_comment {source : String} {token : Token}
    (htoken : token ∈ (tokenize source).tokens) (hcomment : token.kind = .comment) :
    '\n' ∉ token.text.toList := by
  have hwhole : (Remainder.mk 0 source.toList).IsOf source.toList := rfl
  have hmarks := notMem_scanLines (List.nil_append (lines source.toList)).symm .start []
  obtain hmem | hmem := List.mem_append.1 htoken
  · refine forall_mem_fill (P := fun token => token.kind = .comment → '\n' ∉ token.text.toList)
      hwhole ?_ ?_ token hmem hcomment
    · intro mark _ rest _ token hmem hcomment
      rw [kind_of_mem_cut hmem] at hcomment
      cases hcomment
    · intro mark hmark rest hrest hstart token hmem hcomment
      exact notMem_cut hrest hstart
        (hmarks mark hmark ((kind_of_mem_cut hmem).symm.trans hcomment)) _ _ hmem
  · rw [(mem_rest hmem).1] at hcomment
    split at hcomment <;> cases hcomment

end Hashmark.Source
