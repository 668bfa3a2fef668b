import Hashmark.Proofs.Source.Items

/-!
# The lines of tokens

The scan knows the row on which each of its marks begins, and the token made of a mark takes the row
over and begins where the mark does; text between two marks carries the row of the mark behind it,
which is the line on which the gap ends (`numbered_fill`). This rests on the order of the marks: each
begins where those before it have come to or behind it (`inPlace_scanLines`). A row is a number of
line ends because every line but the last has exactly one, at its end (`count_newlines`).

So a gap that a backslash carries over several lines has the number of its last line, all other
tokens that of their first (`line_of_token`). Only behind a last line without a line end the scan may
count one row too many, and a gap that ends there with it.
-/

namespace Hashmark.Source

/-- The text of a token if it is a gap between two marks. -/
def Token.gap (token : Token) : List Char :=
  if token.kind = .whitespace then token.text.toList else []

/-- These tokens carry rows that agree with the text in front of the place where they begin, and
gaps rows that agree with the place where they end, `before` being in front of the tokens. -/
def Numbered (isLine : List Char → Nat → Prop) : List Char → List Token → Prop
  | _, [] => True
  | before, token :: tokens =>
    isLine (before ++ token.gap) token.line ∧ Numbered isLine (before ++ token.text.toList) tokens

/-- A mark that begins at the offset `start` or behind it, on a row that agrees with the text in
front of it. -/
structure Mark.Stands (source : List Char) (offset : Place → Nat) (isLine : List Char → Nat → Prop)
    (start : Nat) (mark : Mark) : Prop where
  /-- It is the mark of an element. -/
  kind : mark.kind ≠ .whitespace
  /-- It begins where the marks before it have come to. -/
  first : start ≤ offset mark.start
  /-- It does not go back. -/
  last : offset mark.start ≤ offset mark.stop
  /-- It begins on its row. -/
  row : isLine (source.take (offset mark.start)) mark.start.row

/-- These marks stand one behind the other from the offset `start` on. -/
def InPlace (source : List Char) (offset : Place → Nat) (isLine : List Char → Nat → Prop) :
    Nat → List Mark → Prop
  | _, [] => True
  | start, mark :: marks =>
    mark.Stands source offset isLine start ∧ InPlace source offset isLine (offset mark.stop) marks

section Numbered

variable {isLine : List Char → Nat → Prop}

/-- Tokens behind others. -/
theorem numbered_append {before : List Char} {tokens others : List Token} :
    Numbered isLine before (tokens ++ others) ↔
      Numbered isLine before tokens ∧ Numbered isLine (before ++ concatText tokens) others := by
  induction tokens generalizing before with
  | nil => simp [Numbered, concatText]
  | cons token tokens ih =>
    have htext : concatText (token :: tokens) = token.text.toList ++ concatText tokens := rfl
    rw [List.cons_append, Numbered, Numbered, ih, htext, List.append_assoc, and_assoc]

/-- Each token carries a row that agrees with the place where it begins, or, if it is a gap, ends. -/
theorem Numbered.line {before : List Char} {tokens front after : List Token} {token : Token}
    (h : Numbered isLine before tokens) (htokens : tokens = front ++ token :: after) :
    isLine (before ++ concatText front ++ token.gap) token.line := by
  subst htokens
  exact (numbered_append.1 h).2.1

variable {source : List Char} {offset : Place → Nat} {remainder : Remainder}

/-- Marks that stand from an offset on stand from an earlier one on. -/
theorem InPlace.mono {start earlier : Nat} {marks : List Mark}
    (h : InPlace source offset isLine start marks) (hle : earlier ≤ start) :
    InPlace source offset isLine earlier marks := by
  cases marks with
  | nil => trivial
  | cons mark marks =>
    obtain ⟨hmark, hmarks⟩ := h
    exact ⟨{ hmark with first := Nat.le_trans hle hmark.first }, hmarks⟩

/-- In front of what is left behind a cut stand what was in front of the remainder and what is cut
off. -/
theorem take_offset_cut (hof : remainder.IsOf source) (kind : Kind) (line stop : Nat) :
    source.take (remainder.cut kind line stop).2.offset =
      source.take remainder.offset ++ concatText (remainder.cut kind line stop).1 := by
  have htext := concatText_cut remainder kind line stop
  rw [hof.cut kind line stop, hof] at htext
  refine (List.append_left_inj (source.drop (remainder.cut kind line stop).2.offset)).1 ?_
  rw [List.append_assoc, htext, List.take_append_drop, List.take_append_drop]

/-- A gap that is cut off carries the row of the place where it ends. -/
theorem numbered_cut_gap (hof : remainder.IsOf source) {place : Place}
    (hrow : isLine (source.take (offset place)) place.row) :
    Numbered isLine (source.take remainder.offset)
      (remainder.cut .whitespace place.row (offset place)).1 := by
  have htake := take_offset_cut hof .whitespace place.row (offset place)
  unfold Remainder.cut at htake ⊢
  split
  case isTrue hlt =>
    rw [if_pos hlt] at htake
    refine ⟨?_, trivial⟩
    simp only [concatText, List.flatMap_cons, List.flatMap_nil, List.append_nil] at htake
    rw [Token.gap, if_pos rfl, ← htake]
    exact hrow
  case isFalse => trivial

/-- What is cut off for a mark carries the row of the place where it begins. -/
theorem numbered_cut_mark {kind : Kind} (hkind : kind ≠ .whitespace) {row stop : Nat}
    (hrow : isLine (source.take remainder.offset) row) :
    Numbered isLine (source.take remainder.offset) (remainder.cut kind row stop).1 := by
  unfold Remainder.cut
  split
  · refine ⟨?_, trivial⟩
    rw [Token.gap, if_neg hkind, List.append_nil]
    exact hrow
  · trivial

/-- The tokens of marks that stand one behind the other carry the rows of the marks. -/
theorem numbered_fill {marks : List Mark} (hof : remainder.IsOf source)
    (h : InPlace source offset isLine remainder.offset marks) :
    Numbered isLine (source.take remainder.offset) (fill offset remainder marks).1 := by
  induction marks generalizing remainder with
  | nil => trivial
  | cons mark marks ih =>
    obtain ⟨hmark, hmarks⟩ := h
    -- A mark is filled by two cuts: the gap in front of it, and its text.
    have hgap := numbered_cut_gap hof hmark.row
    have htake := take_offset_cut hof .whitespace mark.start.row (offset mark.start)
    have hoffset := offset_cut remainder .whitespace mark.start.row (offset mark.start)
    have hbehind := hof.cut .whitespace mark.start.row (offset mark.start)
    rw [fill_cons]
    simp only
    generalize remainder.cut .whitespace mark.start.row (offset mark.start) = cut
      at hgap htake hoffset hbehind ⊢
    obtain ⟨gap, behind⟩ := cut
    dsimp only at hgap htake hoffset hbehind ⊢
    rw [Nat.max_eq_right hmark.first] at hoffset
    have hbody : Numbered isLine (source.take behind.offset)
        (behind.cut mark.kind mark.start.row (offset mark.stop)).1 :=
      numbered_cut_mark hmark.kind (hoffset ▸ hmark.row)
    have htake' := take_offset_cut hbehind mark.kind mark.start.row (offset mark.stop)
    have hoffset' := offset_cut behind mark.kind mark.start.row (offset mark.stop)
    have hrest := hbehind.cut mark.kind mark.start.row (offset mark.stop)
    generalize behind.cut mark.kind mark.start.row (offset mark.stop) = cut
      at hbody htake' hoffset' hrest ⊢
    obtain ⟨body, rest⟩ := cut
    dsimp only at hbody htake' hoffset' hrest ⊢
    rw [hoffset, Nat.max_eq_right hmark.last] at hoffset'
    rw [← hoffset'] at hmarks
    rw [numbered_append, numbered_append, concatText_append, ← List.append_assoc, ← htake, ← htake']
    exact ⟨⟨hgap, hbody⟩, ih hrest hmarks⟩

end Numbered

section Rows

/-- In front of a character of a line there are as many line ends as lines. -/
theorem count_newlines {source : List Char} {done rest : List (List Char)} {line : List Char}
    (h : lines source = done ++ line :: rest) {column : Nat} (hcolumn : column < line.length) :
    (done.flatten ++ line.take column).count '\n' = done.length := by
  induction source generalizing done line column with
  | nil => simp [lines] at h
  | cons c cs ih =>
    rw [lines] at h
    split at h
    -- The first line ends with this character, or it is followed by the lines of the rest.
    case isTrue hc =>
      cases done with
      | nil =>
        obtain ⟨rfl, -⟩ := List.cons.inj h
        obtain rfl : column = 0 := by simpa using hcolumn
        rfl
      | cons first done =>
        obtain ⟨rfl, hrest⟩ := List.cons.inj h
        have hcount := ih hrest hcolumn
        rw [List.flatten_cons, List.append_assoc, List.singleton_append, List.count_cons, hcount,
          List.length_cons, hc]
        simp
    -- The character belongs to the first of the lines of the rest, and is no line end.
    case isFalse hc =>
      have hskip : ∀ text : List Char, (c :: text).count '\n' = text.count '\n' :=
        fun text => List.count_cons_of_ne hc
      cases hlines : lines cs with
      | nil =>
        rw [hlines] at h
        cases done with
        | nil =>
          obtain ⟨rfl, -⟩ := List.cons.inj h
          obtain rfl : column = 0 := by simpa using hcolumn
          rfl
        | cons first done => simp at h
      | cons next more =>
        rw [hlines] at h
        cases done with
        | nil =>
          -- The line is the first one, and the character before it is one of its own.
          obtain ⟨rfl, rfl⟩ := List.cons.inj h
          cases column with
          | zero => rfl
          | succ column =>
            have hfirst : lines cs = [] ++ next :: more := hlines
            have hcount := ih hfirst (Nat.lt_of_succ_lt_succ hcolumn)
            rw [List.take_succ_cons, List.flatten_nil, List.nil_append, hskip]
            exact hcount
        | cons first done =>
          obtain ⟨rfl, rfl⟩ := List.cons.inj h
          have hmore : lines cs = (next :: done) ++ _ :: _ := hlines
          have hcount := ih hmore hcolumn
          rw [List.flatten_cons, List.cons_append, List.cons_append, hskip]
          exact hcount

/-- No line is empty. -/
theorem ne_nil_of_mem_lines {source line : List Char} (h : line ∈ lines source) : line ≠ [] := by
  induction source generalizing line with
  | nil => cases h
  | cons c cs ih =>
    rw [lines] at h
    split at h
    · obtain rfl | h := List.mem_cons.1 h
      · exact List.cons_ne_nil _ _
      · exact ih h
    · cases hlines : lines cs with
      | nil =>
        rw [hlines] at h
        exact List.mem_singleton.1 h ▸ List.cons_ne_nil _ _
      | cons first rest =>
        rw [hlines] at h
        obtain rfl | h := List.mem_cons.1 h
        · exact List.cons_ne_nil _ _
        · exact ih (hlines ▸ List.mem_cons_of_mem _ h)

/-- The end of a line that no line end ends is still on it. -/
theorem count_newlines_last {source : List Char} {done rest : List (List Char)} {line : List Char}
    (h : lines source = done ++ line :: rest) (hlast : line.getLast? ≠ some '\n') :
    (done.flatten ++ line).count '\n' = done.length := by
  obtain rfl | ⟨front, c, rfl⟩ := List.eq_nil_or_concat' line
  · exact absurd rfl (ne_nil_of_mem_lines (h ▸ List.mem_append_right _ List.mem_cons_self))
  · have hcolumn : front.length < (front ++ [c]).length := by
      rw [List.length_append, List.length_singleton]
      exact Nat.lt_succ_self _
    have hcount := count_newlines h hcolumn
    rw [List.take_left] at hcount
    rw [List.getLast?_concat] at hlast
    have hc : c ≠ '\n' := fun hc => hlast (congrArg some hc)
    have hnone : [c].count '\n' = 0 := List.count_eq_zero.2 (by simpa using hc.symm)
    rw [← List.append_assoc, List.count_append, hcount, hnone, Nat.add_zero]

/-- A line in front of another one ends in a line end. -/
theorem getLast?_of_next {source : List Char} {done rest : List (List Char)}
    {line next : List Char} (h : lines source = done ++ line :: next :: rest) :
    line.getLast? = some '\n' := by
  by_contra hlast
  have hcount := count_newlines_last h hlast
  have hnext : lines source = (done ++ [line]) ++ next :: rest := by
    rw [h, List.append_assoc, List.singleton_append]
  have hne : next ≠ [] := ne_nil_of_mem_lines (hnext ▸ List.mem_append_right _ List.mem_cons_self)
  have hmore := count_newlines hnext (List.length_pos_of_ne_nil hne)
  rw [List.take_zero, List.append_nil, List.flatten_append, List.flatten_singleton, hcount,
    List.length_append, List.length_singleton] at hmore
  omega

/-- The lines in front of a place are the text in front of it. -/
theorem take_flatten {source : List Char} {done rest : List (List Char)}
    (h : lines source = done ++ rest) : source.take done.flatten.length = done.flatten := by
  have hsource := flatten_lines source
  rw [h, List.flatten_append] at hsource
  rw [← hsource, List.take_left]

/-- A row that is the line behind a text. At the end of a source whose last line has no line end it
may be the line behind that one, since a scan counts one row more there. -/
def IsRow (source before : List Char) (row : Nat) : Prop :=
  row = lineAfter before ∨
    before = source ∧ source.getLast? ≠ some '\n' ∧ row = lineAfter source + 1

/-- Behind lines of a source there is a row one further down. -/
theorem isRow_behind {source : List Char} {done rest : List (List Char)}
    (h : lines source = done ++ rest) : IsRow source done.flatten (done.length + 1) := by
  cases rest with
  | cons line rest =>
    have hne := ne_nil_of_mem_lines (h ▸ List.mem_append_right _ List.mem_cons_self)
    have hcount := count_newlines h (List.length_pos_of_ne_nil hne)
    rw [List.take_zero, List.append_nil] at hcount
    left
    rw [lineAfter, hcount, Nat.add_comm]
  | nil =>
    obtain rfl | ⟨front, last, rfl⟩ := List.eq_nil_or_concat' done
    · exact .inl rfl
    have hsource : (front ++ [last]).flatten = source := by
      rw [← flatten_lines source, h, List.append_nil]
    rw [List.append_nil] at h
    -- Behind a line feed there is another row; without one, the last row goes on.
    by_cases hlast : last.getLast? = some '\n'
    · obtain ⟨line, rfl⟩ := List.getLast?_eq_some_iff.1 hlast
      have hcolumn : line.length < (line ++ ['\n']).length := by
        rw [List.length_append, List.length_singleton]
        exact Nat.lt_succ_self _
      have hcount := count_newlines h hcolumn
      rw [List.take_left] at hcount
      left
      rw [lineAfter, List.flatten_append, List.flatten_singleton, ← List.append_assoc,
        List.count_append, hcount, List.length_append]
      simp only [List.length_singleton, List.count_singleton_self]
      omega
    · have hcount := count_newlines_last h hlast
      have hne := ne_nil_of_mem_lines (h ▸ List.mem_append_right _ (List.mem_singleton_self last))
      right
      refine ⟨hsource, ?_, ?_⟩
      · rw [← hsource, List.flatten_append, List.flatten_singleton,
          List.getLast?_append_of_ne_nil _ hne]
        exact hlast
      rw [lineAfter, ← hsource, List.flatten_append, List.flatten_singleton, hcount,
        List.length_append, List.length_singleton, Nat.add_comm 1]

end Rows

/-- Where the marks behind a line begin at the earliest: at the place where a string is open, or at
the end of the line. -/
def ScanState.frontier (offset : Place → Nat) (behind : Nat) (state : ScanState) : Nat :=
  match state.openString with
  | some string => offset string.start
  | none => behind

/-- Where a string is open, marks go on where it begins. -/
theorem ScanState.frontier_of_open {offset : Place → Nat} {state : ScanState} {string : OpenString}
    (h : state.openString = some string) (behind : Nat) :
    state.frontier offset behind = offset string.start := by
  unfold frontier
  rw [h]

/-- If no string is open, marks go on at the end of the line. -/
theorem ScanState.frontier_of_closed {offset : Place → Nat} {state : ScanState}
    (h : state.openString = none) (behind : Nat) : state.frontier offset behind = behind := by
  unfold frontier
  rw [h]

/-- Marks go on at the end of the line at the latest. -/
theorem ScanState.frontier_le {offset : Place → Nat} {state : ScanState} {behind : Nat}
    (h : state.Began fun place => offset place ≤ behind) :
    state.frontier offset behind ≤ behind := by
  unfold frontier
  split
  case h_1 string hstring => exact h string hstring
  case h_2 => exact Nat.le_refl behind

section InPlace

variable {source : List Char} {offset : Place → Nat} {isLine : List Char → Nat → Prop}
  {others : List Mark}

/-- Marks that go on behind a line stand from an earlier offset on if no string is open. -/
theorem InPlace.of_closed {state : ScanState} {behind start : Nat}
    (h : InPlace source offset isLine (state.frontier offset behind) others)
    (hclosed : state.openString = none) (hle : start ≤ behind) :
    InPlace source offset isLine start others := by
  rw [ScanState.frontier_of_closed hclosed] at h
  exact h.mono hle

variable {base limit row : Nat} (hrow : ∀ column ≤ limit, offset ⟨row, column⟩ = base + column)
include hrow

/-- A mark of a line, in front of others. -/
theorem InPlace.cons {first last : Nat} {marks : List Mark}
    (h : InPlace source offset isLine (base + last) marks) (kind : Kind) (hkind : kind ≠ .whitespace)
    (hline : isLine (source.take (base + first)) row) (hfirst : first ≤ last) (hlast : last ≤ limit)
    {start : Nat} (hstart : start ≤ base + first) :
    InPlace source offset isLine start (⟨kind, ⟨row, first⟩, ⟨row, last⟩⟩ :: marks) := by
  have hbegin := hrow first (Nat.le_trans hfirst hlast)
  have hend := hrow last hlast
  have hmark : Mark.Stands source offset isLine start ⟨kind, ⟨row, first⟩, ⟨row, last⟩⟩ := by
    refine ⟨hkind, hbegin ▸ hstart, ?_, hbegin ▸ hline⟩
    show offset ⟨row, first⟩ ≤ offset ⟨row, last⟩
    omega
  exact ⟨hmark, hend ▸ h⟩

/-- Marks of one place, in front of others. -/
theorem InPlace.replicate {column : Nat} {marks : List Mark}
    (h : InPlace source offset isLine (base + column) marks) (kind : Kind)
    (hkind : kind ≠ .whitespace) (hline : isLine (source.take (base + column)) row)
    (hlimit : column ≤ limit) (count : Nat) {start : Nat} (hstart : start ≤ base + column) :
    InPlace source offset isLine start
      (List.replicate count ⟨kind, ⟨row, column⟩, ⟨row, column⟩⟩ ++ marks) := by
  induction count generalizing start with
  | zero => exact h.mono hstart
  | succ count ih =>
    exact (ih (Nat.le_refl _)).cons hrow kind hkind hline (Nat.le_refl _) hlimit hstart

variable (hline : ∀ column < limit, isLine (source.take (base + column)) row)
include hline

/-- The elements of a line stand one behind the other, in front of marks that go on behind them. -/
theorem inPlace_scanElements (fuel : Nat) {state : ScanState} (hclosed : state.openString = none)
    {column : Nat} {cs : List Char} (h : column + cs.length = limit)
    (hothers : InPlace source offset isLine
      ((scanElements row fuel state column cs).1.frontier offset (base + limit)) others)
    {start : Nat} (hstart : start ≤ base + column) :
    InPlace source offset isLine start ((scanElements row fuel state column cs).2 ++ others) := by
  induction fuel generalizing state column cs start with
  | zero => exact hothers.of_closed hclosed (by omega)
  | succ fuel ih =>
    have hstep := elementStep_scanElements row fuel state h
    generalize scanElements row (fuel + 1) state column cs = scan at hstep hothers ⊢
    cases hstep with
    | ends => exact hothers.of_closed hclosed (by omega)
    | @opens next string first hstring hbegin hfirst hbefore =>
      have hothers' : InPlace source offset isLine (next.frontier offset (base + limit)) others :=
        hothers
      rw [ScanState.frontier_of_open hstring, hbegin, hrow first hbefore.le] at hothers'
      exact hothers'.mono (by omega)
    | passes hstring hlast hrest => exact ih (hstring.trans hclosed) hrest hothers (by omega)
    | marks hkind hstring hfirst hlast hrest =>
      exact (ih (hstring.trans hclosed) hrest hothers (Nat.le_refl _)).cons hrow _ hkind
        (hline _ (by omega)) hlast.le (by omega) (by omega)

/-- A line that begins a statement stands in place. -/
theorem inPlace_scanStatement {state : ScanState} (hclosed : state.openString = none)
    {line : List Char} (h : line.length = limit)
    (hend : line.getLast? ≠ some '\n' → isLine (source.take (base + limit)) row) {scan : LineScan}
    (hscan : scanStatement state row line = .next scan)
    (hothers : InPlace source offset isLine (scan.1.frontier offset (base + limit)) others)
    {start : Nat} (hstart : start ≤ base) :
    InPlace source offset isLine start (scan.2 ++ others) := by
  have hsplit := congrArg List.length (List.takeWhile_append_dropWhile (p := isMargin) (l := line))
  have hbody := List.takeWhile_append_dropWhile (p := isMargin) (l := line)
  rw [List.length_append] at hsplit
  subst h
  unfold scanStatement at hscan
  simp only at hscan
  generalize line.takeWhile isMargin = blanks at hsplit hbody hscan
  generalize line.dropWhile isMargin = body at hsplit hbody hscan
  -- What begins the line is a comment, a line end, a deeper block, or the rest of an old one.
  split at hscan
  · cases hscan
  case h_2 c cs =>
    rw [List.length_cons] at hsplit
    -- Whatever the blanks say about the blocks, the elements behind them stand in place.
    have helements : ∀ state' : ScanState, state'.openString = none →
        InPlace source offset isLine
          ((scanElements row line.length state' blanks.length (c :: cs)).1.frontier offset
            (base + line.length)) others →
        ∀ {start : Nat}, start ≤ base + blanks.length → InPlace source offset isLine start
          ((scanElements row line.length state' blanks.length (c :: cs)).2 ++ others) :=
      fun state' hclosed' hothers' =>
        inPlace_scanElements hrow hline _ hclosed' hsplit hothers'
    split at hscan
    case isTrue hhash =>
      cases hscan
      obtain ⟨ending, hcomment, hending⟩ :=
        Text.dropTrailing_append (fun c => c = '\r' || c = '\n') (c :: cs)
      have hlast := Text.getLast?_dropTrailing (fun c => c = '\r' || c = '\n') (c :: cs)
      generalize Text.dropTrailing (fun c => c = '\r' || c = '\n') (c :: cs) = comment
        at hcomment hlast hothers ⊢
      have hlength := congrArg List.length hcomment
      rw [List.length_append, List.length_cons] at hlength
      -- The comment ends in front of the line end, or the line has none.
      have hstop : isLine (source.take (base + (blanks.length + comment.length))) row := by
        obtain rfl | hne := eq_or_ne ending []
        · rw [List.append_nil] at hcomment
          subst hcomment
          rw [List.length_cons, hsplit]
          refine hend fun hfeed => ?_
          rw [← hbody, List.getLast?_append, List.getLast?_cons, Option.some_or] at hfeed
          have hkept := hlast '\n' (by rw [List.getLast?_cons]; exact hfeed)
          exact absurd hkept (by decide)
        · have hpos := List.length_pos_of_ne_nil hne
          exact hline _ (by omega)
      exact (((hothers.of_closed hclosed (Nat.le_refl _)).cons hrow .lineBreak nofun hstop
        (by omega) (Nat.le_refl _) (Nat.le_refl _)).cons hrow .comment nofun (hline _ (by omega))
        (by omega) (by omega) (by omega))
    split at hscan
    · cases hscan
      exact (hothers.of_closed hclosed (Nat.le_refl _)).cons hrow .lineBreak nofun
        (hline _ (by omega)) (by omega) (Nat.le_refl _) (by omega)
    split at hscan
    · cases hscan
      exact (helements { state with blocks := reach 0 blanks :: state.blocks } hclosed hothers
        (Nat.le_refl _)).cons hrow .indent nofun (hline 0 (by omega)) (Nat.zero_le _) (by omega)
        hstart
    split at hscan
    · cases hscan
    case h_2 blocks closed hclose =>
      cases hscan
      rw [List.append_assoc]
      exact (helements { state with blocks } hclosed hothers (Nat.le_refl _)).replicate hrow .dedent
        nofun (hline _ (by omega)) (by omega) closed (by omega)

/-- A line stands in place, and so does the string that was left open in front of it. -/
theorem inPlace_scanLine {state : ScanState}
    (hstate : state.Began fun place => isLine (source.take (offset place)) place.row ∧
      offset place ≤ base) {line : List Char} (h : line.length = limit)
    (hend : line.getLast? ≠ some '\n' → isLine (source.take (base + limit)) row) {scan : LineScan}
    (hscan : scanLine state row line = .next scan)
    (hothers : InPlace source offset isLine (scan.1.frontier offset (base + limit)) others)
    {start : Nat} (hstart : start ≤ state.frontier offset base) :
    InPlace source offset isLine start (scan.2 ++ others) := by
  unfold scanLine at hscan
  split at hscan
  case h_1 opened hopened =>
    obtain ⟨hrow', hbefore⟩ := hstate opened hopened
    rw [ScanState.frontier_of_open hopened] at hstart
    -- What is marked from the beginning of the string on ends on this line.
    have hmark : ∀ (kind : Kind) (column : Nat) (marks : List Mark), kind ≠ .whitespace →
        column ≤ limit → InPlace source offset isLine (base + column) marks →
          InPlace source offset isLine start (⟨kind, opened.start, ⟨row, column⟩⟩ :: marks) := by
      intro kind column marks hkind hcolumn hmarks
      have hstop := hrow column hcolumn
      have hlast : offset opened.start ≤ offset ⟨row, column⟩ := by omega
      exact ⟨⟨hkind, hstart, hlast, hrow'⟩, hstop ▸ hmarks⟩
    cases hscan
    revert hothers
    unfold scanString
    split
    case h_1 length hclose =>
      intro hothers
      have hle := (closingLength?_le hclose).2
      refine hmark .string length _ nofun (h ▸ hle) ?_
      refine inPlace_scanElements hrow hline _ rfl ?_ hothers (Nat.le_refl _)
      rw [List.length_drop]
      omega
    split
    · intro hothers
      exact hmark .stray _ _ nofun h.le (h ▸ hothers.of_closed rfl (Nat.le_refl _))
    · intro hothers
      rw [ScanState.frontier_of_open hopened] at hothers
      exact hothers.mono hstart
  case h_2 hclosed =>
    rw [ScanState.frontier_of_closed hclosed] at hstart
    split at hscan
    · exact inPlace_scanStatement hrow hline hclosed h hend hscan hothers hstart
    · cases hscan
      -- A line that goes on with a statement has no block of its own.
      have hjoined : ({ state with joined := false } : ScanState).openString = none := hclosed
      exact inPlace_scanElements hrow hline _ hjoined ((Nat.zero_add _).trans h) hothers hstart

end InPlace

section Scan

variable {source : List Char} {done rest : List (List Char)}

/-- The marks behind the last line stand in place. -/
theorem inPlace_closingMarks (h : lines source = done ++ rest) {lastLine : List Char}
    (hlast : lastLine = done.getLast?.getD []) (state : ScanState) {start : Nat}
    (hstart : start ≤ done.flatten.length) :
    InPlace source (offsetOf (lineOffsets source) source.length) (IsRow source) start
      (closingMarks state (done.length + 1) lastLine) := by
  have hlength := congrArg List.length (flatten_lines source)
  rw [h, List.flatten_append, List.length_append] at hlength
  have hrow : ∀ column ≤ 0, offsetOf (lineOffsets source) source.length
      ⟨done.length + 1, column⟩ = done.flatten.length + column := by
    intro column hcolumn
    obtain rfl := Nat.le_zero.1 hcolumn
    rw [offsetOf_eq, h, Nat.add_sub_cancel, List.take_left, Nat.add_zero]
    exact Nat.min_eq_left (by omega)
  -- The end mark and the ends of blocks stand behind the last line.
  have hbehind : IsRow source (source.take (done.flatten.length + 0)) (done.length + 1) := by
    rw [Nat.add_zero, take_flatten h]
    exact isRow_behind h
  have hnil : InPlace source (offsetOf (lineOffsets source) source.length) (IsRow source)
      (done.flatten.length + 0) [] := trivial
  have hend := hnil.cons hrow .endMark (by decide) hbehind (Nat.le_refl _) (Nat.le_refl _)
    (Nat.le_refl _)
  have hblocks : ∀ start ≤ done.flatten.length, InPlace source _ (IsRow source) start _ :=
    fun start hstart => hend.replicate hrow .dedent (by decide) hbehind (Nat.le_refl _)
      (state.blocks.length - 1) hstart
  simp only [closingMarks]
  split
  case h_2 => exact hblocks start hstart
  case h_1 c hc =>
    split
    case isFalse => exact hblocks start hstart
    case isTrue hlacks =>
      -- The last line has a character, and no line end behind it.
      obtain ⟨front, rfl⟩ : ∃ front, done = front ++ [lastLine] := by
        obtain rfl | ⟨front, line, rfl⟩ := List.eq_nil_or_concat' done
        · rw [hlast] at hc
          cases hc
        · rw [List.getLast?_concat, Option.getD_some] at hlast
          exact ⟨front, by rw [hlast]⟩
      have hfeed : lastLine.getLast? ≠ some '\n' := by
        rw [hc]
        rintro ⟨⟩
        simp at hlacks
      -- So it is the last one.
      obtain rfl : rest = [] := by
        cases rest with
        | nil => rfl
        | cons next rest =>
          rw [List.append_assoc, List.singleton_append] at h
          exact absurd (getLast?_of_next h) hfeed
      have hlines : lines source = front ++ [lastLine] := by rw [h, List.append_nil]
      have hfull : (front ++ [lastLine]).flatten.length = source.length := by
        rw [← hlines, flatten_lines]
      -- There the source ends as well, so that the mark of the missing line end has a place.
      have hplace : offsetOf (lineOffsets source) source.length
          ⟨front.length + 1, lastLine.length⟩ = (front ++ [lastLine]).flatten.length := by
        rw [isOffset_offsetOf source front lastLine [] hlines _ (Nat.le_refl _),
          List.flatten_append, List.flatten_singleton, List.length_append]
      have hrow' : IsRow source
          (source.take (offsetOf (lineOffsets source) source.length
            ⟨front.length + 1, lastLine.length⟩)) (front.length + 1) := by
        rw [hplace, take_flatten h, List.flatten_append, List.flatten_singleton]
        exact .inl (by rw [lineAfter, count_newlines_last hlines hfeed, Nat.add_comm])
      have hback : (front ++ [lastLine]).length + 1 - 1 = front.length + 1 := by
        rw [List.length_append, List.length_singleton, Nat.add_sub_cancel]
      rw [hback]
      refine ⟨⟨Kind.noConfusion, hplace ▸ hstart, ?_, hrow'⟩, hblocks _ (hfull ▸ offsetOf_le _ _ _)⟩
      show offsetOf _ _ ⟨front.length + 1, lastLine.length⟩ ≤
        offsetOf _ _ ⟨front.length + 1, lastLine.length + 1⟩
      rw [offsetOf_eq, offsetOf_eq]
      simp only
      omega

/-- The marks of a source stand in place. -/
theorem inPlace_scanLines (h : lines source = done ++ rest) {state : ScanState}
    (hstate : state.Began fun place =>
      IsRow source (source.take (offsetOf (lineOffsets source) source.length place)) place.row ∧
        offsetOf (lineOffsets source) source.length place ≤ done.flatten.length)
    {lastLine : List Char} (hlast : lastLine = done.getLast?.getD []) {start : Nat}
    (hstart : start ≤
      state.frontier (offsetOf (lineOffsets source) source.length) done.flatten.length) :
    InPlace source (offsetOf (lineOffsets source) source.length) (IsRow source) start
      (scanLines state (done.length + 1) lastLine rest).marks := by
  have hbefore := Nat.le_trans hstart
    (ScanState.frontier_le fun string hstring => (hstate string hstring).2)
  induction rest generalizing done state start lastLine with
  | nil =>
    unfold scanLines
    split
    · trivial
    · split
      · exact inPlace_closingMarks h hlast state hbefore
      · trivial
  | cons line rest ih =>
    have hcolumns := isOffset_offsetOf source done line rest h
    have horder := inOrder_scanLine hcolumns (fun string hstring => (hstate string hstring).2) rfl
    have hdone : (done ++ [line]).flatten.length = done.flatten.length + line.length := by
      rw [List.flatten_append, List.flatten_singleton, List.length_append]
    -- In front of a character of the line are the lines before it, and part of the line.
    have htake : ∀ column ≤ line.length, source.take (done.flatten.length + column) =
        done.flatten ++ line.take column := by
      intro column hcolumn
      have hsource := flatten_lines source
      rw [h, List.flatten_append, List.flatten_cons] at hsource
      rw [← hsource, List.take_length_add_append, List.take_append_of_le_length hcolumn]
    -- So its characters stand in its row, and so does its end unless it has a line end.
    have hline : ∀ column < line.length,
        IsRow source (source.take (done.flatten.length + column)) (done.length + 1) := by
      intro column hcolumn
      left
      rw [htake column hcolumn.le, lineAfter, count_newlines h hcolumn, Nat.add_comm]
    have hend : line.getLast? ≠ some '\n' →
        IsRow source (source.take (done.flatten.length + line.length)) (done.length + 1) := by
      intro hfeed
      left
      rw [htake _ (Nat.le_refl _), List.take_length, lineAfter, count_newlines_last h hfeed,
        Nat.add_comm]
    rw [scanLines]
    cases hscan : scanLine state (done.length + 1) line with
    | finished => exact inPlace_closingMarks h hlast state hbefore
    | failed marks fault =>
      rw [hscan] at horder
      obtain rfl : marks = [] := horder
      trivial
    | next scan =>
      -- A string that is open behind the line has begun on the line or before it.
      have hbegan : scan.1.Began fun place =>
          IsRow source (source.take (offsetOf (lineOffsets source) source.length place))
              place.row ∧
            offsetOf (lineOffsets source) source.length place ≤ (done ++ [line]).flatten.length := by
        refine began_scanLine ?_ ?_ rfl hscan
        · intro column hcolumn
          rw [hcolumns column hcolumn.le, hdone]
          exact ⟨hline column hcolumn, Nat.add_le_add_left hcolumn.le _⟩
        · intro string hstring
          obtain ⟨hrow, hle⟩ := hstate string hstring
          rw [hdone]
          exact ⟨hrow, Nat.le_add_right_of_le hle⟩
      have hnext : lines source = (done ++ [line]) ++ rest := List.append_cons .. ▸ h
      have hlast' : line = (done ++ [line]).getLast?.getD [] := by
        rw [List.getLast?_concat, Option.getD_some]
      have hrest := ih hnext hbegan hlast' (Nat.le_refl _)
        (ScanState.frontier_le fun string hstring => (hbegan string hstring).2)
      rw [List.length_append, List.length_singleton, hdone] at hrest
      exact inPlace_scanLine hcolumns hline hstate rfl hend hscan hrest hstart

end Scan

section Tokens

variable {before after : List Token} {token : Token}

/-- A token is made of the marks, or is the one behind them. -/
theorem eq_of_mem_tokens {pieces : Tokenized} (h : pieces.tokens = before ++ token :: after) :
    (∃ more, pieces.scanned = before ++ token :: more) ∨
      pieces.scanned = before ∧ pieces.rest = some token := by
  rw [Tokenized.tokens] at h
  cases hrest : pieces.rest with
  | none =>
    rw [hrest, Option.toList_none, List.append_nil] at h
    exact .inl ⟨after, h⟩
  | some last =>
    rw [hrest, Option.toList_some] at h
    obtain rfl | ⟨more, last', rfl⟩ := List.eq_nil_or_concat' after
    · obtain ⟨hscanned, hlast⟩ := List.append_inj' h rfl
      exact .inr ⟨hscanned, congrArg some (List.cons.inj hlast).1⟩
    · rw [← List.cons_append, ← List.append_assoc] at h
      exact .inl ⟨more, (List.append_inj' h rfl).1⟩

/-- The token behind the marks carries the line on which it begins. -/
theorem line_of_rest {source : List Char} {scan : Scan}
    (h : (ofMarks source scan).rest = some token) :
    token.line = lineAfter (concatText (ofMarks source scan).scanned) := by
  have hfront : concatText (ofMarks source scan).scanned = source.take (reached source scan) := by
    have htext := concatText_fill (offsetOf (lineOffsets source) source.length) ⟨0, source⟩
      scan.marks
    rw [fill_snd] at htext
    refine (List.append_left_inj (source.drop (reached source scan))).1 ?_
    rw [List.take_append_drop]
    exact htext
  rw [hfront]
  simp only [ofMarks, fill_snd] at h
  split at h
  · cases h
  · rw [← Option.some.inj h]

/-- The tokens of a source that are made of marks carry rows of the source. -/
theorem numbered_scanned (text : String) :
    Numbered (IsRow text.toList) [] (tokenize text).scanned := by
  have hof : (⟨0, text.toList⟩ : Remainder).IsOf text.toList := rfl
  exact numbered_fill hof (inPlace_scanLines (List.nil_append _).symm
    (show ScanState.start.Began _ from nofun) rfl (Nat.le_refl 0))

/-- A token that is no gap begins in front of the end of the source, and so carries the line on
which it begins. -/
theorem line_of_isRow {text : String} (h : (tokenize text).scanned = before ++ token :: after)
    (hkind : token.kind ≠ .whitespace) : token.line = lineAfter (concatText before) := by
  have hrow := (numbered_scanned text).line h
  rw [Token.gap, if_neg hkind, List.append_nil, List.nil_append] at hrow
  refine hrow.resolve_right fun hend => ?_
  have hmem : token ∈ (ofMarks text.toList (scan text.toList)).scanned :=
    h ▸ List.mem_append_right _ List.mem_cons_self
  have htext : concatText (tokenize text).tokens = text.toList := concatText_ofMarks _ _
  rw [Tokenized.tokens, h, concatText_append, concatText_append, hend.1, List.append_assoc] at htext
  have hnone := List.append_right_eq_self.1 htext
  have hempty := (List.append_eq_nil_iff.1 hnone).1
  rw [concatText, List.flatMap_cons] at hempty
  exact text_ne_of_mem_scanned hmem (String.toList_eq_nil_iff.1 (List.append_eq_nil_iff.1 hempty).1)

/-- Each comment of a source carries the line on which it stands: one more than the line ends in
front of it. -/
theorem line_of_comment {text : String} {before after : List Token} {token : Token}
    (h : (tokenize text).tokens = before ++ token :: after) (hkind : token.kind = .comment) :
    token.line = lineAfter (concatText before) := by
  obtain ⟨more, hscanned⟩ | ⟨hscanned, hrest⟩ := eq_of_mem_tokens h
  · exact line_of_isRow hscanned (hkind ▸ nofun)
  · exact hscanned ▸ line_of_rest hrest

/-- Comments behind a string that takes up two lines. -/
example :
    (((tokenize "'''\n''' # a\n#b\n").tokens.filter fun token => token.kind = .comment).map
      Token.line) = [2, 3] := by
  decide +kernel

/-- Text adds its line ends to the number of a line. -/
theorem lineAfter_append (before text : List Char) :
    lineAfter (before ++ text) = lineAfter before + text.count '\n' := by
  rw [lineAfter, lineAfter, List.count_append, Nat.add_assoc]

/-- Each token of a text carries the line on which it begins, except that a gap in front of a mark
carries the line on which it ends, which is as many lines further down as there are line ends in it:

* so it is for any marks of a scan that stand one behind the other on their true rows;
* so it is for the marks that the scan finds, except that a gap that ends with a text without a line
  end at its end may carry the line behind that one;
* the token behind any marks, untokenized or not, carries the line on which it begins. -/
theorem line_of_token (text : String) (marked : Scan) :
    (InPlace text.toList (offsetOf (lineOffsets text.toList) text.toList.length)
        (fun before row => row = lineAfter before) 0 marked.marks →
      ∀ before token after, (ofMarks text.toList marked).scanned = before ++ token :: after →
        token.line = lineAfter (concatText before) + token.gap.count '\n') ∧
    (∀ (before : List Token) (token : Token) (after : List Token),
      (tokenize text).scanned = before ++ token :: after →
        token.line = lineAfter (concatText before) + token.gap.count '\n' ∨
          token.kind = .whitespace ∧ concatText before ++ token.text.toList = text.toList ∧
            text.toList.getLast? ≠ some '\n' ∧
            token.line = lineAfter (concatText before) + token.gap.count '\n' + 1) ∧
    ∀ token, (ofMarks text.toList marked).rest = some token →
      token.line = lineAfter (concatText (ofMarks text.toList marked).scanned) := by
  refine ⟨fun hplace before token after h => ?_, fun before token after h => ?_,
    fun token => line_of_rest⟩
  · have hof : (⟨0, text.toList⟩ : Remainder).IsOf text.toList := rfl
    have hline := (numbered_fill hof hplace).line h
    rw [hline, ← lineAfter_append]
    rfl
  · rw [← lineAfter_append]
    by_cases hkind : token.kind = .whitespace
    · have hrow := (numbered_scanned text).line h
      rw [Token.gap, if_pos hkind, List.nil_append] at hrow
      rw [Token.gap, if_pos hkind]
      refine hrow.imp_right fun ⟨hend, hlast, hline⟩ => ⟨hkind, hend, hlast, ?_⟩
      rw [hline, hend]
    · left
      rw [Token.gap, if_neg hkind, List.append_nil]
      exact line_of_isRow h hkind

/-- A line that a backslash joins to the next one, as marks on their true rows and as a text. -/
theorem line_of_token_continued :
    let gap : Token := ⟨.whitespace, " \\\n", 2⟩
    let marks : List Mark := [⟨.name, ⟨1, 0⟩, ⟨1, 1⟩⟩, ⟨.name, ⟨2, 0⟩, ⟨2, 1⟩⟩]
    (ofMarks "a \\\nb".toList ⟨marks, none⟩).scanned = [⟨.name, "a", 1⟩, gap, ⟨.name, "b", 2⟩] ∧
      gap.line = lineAfter (concatText [⟨.name, "a", 1⟩]) + gap.gap.count '\n' ∧
      (tokenize "a \\\nb").scanned = [⟨.name, "a", 1⟩, gap, ⟨.name, "b", 2⟩] ∧
      2 = lineAfter (concatText [⟨.name, "a", 1⟩, gap]) := by
  intro gap marks
  have hmarks : (ofMarks "a \\\nb".toList ⟨marks, none⟩).scanned =
      [⟨.name, "a", 1⟩, gap, ⟨.name, "b", 2⟩] := by
    decide +kernel
  have htokens : (tokenize "a \\\nb").scanned = [⟨.name, "a", 1⟩, gap, ⟨.name, "b", 2⟩] := by
    decide +kernel
  obtain ⟨hmarked, hscanned, -⟩ := line_of_token "a \\\nb" ⟨marks, none⟩
  have hplace : InPlace "a \\\nb".toList (offsetOf (lineOffsets "a \\\nb".toList) 5)
      (fun before row => row = lineAfter before) 0 marks :=
    ⟨⟨nofun, by decide, by decide, by decide⟩, ⟨nofun, by decide, by decide, by decide⟩, trivial⟩
  refine ⟨hmarks, hmarked hplace [⟨.name, "a", 1⟩] gap _ hmarks, htokens, ?_⟩
  exact (hscanned [⟨.name, "a", 1⟩, gap] ⟨.name, "b", 2⟩ [] htokens).resolve_right nofun

/-- The gap over two lines does not carry the line on which it begins. -/
theorem line_of_gap : ¬∀ (text : String) (before : List Token) (token : Token) (after : List Token),
    (tokenize text).tokens = before ++ token :: after →
      token.line = lineAfter (concatText before) := by
  intro h
  have htokens : (tokenize "x = \\\n  1\n").tokens =
      [⟨.name, "x", 1⟩, ⟨.whitespace, " ", 1⟩, ⟨.operator, "=", 1⟩] ++
        ⟨.whitespace, " \\\n  ", 2⟩ :: [⟨.number, "1", 2⟩, ⟨.newline, "\n", 2⟩] := by
    decide +kernel
  have hline := h _ _ _ _ htokens
  exact absurd hline (by decide)

end Tokens

end Hashmark.Source
