import Hashmark.Proofs.Source.Finding
import Hashmark.Proofs.Source.Lines

/-!
# Comments within a source

To a pass a source is made up of characters that are in no comment, and of comments (`Item`). The
scan marks the comments of a line in order and within the line (`inOrder_scanLine`), so that the
tokens made of the marks have the comments that the scan finds in each line, and all other text
around them as it is (`items_tokenize`). Other marks may begin on a line before, where a string is
open, and are not told apart.
-/

namespace Hashmark.Source

/-- A part of a source as a pass tells them apart. -/
inductive Item where
  /-- A character that is in no comment. -/
  | char (c : Char)
  /-- A comment as a whole. -/
  | comment (text : String)
  deriving DecidableEq

/-- The parts that a token is made of. -/
def Token.items (token : Token) : List Item :=
  if token.kind = .comment then [.comment token.text] else token.text.toList.map .char

/-- The parts that tokens are made of. -/
def items (tokens : List Token) : List Item :=
  tokens.flatMap Token.items

/-- A text without comments. -/
def chars (text : List Char) : List Item :=
  text.map .char

/-- The parts of a text that begins at `column` of a line, given where its comments begin and
end. -/
def cutSpans (column : Nat) (text : List Char) : List (Nat × Nat) → List Item
  | [] => chars text
  | (first, last) :: spans =>
    chars (text.take (first - column)) ++
      .comment (String.ofList ((text.drop (first - column)).take (last - first))) ::
        cutSpans last (text.drop (last - column)) spans

/-- The parts of lines that a scan goes on with. -/
def lineItems (state : ScanState) (row : Nat) : List (List Char) → List Item
  | [] => []
  | line :: rest =>
    match scanLine state row line with
    | .next (state, marks) => cutSpans 0 line (commentSpans marks) ++ lineItems state (row + 1) rest
    | _ => chars (line :: rest).flatten

section Items

/-- Tokens behind others. -/
theorem items_append (tokens others : List Token) :
    items (tokens ++ others) = items tokens ++ items others :=
  List.flatMap_append

/-- Text behind other text. -/
theorem chars_append (text other : List Char) : chars (text ++ other) = chars text ++ chars other :=
  List.map_append

/-- Tokens that are no comments are their text. -/
theorem items_eq_chars {tokens : List Token} (h : ∀ token ∈ tokens, token.kind ≠ .comment) :
    items tokens = chars (concatText tokens) := by
  induction tokens with
  | nil => rfl
  | cons token tokens ih =>
    obtain ⟨htoken, htokens⟩ := List.forall_mem_cons.1 h
    have hrest := ih htokens
    rw [items, List.flatMap_cons, concatText, List.flatMap_cons, chars_append]
    show token.items ++ items tokens = _
    rw [hrest, Token.items, if_neg htoken]
    rfl

end Items

section Cut

/-- A cut within a text: what is cut off and what is left of it make it up. -/
theorem cut_within {offset stop : Nat} {front : List Char} (h : stop ≤ offset + front.length)
    (after : List Char) (kind : Kind) (line : Nat) :
    ∃ rest, (Remainder.cut ⟨offset, front ++ after⟩ kind line stop).2 =
        ⟨max offset stop, rest ++ after⟩ ∧
      max offset stop + rest.length = offset + front.length ∧
      concatText (Remainder.cut ⟨offset, front ++ after⟩ kind line stop).1 ++ rest = front := by
  unfold Remainder.cut
  split
  case isTrue hlt =>
    have hle : stop - offset ≤ front.length := by
      simp only at hlt ⊢
      omega
    refine ⟨front.drop (stop - offset), ?_, ?_, ?_⟩
    · rw [Nat.max_eq_right (Nat.le_of_lt hlt)]
      simp only [List.drop_append_of_le_length hle]
    · rw [List.length_drop]
      simp only at hlt
      omega
    · simp [concatText, List.take_append_of_le_length hle]
  case isFalse hlt =>
    refine ⟨front, ?_, ?_, rfl⟩
    · simp only at hlt
      rw [Nat.max_eq_left (Nat.le_of_not_lt hlt)]
    · simp only at hlt
      omega

/-- A cut at the end of a text. -/
theorem cut_prefix (offset : Nat) (front after : List Char) (kind : Kind) (line : Nat) :
    (Remainder.cut ⟨offset, front ++ after⟩ kind line (offset + front.length)).2 =
        ⟨offset + front.length, after⟩ ∧
      concatText (Remainder.cut ⟨offset, front ++ after⟩ kind line (offset + front.length)).1 =
        front := by
  obtain ⟨rest, hrest, hlength, htext⟩ :=
    cut_within (Nat.le_refl (offset + front.length)) after kind line
  have hmax : max offset (offset + front.length) = offset + front.length :=
    Nat.max_eq_right (Nat.le_add_right _ _)
  rw [hmax] at hrest hlength
  obtain rfl : rest = [] := List.eq_nil_of_length_eq_zero (by omega)
  rw [List.append_nil] at htext
  exact ⟨hrest, htext⟩

/-- The tokens of marks and of others behind them. -/
theorem fill_append (offset : Place → Nat) (remainder : Remainder) (marks others : List Mark) :
    fill offset remainder (marks ++ others) =
      ((fill offset remainder marks).1 ++ (fill offset (fill offset remainder marks).2 others).1,
        (fill offset (fill offset remainder marks).2 others).2) := by
  induction marks generalizing remainder with
  | nil => rfl
  | cons mark marks ih =>
    rw [List.cons_append, fill_cons, fill_cons]
    simp only [ih, List.append_assoc]

/-- What is cut off and is no comment is its text. -/
theorem items_cut (remainder : Remainder) {kind : Kind} (hkind : kind ≠ .comment)
    (line stop : Nat) :
    items (remainder.cut kind line stop).1 = chars (concatText (remainder.cut kind line stop).1) :=
  items_eq_chars fun _ htoken => kind_of_mem_cut htoken ▸ hkind

/-- A comment that is cut off is one item. -/
theorem items_cut_comment {text : List Char} (hne : text ≠ []) (offset : Nat) (after : List Char)
    (line : Nat) :
    items (Remainder.cut ⟨offset, text ++ after⟩ .comment line (offset + text.length)).1 =
      [.comment (String.ofList text)] := by
  have hlt : offset < offset + text.length :=
    Nat.lt_add_of_pos_right (List.length_pos_of_ne_nil hne)
  rw [Remainder.cut, if_pos hlt]
  simp only [Nat.add_sub_cancel_left, List.take_left]
  rfl

/-- Marks of no comments make no comments. -/
theorem kind_of_mem_fill {marks : List Mark} (h : ∀ mark ∈ marks, mark.kind ≠ .comment)
    {offset : Place → Nat} {remainder : Remainder} :
    ∀ token ∈ (fill offset remainder marks).1, token.kind ≠ .comment := by
  induction marks generalizing remainder with
  | nil => exact List.forall_mem_nil _
  | cons mark marks ih =>
    obtain ⟨hmark, hmarks⟩ := List.forall_mem_cons.1 h
    intro token htoken
    rw [fill_cons, List.mem_append, List.mem_append] at htoken
    obtain (hgap | hbody) | hrest := htoken
    · exact kind_of_mem_cut hgap ▸ nofun
    · exact kind_of_mem_cut hbody ▸ hmark
    · exact ih hmarks token hrest

/-- Marks of no comments leave the text as it is. -/
theorem items_fill {marks : List Mark} (h : ∀ mark ∈ marks, mark.kind ≠ .comment)
    (offset : Place → Nat) (remainder : Remainder) :
    items (fill offset remainder marks).1 ++ chars (fill offset remainder marks).2.text =
      chars remainder.text := by
  rw [items_eq_chars (kind_of_mem_fill h), ← chars_append, concatText_fill]

end Cut

/-- What one step of the scan of the elements of a line does: it ends, leaves a string open that
begins on the line, or goes on farther to the right, behind a mark or behind none. -/
inductive ElementStep (row fuel : Nat) (state : ScanState) (column limit : Nat) : LineScan → Prop
  /-- The rest of the line is blank. -/
  | ends : ElementStep row fuel state column limit (state, [])
  /-- A string goes on behind the line. -/
  | opens {next : ScanState} {string : OpenString} {first : Nat}
      (hstring : next.openString = some string) (hstart : string.start = ⟨row, first⟩)
      (hfirst : column ≤ first) (hlimit : first < limit) :
      ElementStep row fuel state column limit (next, [])
  /-- What is passed over has no mark. -/
  | passes {next : ScanState} {last : Nat} {rest : List Char}
      (hstring : next.openString = state.openString) (hlast : column ≤ last)
      (hrest : last + rest.length = limit) :
      ElementStep row fuel state column limit (scanElements row fuel next last rest)
  /-- An element is marked. -/
  | marks {next : ScanState} {kind : Kind} {first last : Nat} {rest : List Char}
      (hkind : kind ≠ .whitespace) (hstring : next.openString = state.openString)
      (hfirst : column ≤ first)
      (hlast : first < last) (hrest : last + rest.length = limit) :
      ElementStep row fuel state column limit
        ((scanElements row fuel next last rest).withMark kind row first last)

/-- The scan of the elements of a line is such a step. -/
theorem elementStep_scanElements (row fuel : Nat) (state : ScanState) {column limit : Nat}
    {cs : List Char} (h : column + cs.length = limit) :
    ElementStep row fuel state column limit (scanElements row (fuel + 1) state column cs) := by
  have hmargin := congrArg List.length (List.takeWhile_append_dropWhile (p := isMargin) (l := cs))
  rw [List.length_append] at hmargin
  unfold scanElements
  simp only
  generalize (cs.takeWhile isMargin).length = margin at hmargin
  generalize cs.dropWhile isMargin = body at hmargin
  split
  · exact .ends
  case h_2 initial rest =>
    rw [List.length_cons] at hmargin
    split
    -- A character that begins no lexeme is marked by itself.
    case h_1 =>
      refine .marks (by decide) rfl (Nat.le_refl _) (Nat.lt_succ_self _) ?_
      rw [List.length_drop]
      omega
    case h_2 lexeme length hlexeme =>
      obtain ⟨hpos, hle⟩ := lexeme?_le hlexeme
      rw [List.length_cons] at hle
      have hrest : column + margin + length + ((initial :: rest).drop length).length = limit := by
        rw [List.length_drop, List.length_cons]
        omega
      -- Whatever the lexeme, its mark is behind the blanks and within the line.
      have hfirst : column ≤ column + margin := Nat.le_add_right _ _
      have hlast : column + margin < column + margin + length := Nat.lt_add_of_pos_right hpos
      have hopens : column + margin < limit := by omega
      split
      · exact .passes rfl (Nat.le_trans hfirst (Nat.le_of_lt hlast)) hrest
      · exact .marks (by decide) rfl hfirst hlast hrest
      · exact .marks (by decide) rfl hfirst hlast hrest
      · exact .marks (by decide) rfl hfirst hlast hrest
      · exact .marks (by split <;> decide) rfl hfirst hlast hrest
      · exact .marks (by decide) rfl hfirst hlast hrest
      · exact .marks (by split <;> decide) rfl hfirst hlast hrest
      · split
        case h_1 more hmore =>
          have hmore' := (closingLength?_le hmore).2
          refine .marks (by decide) rfl hfirst (Nat.lt_add_right more hlast) ?_
          rw [List.length_drop]
          omega
        case h_2 => exact .opens rfl rfl hfirst hopens
      · exact .opens rfl rfl hfirst hopens

/-- A comment on a line that begins at the offset `base`: it begins at `column` or behind it, and
ends at `next`. -/
structure Mark.Covers (offset : Place → Nat) (base column next : Nat) (mark : Mark) : Prop where
  /-- It begins on the line. -/
  start : offset mark.start = base + mark.start.column
  /-- It ends on the line. -/
  stop : offset mark.stop = base + mark.stop.column
  /-- It begins behind what is in front of it. -/
  first : column ≤ mark.start.column
  /-- It is not empty. -/
  nonempty : mark.start.column < mark.stop.column
  /-- It ends in front of what is behind it. -/
  last : mark.stop.column = next

/-- A mark whose tokens take up a line that begins at the offset `base` from `column` up to `next`
at most. Where it begins matters for comments only, since a string may begin on a line before. -/
structure Mark.Reaches (offset : Place → Nat) (base column next : Nat) (mark : Mark) : Prop where
  /-- It does not go back. -/
  le : column ≤ next
  /-- It begins there at the latest. -/
  start : offset mark.start ≤ base + next
  /-- It ends there at the latest. -/
  stop : offset mark.stop ≤ base + next
  /-- A comment covers part of it. -/
  comment : mark.kind = .comment → mark.Covers offset base column next

/-- Marks in order on a line from `column` on, all within `limit`. -/
def Advances (offset : Place → Nat) (base limit : Nat) : Nat → List Mark → Prop
  | column, [] => column ≤ limit
  | column, mark :: marks =>
    ∃ next, mark.Reaches offset base column next ∧ Advances offset base limit next marks

section Advances

variable {offset : Place → Nat} {base limit : Nat}

/-- Marks that are in order from a column on are in order from an earlier one on. -/
theorem Advances.mono {marks : List Mark} {column earlier : Nat}
    (h : Advances offset base limit column marks) (hle : earlier ≤ column) :
    Advances offset base limit earlier marks := by
  cases marks with
  | nil => exact Nat.le_trans hle h
  | cons mark marks =>
    obtain ⟨next, hmark, hrest⟩ := h
    refine ⟨next, ⟨Nat.le_trans hle hmark.le, hmark.start, hmark.stop, fun hkind => ?_⟩, hrest⟩
    have hcomment := hmark.comment hkind
    exact { hcomment with first := Nat.le_trans hle hcomment.first }

/-- Marks in order are within the line. -/
theorem Advances.le {marks : List Mark} {column : Nat}
    (h : Advances offset base limit column marks) : column ≤ limit := by
  induction marks generalizing column with
  | nil => exact h
  | cons mark marks ih =>
    obtain ⟨next, hmark, hrest⟩ := h
    exact Nat.le_trans hmark.le (ih hrest)

/-- Comments do not begin before the column from which on the marks are in order. -/
theorem Advances.le_first {marks : List Mark} {column : Nat}
    (h : Advances offset base limit column marks) :
    ∀ span ∈ (commentSpans marks).head?, column ≤ span.1 ∧ span.1 ≤ span.2 := by
  induction marks generalizing column with
  | nil => exact nofun
  | cons mark marks ih =>
    obtain ⟨next, hmark, hrest⟩ := h
    intro span hspan
    rw [commentSpans, List.filterMap_cons] at hspan
    by_cases hkind : mark.kind = .comment
    · rw [if_pos hkind] at hspan
      obtain rfl := Option.some.inj hspan
      have hcomment := hmark.comment hkind
      exact ⟨hcomment.first, Nat.le_of_lt hcomment.nonempty⟩
    · rw [if_neg hkind] at hspan
      obtain ⟨hle, hspan⟩ := ih hrest span hspan
      exact ⟨Nat.le_trans hmark.le hle, hspan⟩

/-- Text in front of the first comment. -/
theorem cutSpans_append {column : Nat} (front text : List Char) {spans : List (Nat × Nat)}
    (h : ∀ span ∈ spans.head?, column + front.length ≤ span.1 ∧ span.1 ≤ span.2) :
    cutSpans column (front ++ text) spans =
      chars front ++ cutSpans (column + front.length) text spans := by
  cases spans with
  | nil => exact chars_append _ _
  | cons span spans =>
    obtain ⟨first, last⟩ := span
    obtain ⟨hfirst, hlast⟩ : column + front.length ≤ first ∧ first ≤ last := h _ rfl
    have hgap : first - column = front.length + (first - (column + front.length)) := by omega
    have hend : last - column = front.length + (last - (column + front.length)) := by omega
    rw [cutSpans, cutSpans, hgap, hend, List.take_length_add_append, List.drop_length_add_append,
      List.drop_length_add_append, chars_append, List.append_assoc]

/-- Text in front of a comment, the comment, and what is behind it. -/
theorem cutSpans_comment {column first last : Nat} {gap body : List Char}
    (hfirst : column + gap.length = first) (hlast : first + body.length = last) (text : List Char)
    (spans : List (Nat × Nat)) :
    cutSpans column (gap ++ (body ++ text)) ((first, last) :: spans) =
      chars gap ++ .comment (String.ofList body) :: cutSpans last text spans := by
  obtain rfl := hfirst
  obtain rfl := hlast
  have hgap : column + gap.length - column = gap.length := by omega
  have hbody : column + gap.length + body.length - (column + gap.length) = body.length := by omega
  have hboth : column + gap.length + body.length - column = gap.length + body.length := by omega
  rw [cutSpans, hgap, hbody, hboth, List.take_left, List.drop_left, List.take_left,
    List.drop_length_add_append, List.drop_left]

section Step

variable {column next start : Nat} {front taken : List Char}
  (hfront : start + front.length = base + column) (htaken : column + taken.length = next)
include hfront htaken

/-- The tokens of a comment: the text in front of it, and the comment. -/
theorem Mark.Covers.items_fill {mark : Mark} (h : mark.Covers offset base column next)
    (hkind : mark.kind = .comment) (after : List Char) :
    (fill offset ⟨start, front ++ (taken ++ after)⟩ [mark]).2 = ⟨base + next, after⟩ ∧
      ∀ text spans, items (fill offset ⟨start, front ++ (taken ++ after)⟩ [mark]).1 ++
          cutSpans next text spans =
        chars front ++
          cutSpans column (taken ++ text) ((mark.start.column, mark.stop.column) :: spans) := by
  obtain ⟨hstart, hstop, hfirst, hlt, rfl⟩ := h
  obtain ⟨gap, body, rfl, hgap⟩ : ∃ gap body, taken = gap ++ body ∧
      column + gap.length = mark.start.column := by
    refine ⟨taken.take (mark.start.column - column), taken.drop (mark.start.column - column),
      (List.take_append_drop _ _).symm, ?_⟩
    rw [List.length_take]
    omega
  rw [List.length_append] at htaken
  have hlast : mark.start.column + body.length = mark.stop.column := by omega
  -- A comment is never empty, and has a token of its own.
  have hne : body ≠ [] := by
    rintro rfl
    rw [List.length_nil] at hlast
    omega
  have hassoc : front ++ (gap ++ body ++ after) = front ++ gap ++ (body ++ after) := by
    simp only [List.append_assoc]
  have hat : offset mark.start = start + (front ++ gap).length := by
    rw [hstart, List.length_append]
    omega
  have hto : offset mark.stop = offset mark.start + body.length := by omega
  -- First the space in front of the comment is cut off, then the comment.
  obtain ⟨hbehind, hspace⟩ :=
    cut_prefix start (front ++ gap) (body ++ after) .whitespace mark.start.row
  rw [← hat] at hbehind hspace
  obtain ⟨hcut, -⟩ := cut_prefix (offset mark.start) body after mark.kind mark.start.row
  rw [← hto] at hcut
  have hspaces := items_cut ⟨start, front ++ gap ++ (body ++ after)⟩
    (show Kind.whitespace ≠ .comment from nofun) mark.start.row (offset mark.start)
  have hcomment := items_cut_comment hne (offset mark.start) after mark.start.row
  rw [← hto, ← hkind] at hcomment
  simp only [fill, List.append_nil, hassoc, hbehind, hcut]
  refine ⟨by rw [hstop], fun text spans => ?_⟩
  rw [List.append_assoc gap, cutSpans_comment hgap hlast, items_append, hspaces, hspace, hcomment,
    chars_append]
  simp only [List.append_assoc, List.singleton_append]

/-- The tokens of any other mark, wherever it begins, are text. -/
theorem Mark.Reaches.items_fill {mark : Mark} (h : mark.Reaches offset base column next)
    (hkind : mark.kind ≠ .comment) (after : List Char) :
    ∃ stop rest, (fill offset ⟨start, front ++ (taken ++ after)⟩ [mark]).2 =
        ⟨stop, rest ++ after⟩ ∧ stop + rest.length = base + next ∧
      items (fill offset ⟨start, front ++ (taken ++ after)⟩ [mark]).1 ++ chars rest =
        chars (front ++ taken) := by
  have htotal : start + (front ++ taken).length = base + next := by
    rw [List.length_append]
    omega
  obtain ⟨behind, hcut, hbehind, -⟩ := cut_within (htotal ▸ h.start) after .whitespace
    mark.start.row
  obtain ⟨rest, hcut', hrest, -⟩ := cut_within (hbehind.trans htotal ▸ h.stop) after mark.kind
    mark.start.row
  have hfill : (fill offset ⟨start, front ++ (taken ++ after)⟩ [mark]).2 =
      ⟨max (max start (offset mark.start)) (offset mark.stop), rest ++ after⟩ := by
    simp only [fill, ← List.append_assoc front, hcut, hcut']
  refine ⟨_, rest, hfill, hrest.trans (hbehind.trans htotal), ?_⟩
  have hitems := Source.items_fill (List.forall_mem_singleton.2 hkind) offset
    ⟨start, front ++ (taken ++ after)⟩
  simp only [hfill, chars_append] at hitems ⊢
  simp only [← List.append_assoc] at hitems ⊢
  exact List.append_cancel_right hitems

end Step

/-- The tokens that marks in order make of a line, and the text that is left of it behind them. -/
theorem Advances.items_fill {marks : List Mark} {column : Nat}
    (h : Advances offset base limit column marks) {start : Nat} {front text : List Char}
    (hfront : start + front.length = base + column) (htext : column + text.length = limit)
    (after : List Char) :
    ∃ stop rest, (fill offset ⟨start, front ++ (text ++ after)⟩ marks).2 = ⟨stop, rest ++ after⟩ ∧
      stop + rest.length = base + limit ∧
      items (fill offset ⟨start, front ++ (text ++ after)⟩ marks).1 ++ chars rest =
        chars front ++ cutSpans column text (commentSpans marks) := by
  -- The induction is over the marks: what is left of the text is in front of the next one.
  induction marks generalizing column start front text with
  | nil =>
    refine ⟨start, front ++ text, ?_, ?_, ?_⟩
    · rw [fill, List.append_assoc]
    · rw [List.length_append]
      omega
    · exact chars_append _ _
  | cons mark marks ih =>
    obtain ⟨next, hmark, hrest⟩ := h
    have hnext := hmark.le
    have hlimit := hrest.le
    -- The part of the line that the mark may reach, and what is left behind that.
    obtain ⟨taken, left, rfl, htaken⟩ : ∃ taken left, text = taken ++ left ∧
        column + taken.length = next := by
      refine ⟨text.take (next - column), text.drop (next - column),
        (List.take_append_drop _ _).symm, ?_⟩
      rw [List.length_take]
      omega
    have hleft : next + left.length = limit := by
      rw [List.length_append] at htext
      omega
    rw [← List.singleton_append, fill_append, List.append_assoc taken]
    by_cases hkind : mark.kind = .comment
    · obtain ⟨hfill, hitems⟩ := (hmark.comment hkind).items_fill hfront htaken hkind (left ++ after)
      have hnil : base + next + ([] : List Char).length = base + next := rfl
      obtain ⟨stop, rest, hfill', hstop, hitems'⟩ := ih hrest hnil hleft
      have hspans : commentSpans ([mark] ++ marks) =
          (mark.start.column, mark.stop.column) :: commentSpans marks := by
        simp [commentSpans, hkind]
      rw [List.nil_append] at hfill' hitems'
      rw [hfill]
      refine ⟨stop, rest, hfill', hstop, ?_⟩
      rw [items_append, List.append_assoc, hitems', hspans]
      exact hitems left (commentSpans marks)
    · obtain ⟨mid, behind, hfill, hmid, hitems⟩ :=
        hmark.items_fill hfront htaken hkind (left ++ after)
      obtain ⟨stop, rest, hfill', hstop, hitems'⟩ := ih hrest hmid hleft
      have hspans : commentSpans ([mark] ++ marks) = commentSpans marks := by
        simp [commentSpans, hkind]
      rw [hfill]
      refine ⟨stop, rest, hfill', hstop, ?_⟩
      rw [items_append, List.append_assoc, hitems', hspans,
        cutSpans_append taken left (htaken ▸ hrest.le_first), htaken, ← List.append_assoc, hitems,
        chars_append, List.append_assoc]

variable {row : Nat} (hrow : ∀ column ≤ limit, offset ⟨row, column⟩ = base + column)
include hrow

/-- A further mark on the line, in front of the others. -/
theorem Advances.cons {marks : List Mark} {column first last : Nat}
    (h : Advances offset base limit last marks) (kind : Kind) (hfirst : column ≤ first)
    (hlast : first ≤ last) (hcomment : kind = .comment → first < last) :
    Advances offset base limit column (⟨kind, ⟨row, first⟩, ⟨row, last⟩⟩ :: marks) := by
  have hle := h.le
  have hstart := hrow first (by omega)
  have hstop := hrow last hle
  refine ⟨last, ⟨Nat.le_trans hfirst hlast, ?_, Nat.le_of_eq hstop,
    fun hkind => ⟨hstart, hstop, hfirst, hcomment hkind, rfl⟩⟩, h⟩
  show offset ⟨row, first⟩ ≤ _
  omega

/-- The elements of a line are marked in order. -/
theorem advances_scanElements (fuel : Nat) (state : ScanState) {column : Nat} {cs : List Char}
    (h : column + cs.length = limit) :
    Advances offset base limit column (scanElements row fuel state column cs).2 := by
  have hend : Advances offset base limit column [] := h ▸ Nat.le_add_right _ _
  induction fuel generalizing state column cs with
  | zero => exact hend
  | succ fuel ih =>
    have hstep := elementStep_scanElements row fuel state h
    generalize scanElements row (fuel + 1) state column cs = scan at hstep
    cases hstep with
    | ends => exact hend
    | opens => exact hend
    | passes _ hlast hrest => exact (ih _ hrest (hrest ▸ Nat.le_add_right _ _)).mono hlast
    | marks _ _ hfirst hlast hrest =>
      exact (ih _ hrest (hrest ▸ Nat.le_add_right _ _)).cons hrow _ hfirst (Nat.le_of_lt hlast)
        fun _ => hlast

/-- Marks of one place, in front of others. -/
theorem Advances.replicate {marks : List Mark} {column : Nat}
    (h : Advances offset base limit column marks) (kind : Kind) (hkind : kind ≠ .comment)
    (count : Nat) :
    Advances offset base limit column
      (List.replicate count ⟨kind, ⟨row, column⟩, ⟨row, column⟩⟩ ++ marks) := by
  induction count with
  | zero => exact h
  | succ count ih =>
    exact ih.cons hrow kind (Nat.le_refl _) (Nat.le_refl _) fun heq => absurd heq hkind

end Advances

/-- What comes of a line that begins at `base` is marked in order on it. -/
def LineResult.InOrder (offset : Place → Nat) (base limit : Nat) : LineResult → Prop
  | .next scan => Advances offset base limit 0 scan.2
  | .finished => True
  | .failed marks _ => marks = []

section Line

variable {offset : Place → Nat} {base limit row : Nat}
  (hrow : ∀ column ≤ limit, offset ⟨row, column⟩ = base + column)
include hrow

/-- A line that begins a statement is marked in order. -/
theorem inOrder_scanStatement (state : ScanState) {line : List Char} (h : line.length = limit) :
    (scanStatement state row line).InOrder offset base limit := by
  have hsplit := congrArg List.length (List.takeWhile_append_dropWhile (p := isMargin) (l := line))
  rw [List.length_append] at hsplit
  unfold scanStatement
  simp only
  generalize line.dropWhile isMargin = body at hsplit
  have hbody : (line.takeWhile isMargin).length + body.length = limit := hsplit.trans h
  have hmargin : (line.takeWhile isMargin).length ≤ limit := by omega
  have helements : ∀ state', Advances offset base limit (line.takeWhile isMargin).length
      (scanElements row line.length state' (line.takeWhile isMargin).length body).2 :=
    fun state' => advances_scanElements hrow _ state' hbody
  have hend : Advances offset base limit line.length [] := Nat.le_of_eq h
  split
  · trivial
  case h_2 c cs =>
    split
    case isTrue hhash =>
      have hcomment := Text.dropTrailing_append (fun c => c = '\r' || c = '\n') (c :: cs)
      generalize Text.dropTrailing (fun c => c = '\r' || c = '\n') (c :: cs) = comment at hcomment ⊢
      obtain ⟨ending, hcomment, hending⟩ := hcomment
      -- The comment begins with its number sign, which is no line end.
      have hne : comment ≠ [] := by
        rintro rfl
        have hc := hending c (by rw [← List.nil_append ending, ← hcomment]; exact .head _)
        rw [hhash] at hc
        cases hc
      have hpos := List.length_pos_of_ne_nil hne
      rw [hcomment, List.length_append] at hbody
      have hlast : Advances offset base limit ((line.takeWhile isMargin).length + comment.length)
          [⟨.lineBreak, ⟨row, (line.takeWhile isMargin).length + comment.length⟩,
            ⟨row, line.length⟩⟩] :=
        hend.cons hrow _ (Nat.le_refl _) (by omega) nofun
      exact hlast.cons hrow _ (Nat.zero_le _) (Nat.le_add_right _ _)
        fun _ => Nat.lt_add_of_pos_right hpos
    split
    · exact hend.cons hrow _ (Nat.zero_le _) (h ▸ hmargin) nofun
    split
    · exact (helements _).cons hrow _ (Nat.le_refl _) (Nat.zero_le _) nofun
    split
    · rfl
    · exact ((helements _).replicate hrow .dedent nofun _).mono (Nat.zero_le _)

/-- A line is marked in order. The string that is open began before it. -/
theorem inOrder_scanLine {state : ScanState}
    (hstate : ∀ string ∈ state.openString, offset string.start ≤ base) {line : List Char}
    (h : line.length = limit) : (scanLine state row line).InOrder offset base limit := by
  unfold scanLine
  split
  -- The mark of a string that was open begins before the line, and is no comment.
  case h_1 opened hopened =>
    have hstart := hstate opened hopened
    have hmark : ∀ kind column, column ≤ limit → kind ≠ .comment → ∀ marks,
        Advances offset base limit column marks →
          Advances offset base limit 0 (⟨kind, opened.start, ⟨row, column⟩⟩ :: marks) := by
      intro kind column hle hkind marks hmarks
      have hstop := hrow column hle
      exact ⟨column, ⟨Nat.zero_le _, Nat.le_trans hstart (Nat.le_add_right _ _),
        Nat.le_of_eq hstop, fun heq => absurd heq hkind⟩, hmarks⟩
    unfold scanString
    split
    case h_1 length hclose =>
      have hle := (closingLength?_le hclose).2
      refine hmark .string _ (h ▸ hle) nofun _ (advances_scanElements hrow _ _ ?_)
      rw [List.length_drop]
      omega
    split
    · exact hmark .stray _ (Nat.le_of_eq h) nofun [] (Nat.le_of_eq h)
    · exact Nat.zero_le limit
  · split
    · exact inOrder_scanStatement hrow state h
    · exact advances_scanElements hrow _ _ ((Nat.zero_add _).trans h)

end Line

section Starts

/-- What holds of the place at which the open string of a state begins. -/
def ScanState.Began (P : Place → Prop) (state : ScanState) : Prop :=
  ∀ string ∈ state.openString, P string.start

variable {P : Place → Prop} {row limit : Nat} (hrow : ∀ column < limit, P ⟨row, column⟩)
include hrow

/-- A string that is open behind elements of a line begins before the line or on it. -/
theorem began_scanElements (fuel : Nat) {state : ScanState} (hstate : state.Began P) {column : Nat}
    {cs : List Char} (h : column + cs.length = limit) :
    (scanElements row fuel state column cs).1.Began P := by
  induction fuel generalizing state column cs with
  | zero => exact hstate
  | succ fuel ih =>
    have hstep := elementStep_scanElements row fuel state h
    generalize scanElements row (fuel + 1) state column cs = scan at hstep
    cases hstep with
    | ends => exact hstate
    | opens hstring hstart _ hlimit =>
      intro string hmem
      obtain rfl := Option.some.inj (hstring.symm.trans hmem)
      exact hstart ▸ hrow _ hlimit
    | passes hstring _ hrest => exact ih (fun string hmem => hstate string (hstring ▸ hmem)) hrest
    | marks _ hstring _ _ hrest => exact ih (fun string hmem => hstate string (hstring ▸ hmem)) hrest

/-- A string that is open behind a line that begins a statement begins before the line or on it. -/
theorem began_scanStatement {state : ScanState} (hstate : state.Began P) {line : List Char}
    (h : line.length = limit) {scan : LineScan}
    (hscan : scanStatement state row line = .next scan) : scan.1.Began P := by
  have hsplit := congrArg List.length (List.takeWhile_append_dropWhile (p := isMargin) (l := line))
  rw [List.length_append, h] at hsplit
  unfold scanStatement at hscan
  simp only at hscan
  generalize line.dropWhile isMargin = body at hsplit hscan
  have helements : ∀ state' : ScanState, state'.openString = state.openString →
      (scanElements row line.length state' (line.takeWhile isMargin).length body).1.Began P :=
    fun state' hsame =>
      began_scanElements hrow _ (fun string hstring => hstate string (hsame ▸ hstring)) hsplit
  split at hscan
  · cases hscan
  split at hscan
  · cases hscan
    exact hstate
  split at hscan
  · cases hscan
    exact hstate
  split at hscan
  · cases hscan
    exact helements _ rfl
  split at hscan
  · cases hscan
  · cases hscan
    exact helements _ rfl

/-- A string that is open behind a line begins before the line or on it. -/
theorem began_scanLine {state : ScanState} (hstate : state.Began P) {line : List Char}
    (h : line.length = limit) {scan : LineScan} (hscan : scanLine state row line = .next scan) :
    scan.1.Began P := by
  have hnone : ∀ state' : ScanState, state'.openString = none → state'.Began P :=
    fun state' hstring => by rw [ScanState.Began, hstring]; exact nofun
  unfold scanLine at hscan
  split at hscan
  · cases hscan
    unfold scanString
    split
    case h_1 length hclose =>
      have hle := (closingLength?_le hclose).2
      refine began_scanElements hrow _ (hnone _ rfl) ?_
      rw [List.length_drop]
      omega
    split
    · exact hnone _ rfl
    · exact hstate
  case h_2 hopened =>
    split at hscan
    · exact began_scanStatement hrow hstate h hscan
    · cases hscan
      exact began_scanElements hrow _ (hnone { state with joined := false } hopened)
        ((Nat.zero_add _).trans h)

end Starts

section Tokens

/-- No comment is marked at the end of a source. -/
theorem kind_of_mem_closingMarks {state : ScanState} {row : Nat} {lastLine : List Char}
    {mark : Mark} (h : mark ∈ closingMarks state row lastLine) : mark.kind ≠ .comment := by
  simp only [closingMarks, List.mem_append] at h
  obtain (hend | hblock) | hend := h
  · split at hend
    · split at hend
      · rw [List.mem_singleton.1 hend]
        simp
      · cases hend
    · cases hend
  · rw [List.eq_of_mem_replicate hblock]
    simp
  · rw [List.mem_singleton.1 hend]
    simp

/-- The offsets of places on given lines: as many characters as there are before the line, and then
the column. -/
def IsOffset (offset : Place → Nat) (rows : List (List Char)) : Prop :=
  ∀ done line rest, rows = done ++ line :: rest → ∀ column ≤ line.length,
    offset ⟨done.length + 1, column⟩ = done.flatten.length + column

/-- The offsets of a source are those of places on its lines. -/
theorem isOffset_offsetOf (source : List Char) :
    IsOffset (offsetOf (lineOffsets source) source.length) (lines source) := by
  intro done line rest h column hcolumn
  have hlength := congrArg List.length (flatten_lines source)
  rw [h, List.flatten_append, List.flatten_cons, List.length_append, List.length_append] at hlength
  rw [offsetOf_eq, h, Nat.add_sub_cancel, List.take_left]
  exact Nat.min_eq_left (by show done.flatten.length + column ≤ _; omega)

/-- The parts that the rest of a scan makes, with what is left behind them. -/
theorem items_scanLines {offset : Place → Nat} {rows : List (List Char)}
    (hoffset : IsOffset offset rows) {done rest : List (List Char)} (h : rows = done ++ rest)
    {state : ScanState} (hstate : state.Began fun place => offset place ≤ done.flatten.length)
    {start : Nat} {front : List Char} (hfront : start + front.length = done.flatten.length)
    (lastLine : List Char) :
    items (fill offset ⟨start, front ++ rest.flatten⟩
        (scanLines state (done.length + 1) lastLine rest).marks).1 ++
      chars (fill offset ⟨start, front ++ rest.flatten⟩
        (scanLines state (done.length + 1) lastLine rest).marks).2.text =
      chars front ++ lineItems state (done.length + 1) rest := by
  -- The induction is over the lines. What is left of the line before is in front of the next one.
  induction rest generalizing done state start front lastLine with
  | nil =>
    -- Behind the last line there are no comments.
    have hclosing : ∀ mark ∈ (scanLines state (done.length + 1) lastLine []).marks,
        mark.kind ≠ .comment := by
      unfold scanLines
      split
      · exact List.forall_mem_nil _
      · split
        · exact fun mark => kind_of_mem_closingMarks
        · exact List.forall_mem_nil _
    rw [items_fill hclosing, lineItems, List.flatten_nil, List.append_nil, List.append_nil]
  | cons line rest ih =>
    have hline := hoffset done line rest h
    have horder := inOrder_scanLine hline hstate rfl
    rw [scanLines, lineItems]
    cases hscan : scanLine state (done.length + 1) line with
    | finished =>
      simp only
      rw [items_fill fun mark => kind_of_mem_closingMarks, chars_append]
    | failed marks fault =>
      rw [hscan] at horder
      obtain rfl : marks = [] := horder
      simp only
      rw [items_fill (List.forall_mem_nil _), chars_append]
    | next scan =>
      obtain ⟨state', marks⟩ := scan
      rw [hscan] at horder
      simp only
      obtain ⟨stop, left, hfill, hstop, hitems⟩ :=
        Advances.items_fill horder hfront (Nat.zero_add _) rest.flatten
      have hdone : (done ++ [line]).flatten.length = done.flatten.length + line.length := by
        rw [List.flatten_append, List.flatten_singleton, List.length_append]
      -- Only a string that was left open may have begun before the next line.
      have hbegan : state'.Began fun place => offset place ≤ (done ++ [line]).flatten.length := by
        refine began_scanLine ?_ ?_ rfl hscan
        · intro column hcolumn
          rw [hline column hcolumn.le, hdone]
          exact Nat.add_le_add_left hcolumn.le _
        · intro string hstring
          rw [hdone]
          exact Nat.le_add_right_of_le (hstate string hstring)
      have hrest := ih (List.append_cons .. ▸ h) hbegan (hstop.trans hdone.symm) line
      rw [List.length_append, List.length_singleton] at hrest
      rw [List.flatten_cons, fill_append]
      simp only [hfill]
      rw [items_append, List.append_assoc, hrest, ← List.append_assoc, hitems, List.append_assoc]

/-- The parts of a source are those of its lines. -/
theorem items_tokenize (source : String) :
    items (tokenize source).tokens = lineItems .start 1 (lines source.toList) := by
  have hlines := items_scanLines (isOffset_offsetOf source.toList) (List.nil_append _).symm
    (show ScanState.start.Began _ from nofun) (Nat.zero_add ([] : List Char).length) []
  rw [List.nil_append, flatten_lines] at hlines
  have hrest : items (tokenize source).rest.toList =
      chars (fill (offsetOf (lineOffsets source.toList) source.toList.length) ⟨0, source.toList⟩
        (scan source.toList).marks).2.text := by
    have hkind : ∀ token ∈ (tokenize source).rest.toList, token.kind ≠ .comment := by
      intro token htoken
      rw [(mem_rest htoken).1]
      split <;> exact nofun
    have htext := (concatText_ofMarks source.toList (scan source.toList)).trans
      (concatText_fill (offsetOf (lineOffsets source.toList) source.toList.length)
        ⟨0, source.toList⟩ (scan source.toList).marks).symm
    rw [Tokenized.tokens, concatText_append] at htext
    rw [items_eq_chars hkind]
    exact congrArg chars (List.append_cancel_left htext)
  rw [Tokenized.tokens, items_append, hrest]
  exact hlines

end Tokens

end Hashmark.Source
