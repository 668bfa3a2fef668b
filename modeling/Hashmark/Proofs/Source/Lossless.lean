import Hashmark.Source.Token

/-!
# Tokens make up the source

Cutting a token off a remainder moves text from the one to the other (`concatText_cut`), so that the
tokens of a source and what is left behind them make up the source, whatever marks a scan has found
(`concatText_ofMarks`). The marks may stand in any order, overlap, or lie beyond the source.

A scan that fails leaves one token more, which is the last (`tokens_cover`). It begins where the
marks have reached (`farthest`), and since it is no comment, no directive is found in it.
-/

namespace Hashmark.Source

/-- The text that tokens make up. -/
def concatText (tokens : List Token) : List Char :=
  tokens.flatMap fun token => token.text.toList

/-- Tokens behind others. -/
theorem concatText_append (tokens others : List Token) :
    concatText (tokens ++ others) = concatText tokens ++ concatText others :=
  List.flatMap_append

/-- A token in front of others. -/
theorem ofList_concatText_cons (token : Token) (tokens : List Token) :
    String.ofList (concatText (token :: tokens)) =
      token.text ++ String.ofList (concatText tokens) := by
  rw [concatText, List.flatMap_cons, String.ofList_append, String.ofList_toList]
  rfl

/-- A token cut off a remainder and what is left make up the remainder. -/
theorem concatText_cut (remainder : Remainder) (kind : Kind) (line stop : Nat) :
    concatText (remainder.cut kind line stop).1 ++ (remainder.cut kind line stop).2.text =
      remainder.text := by
  unfold Remainder.cut
  split
  · simp [concatText]
  · rfl

/-- The tokens that marks make of a remainder and what is left make up the remainder. -/
theorem concatText_fill (offset : Place → Nat) (remainder : Remainder) (marks : List Mark) :
    concatText (fill offset remainder marks).1 ++ (fill offset remainder marks).2.text =
      remainder.text := by
  induction marks generalizing remainder with
  | nil => rfl
  | cons mark marks ih =>
    have hgap := concatText_cut remainder .whitespace mark.start.row (offset mark.start)
    rw [fill]
    generalize remainder.cut .whitespace mark.start.row (offset mark.start) = cut at hgap ⊢
    obtain ⟨gap, behind⟩ := cut
    have hbody := concatText_cut behind mark.kind mark.start.row (offset mark.stop)
    simp only at hgap ⊢
    generalize behind.cut mark.kind mark.start.row (offset mark.stop) = cut at hbody ⊢
    obtain ⟨body, rest⟩ := cut
    have hrest := ih rest
    simp only at hbody ⊢
    rw [concatText_append, concatText_append, List.append_assoc, List.append_assoc, hrest, hbody,
      hgap]

/-- The tokens that marks make of a source make up the source. -/
theorem concatText_ofMarks (source : List Char) (scan : Scan) :
    concatText (ofMarks source scan).tokens = source := by
  have hfill := concatText_fill (offsetOf (lineOffsets source) source.length) ⟨0, source⟩ scan.marks
  simp only [ofMarks, Tokenized.tokens]
  generalize fill (offsetOf (lineOffsets source) source.length) ⟨0, source⟩ scan.marks = filled
    at hfill ⊢
  obtain ⟨tokens, remainder⟩ := filled
  simp only at hfill ⊢
  have hrest : concatText (if remainder.text.isEmpty then none else
      some (Token.mk (if scan.fault.isSome then .untokenized else .whitespace)
        (String.ofList remainder.text) (lineAfter (source.take remainder.offset)))).toList =
      remainder.text := by
    split
    case isTrue hempty => exact (List.isEmpty_iff.1 hempty).symm
    case isFalse => simp [concatText]
  rw [concatText_append, hrest, hfill]

/-- A character of a token is one of the source. -/
theorem mem_source_of_mem_token {source : String} {token : Token}
    (h : token ∈ (tokenize source).tokens) {c : Char} (hc : c ∈ token.text.toList) :
    c ∈ source.toList := by
  rw [← concatText_ofMarks source.toList (scan source.toList)]
  exact List.mem_flatMap.2 ⟨token, h, hc⟩

/-- The farthest offset at which marks begin or end, or `start` if none is farther. -/
def farthest (offset : Place → Nat) (start : Nat) (marks : List Mark) : Nat :=
  marks.foldl (fun reached mark => max (max reached (offset mark.start)) (offset mark.stop)) start

/-- The offset that the marks of a scan reach in its source. Where the scan fails, this is the point
of failure. -/
def reached (source : List Char) (scan : Scan) : Nat :=
  farthest (offsetOf (lineOffsets source) source.length) 0 scan.marks

/-- No place is beyond the end of a source. -/
theorem offsetOf_le (offsets : Array Nat) (size : Nat) (place : Place) :
    offsetOf offsets size place ≤ size :=
  Nat.min_le_right _ _

/-- The marks of a scan do not reach beyond the end of its source. -/
theorem farthest_le {offset : Place → Nat} {size start : Nat} {marks : List Mark}
    (hoffset : ∀ place, offset place ≤ size) (hstart : start ≤ size) :
    farthest offset start marks ≤ size := by
  induction marks generalizing start with
  | nil => exact hstart
  | cons mark marks ih =>
    have hbegin := hoffset mark.start
    have hend := hoffset mark.stop
    have hnext : max (max start (offset mark.start)) (offset mark.stop) ≤ size := by omega
    exact ih hnext

section Remainder

variable {source : List Char} {offset : Place → Nat} {remainder : Remainder}

/-- The text of a remainder is that of the source from its offset on. -/
def Remainder.IsOf (remainder : Remainder) (source : List Char) : Prop :=
  remainder.text = source.drop remainder.offset

/-- Making tokens of a mark and others: the gap before the mark, the text of the mark, and the
tokens of the others. -/
theorem fill_cons (offset : Place → Nat) (remainder : Remainder) (mark : Mark)
    (marks : List Mark) :
    fill offset remainder (mark :: marks) =
      let gap := remainder.cut .whitespace mark.start.row (offset mark.start)
      let body := gap.2.cut mark.kind mark.start.row (offset mark.stop)
      (gap.1 ++ body.1 ++ (fill offset body.2 marks).1, (fill offset body.2 marks).2) := rfl

/-- A cut moves the offset of a remainder forward or leaves it alone. -/
theorem offset_cut (remainder : Remainder) (kind : Kind) (line stop : Nat) :
    (remainder.cut kind line stop).2.offset = max remainder.offset stop := by
  unfold Remainder.cut
  split
  · show stop = _
    omega
  · show remainder.offset = _
    omega

/-- What is left of a remainder of a source is one. -/
theorem Remainder.IsOf.cut (h : remainder.IsOf source) (kind : Kind) (line stop : Nat) :
    (remainder.cut kind line stop).2.IsOf source := by
  unfold Remainder.cut
  split
  case isTrue hstop =>
    have hsum : remainder.offset + (stop - remainder.offset) = stop := by omega
    show remainder.text.drop _ = source.drop stop
    rw [h, List.drop_drop, hsum]
  case isFalse => exact h

/-- The marks decide where the remainder behind their tokens begins. -/
theorem offset_fill (marks : List Mark) :
    (fill offset remainder marks).2.offset = farthest offset remainder.offset marks := by
  induction marks generalizing remainder with
  | nil => rfl
  | cons mark marks ih =>
    rw [fill_cons]
    simp only
    rw [ih, offset_cut, offset_cut]
    rfl

/-- What is left behind the tokens of marks is a remainder of the source. -/
theorem Remainder.IsOf.fill (h : remainder.IsOf source) (offset : Place → Nat)
    (marks : List Mark) : (fill offset remainder marks).2.IsOf source := by
  induction marks generalizing remainder with
  | nil => exact h
  | cons mark marks ih => exact ih ((h.cut _ _ _).cut _ _ _)

/-- A token that is cut off has the kind that was asked for. -/
theorem kind_of_mem_cut {kind : Kind} {line stop : Nat} {token : Token}
    (h : token ∈ (remainder.cut kind line stop).1) : token.kind = kind := by
  unfold Remainder.cut at h
  split at h
  · rw [List.mem_singleton.1 h]
  · cases h

/-- A token that is cut off within the source is not empty. -/
theorem text_ne_of_mem_cut (hof : remainder.IsOf source) {kind : Kind} {line stop : Nat}
    (hstop : stop ≤ source.length) {token : Token} (h : token ∈ (remainder.cut kind line stop).1) :
    token.text ≠ "" := by
  unfold Remainder.cut at h
  split at h
  case isFalse => cases h
  case isTrue hlt =>
    have hlength : (remainder.text.take (stop - remainder.offset)).length ≠ 0 := by
      rw [hof, List.length_take, List.length_drop]
      omega
    rw [List.mem_singleton.1 h]
    intro hempty
    rw [String.ofList_eq_empty_iff.1 hempty] at hlength
    exact hlength rfl

/-- What is cut off between the ends of a comment that lies within a line has no line feed. -/
theorem notMem_cut {remainder : Remainder} (hof : remainder.IsOf source) {start stop : Nat}
    (hstart : start ≤ remainder.offset) (hline : '\n' ∉ (source.take stop).drop start) (kind : Kind)
    (line : Nat) {token : Token} (htoken : token ∈ (remainder.cut kind line stop).1) :
    '\n' ∉ token.text.toList := by
  unfold Remainder.cut at htoken
  split at htoken
  case isTrue hlt =>
    have hsum : start + (remainder.offset - start) = remainder.offset := by omega
    rw [List.mem_singleton.1 htoken, String.toList_ofList, hof, ← List.drop_take, ← hsum,
      ← List.drop_drop]
    exact fun hmem => hline (List.mem_of_mem_drop hmem)
  case isFalse => cases htoken

/-- What holds of each token that is cut off for one of the marks holds of all their tokens. The text
of a mark is cut off where the gap in front of it ends or behind that. -/
theorem forall_mem_fill {P : Token → Prop} {marks : List Mark} (hof : remainder.IsOf source)
    (hgap : ∀ mark ∈ marks, ∀ rest : Remainder, rest.IsOf source →
      ∀ token ∈ (rest.cut .whitespace mark.start.row (offset mark.start)).1, P token)
    (hbody : ∀ mark ∈ marks, ∀ rest : Remainder, rest.IsOf source →
      offset mark.start ≤ rest.offset →
        ∀ token ∈ (rest.cut mark.kind mark.start.row (offset mark.stop)).1, P token) :
    ∀ token ∈ (fill offset remainder marks).1, P token := by
  induction marks generalizing remainder with
  | nil => exact fun _ h => nomatch h
  | cons mark marks ih =>
    intro token htoken
    rw [fill_cons, List.mem_append, List.mem_append] at htoken
    rcases htoken with (hmem | hmem) | hmem
    · exact hgap mark List.mem_cons_self _ hof token hmem
    · have hoffset := offset_cut remainder .whitespace mark.start.row (offset mark.start)
      exact hbody mark List.mem_cons_self _ (hof.cut _ _ _) (hoffset ▸ Nat.le_max_right _ _) token
        hmem
    · exact ih ((hof.cut _ _ _).cut _ _ _) (fun other hother => hgap other (.tail _ hother))
        (fun other hother => hbody other (.tail _ hother)) token hmem

end Remainder

section Kinds

/-- None of these marks says that text is untokenized. -/
def Tokenizes (marks : List Mark) : Prop :=
  ∀ mark ∈ marks, mark.kind ≠ .untokenized

/-- A further mark in front of those of a line. -/
theorem Tokenizes.withMark {line : LineScan} (h : Tokenizes line.2) {kind : Kind}
    (hkind : kind ≠ .untokenized) (row first last : Nat) :
    Tokenizes (line.withMark kind row first last).2 := by
  intro mark hmark
  rcases List.mem_cons.1 hmark with rfl | hmark
  · exact hkind
  · exact h mark hmark

/-- Marks behind others. -/
theorem Tokenizes.append {marks others : List Mark} (h : Tokenizes marks)
    (h' : Tokenizes others) : Tokenizes (marks ++ others) := by
  intro mark hmark
  rcases List.mem_append.1 hmark with hmark | hmark
  · exact h mark hmark
  · exact h' mark hmark

/-- The elements of a line are tokenized. -/
theorem tokenizes_scanElements (row fuel : Nat) (state : ScanState) (column : Nat)
    (cs : List Char) : Tokenizes (scanElements row fuel state column cs).2 := by
  induction fuel generalizing state column cs with
  | zero => exact fun _ h => nomatch h
  | succ fuel ih =>
    unfold scanElements
    simp only
    split
    · exact fun _ h => nomatch h
    · split
      · exact (ih _ _ _).withMark Kind.noConfusion _ _ _
      · split
        · exact ih _ _ _
        · exact (ih _ _ _).withMark Kind.noConfusion _ _ _
        · exact (ih _ _ _).withMark Kind.noConfusion _ _ _
        · exact (ih _ _ _).withMark Kind.noConfusion _ _ _
        · refine (ih _ _ _).withMark ?_ _ _ _
          split <;> exact Kind.noConfusion
        · exact (ih _ _ _).withMark Kind.noConfusion _ _ _
        · refine (ih _ _ _).withMark ?_ _ _ _
          split <;> exact Kind.noConfusion
        · split
          · exact (ih _ _ _).withMark Kind.noConfusion _ _ _
          · exact fun _ h => nomatch h
        · exact fun _ h => nomatch h

/-- A line within an open string is tokenized. -/
theorem tokenizes_scanString (state : ScanState) (row : Nat) (line : List Char)
    (opened : OpenString) : Tokenizes (scanString state row line opened).2 := by
  unfold scanString
  split
  · intro mark hmark
    rcases List.mem_cons.1 hmark with rfl | hmark
    · exact Kind.noConfusion
    · exact tokenizes_scanElements _ _ _ _ _ mark hmark
  · split
    · intro mark hmark
      rw [List.mem_singleton.1 hmark]
      exact Kind.noConfusion
    · exact fun _ h => nomatch h

/-- What comes of a line is tokenized. -/
def LineResult.IsTokenized : LineResult → Prop
  | .next scan => Tokenizes scan.2
  | .finished => True
  | .failed marks _ => Tokenizes marks

/-- A line that begins a statement is tokenized. -/
theorem isTokenized_scanStatement (state : ScanState) (row : Nat) (line : List Char) :
    (scanStatement state row line).IsTokenized := by
  unfold scanStatement
  simp only
  split
  · trivial
  · split
    · -- A comment and the line end behind it.
      intro mark hmark
      rcases List.mem_cons.1 hmark with rfl | hmark
      · exact Kind.noConfusion
      · rw [List.mem_singleton.1 hmark]
        exact Kind.noConfusion
    · split
      · intro mark hmark
        rw [List.mem_singleton.1 hmark]
        exact Kind.noConfusion
      · split
        · exact (tokenizes_scanElements _ _ _ _ _).withMark Kind.noConfusion _ _ _
        · split
          · exact fun _ h => nomatch h
          · refine Tokenizes.append ?_ (tokenizes_scanElements _ _ _ _ _)
            intro mark hmark
            rw [List.eq_of_mem_replicate hmark]
            exact Kind.noConfusion

/-- A line is tokenized. -/
theorem isTokenized_scanLine (state : ScanState) (row : Nat) (line : List Char) :
    (scanLine state row line).IsTokenized := by
  unfold scanLine
  split
  · exact tokenizes_scanString _ _ _ _
  · split
    · exact isTokenized_scanStatement _ _ _
    · exact tokenizes_scanElements _ _ _ _ _

/-- The end of a source is tokenized. -/
theorem tokenizes_closingMarks (state : ScanState) (row : Nat) (lastLine : List Char) :
    Tokenizes (closingMarks state row lastLine) := by
  intro mark hmark
  simp only [closingMarks, List.mem_append] at hmark
  rcases hmark with (hmark | hmark) | hmark
  · split at hmark
    · split at hmark
      · rw [List.mem_singleton.1 hmark]
        exact Kind.noConfusion
      · cases hmark
    · cases hmark
  · rw [List.eq_of_mem_replicate hmark]
    exact Kind.noConfusion
  · rw [List.mem_singleton.1 hmark]
    exact Kind.noConfusion

/-- Lines are tokenized. -/
theorem tokenizes_scanLines (state : ScanState) (row : Nat) (lastLine : List Char)
    (lines : List (List Char)) : Tokenizes (scanLines state row lastLine lines).marks := by
  induction lines generalizing state row lastLine with
  | nil =>
    unfold scanLines
    split
    · exact fun _ h => nomatch h
    · split
      · exact tokenizes_closingMarks _ _ _
      · exact fun _ h => nomatch h
  | cons line lines ih =>
    have hline := isTokenized_scanLine state row line
    unfold scanLines
    split
    case h_1 => exact tokenizes_closingMarks _ _ _
    case h_2 heq =>
      rw [heq] at hline
      exact hline
    case h_3 heq =>
      rw [heq] at hline
      exact hline.append (ih _ _ _)

end Kinds

/-- Tokens that make up a source, of which a scan has found all but those that it leaves behind. -/
structure Covers (source : List Char) (scan : Scan) (tokens : List Token) : Prop where
  /-- No token is empty. -/
  text_ne : ∀ token ∈ tokens, token.text ≠ ""
  /-- The tokens make up the source. -/
  concatText_eq : concatText tokens = source
  /-- Text is untokenized only if the scan failed; it is the last token then, and all that follows
  the point of failure. -/
  untokenized : ∀ token ∈ tokens, token.kind = .untokenized →
    scan.fault.isSome = true ∧ tokens.getLast? = some token ∧
      token.text.toList = source.drop (reached source scan)
  /-- At most one token is untokenized. -/
  untokenized_unique : tokens.countP (fun token => token.kind = .untokenized) ≤ 1
  /-- A comment that may hold a directive ends where the marks have reached at most, so that none
  lies at the point of failure or behind it. -/
  candidate : ∀ before token after, tokens = before ++ token :: after → token.isCandidate = true →
    (concatText before).length + token.text.length ≤ reached source scan

section OfMarks

variable {source : List Char} {scan : Scan}

/-- What the marks leave behind their tokens is the source from where they have reached. -/
theorem fill_snd (source : List Char) (scan : Scan) :
    (fill (offsetOf (lineOffsets source) source.length) ⟨0, source⟩ scan.marks).2 =
      ⟨reached source scan, source.drop (reached source scan)⟩ := by
  have hof : Remainder.IsOf ⟨0, source⟩ source := rfl
  have htext := hof.fill (offsetOf (lineOffsets source) source.length) scan.marks
  have hoffset :
      (fill (offsetOf (lineOffsets source) source.length) ⟨0, source⟩ scan.marks).2.offset =
        reached source scan := offset_fill scan.marks
  generalize (fill (offsetOf (lineOffsets source) source.length) ⟨0, source⟩ scan.marks).2 = rest
    at htext hoffset
  calc rest = ⟨rest.offset, rest.text⟩ := rfl
    _ = ⟨reached source scan, source.drop (reached source scan)⟩ := by rw [htext, hoffset]

/-- The tokens that marks make end where the marks have reached. -/
theorem length_concatText_scanned (source : List Char) (scan : Scan) :
    (concatText (ofMarks source scan).scanned).length = reached source scan := by
  have hle : reached source scan ≤ source.length :=
    farthest_le (offsetOf_le _ _) (Nat.zero_le _)
  have htext := concatText_fill (offsetOf (lineOffsets source) source.length) ⟨0, source⟩
    scan.marks
  rw [fill_snd] at htext
  have hlength := congrArg List.length htext
  simp only [List.length_append, List.length_drop] at hlength
  show (concatText (fill _ _ _).1).length = _
  omega

/-- The token behind the last mark has the text that follows, and is untokenized if the scan
failed. -/
theorem mem_rest {token : Token} (h : token ∈ (ofMarks source scan).rest.toList) :
    token.kind = (if scan.fault.isSome then .untokenized else .whitespace) ∧ token.text ≠ "" ∧
      token.text.toList = source.drop (reached source scan) := by
  have hsnd := fill_snd source scan
  simp only [ofMarks, Option.mem_toList] at h
  rw [hsnd] at h
  split at h
  · cases h
  case isFalse hempty =>
    obtain rfl := Option.some.inj h
    refine ⟨rfl, ?_, String.toList_ofList⟩
    intro htext
    rw [String.ofList_eq_empty_iff.1 htext] at hempty
    exact hempty rfl

/-- The tokens that marks make are not empty. -/
theorem text_ne_of_mem_scanned {token : Token} (h : token ∈ (ofMarks source scan).scanned) :
    token.text ≠ "" := by
  have hof : Remainder.IsOf ⟨0, source⟩ source := rfl
  exact forall_mem_fill (P := fun token => token.text ≠ "") hof
    (fun _ _ _ hrest _ => text_ne_of_mem_cut hrest (offsetOf_le _ _ _))
    (fun _ _ _ hrest _ _ => text_ne_of_mem_cut hrest (offsetOf_le _ _ _)) token h

/-- The tokens that marks make are tokenized. -/
theorem kind_ne_of_mem_scanned (hmarks : Tokenizes scan.marks) {token : Token}
    (h : token ∈ (ofMarks source scan).scanned) : token.kind ≠ .untokenized := by
  have hof : Remainder.IsOf ⟨0, source⟩ source := rfl
  refine forall_mem_fill (P := fun token => token.kind ≠ .untokenized) hof ?_ ?_ token h
  · intro mark _ rest _ token htoken
    rw [kind_of_mem_cut htoken]
    exact Kind.noConfusion
  · intro mark hmark rest _ _ token htoken
    rw [kind_of_mem_cut htoken]
    exact hmarks mark hmark

/-- The token behind the last mark is no comment. -/
theorem isCandidate_of_mem_rest {token : Token} (h : token ∈ (ofMarks source scan).rest.toList) :
    token.isCandidate = false := by
  have hkind : token.kind ≠ .comment := by
    rw [(mem_rest h).1]
    split <;> exact Kind.noConfusion
  rw [Token.isCandidate, decide_eq_false hkind, Bool.false_and]

/-- What stands before a comment that may hold a directive, and the comment itself, are tokens that
marks make. -/
theorem prefix_of_candidate {before after : List Token} {token : Token}
    (h : (ofMarks source scan).tokens = before ++ token :: after) (hc : token.isCandidate = true) :
    before ++ [token] <+: (ofMarks source scan).scanned := by
  have hsplit : (before ++ [token]) ++ after =
      (ofMarks source scan).scanned ++ (ofMarks source scan).rest.toList := by
    rw [List.append_assoc]
    exact h.symm
  rcases List.append_eq_append_iff.1 hsplit with ⟨more, hmore, -⟩ | ⟨more, hmore, hrest⟩
  · exact ⟨more, hmore.symm⟩
  · cases more with
    | nil => exact ⟨[], by rw [hmore, List.append_nil, List.append_nil]⟩
    | cons first more =>
      -- The comment would be the token behind the last mark.
      have hlast : (first :: more).getLast? = some token := by
        have hboth := congrArg List.getLast? hmore
        rw [List.getLast?_concat, List.getLast?_append, List.getLast?_cons, Option.some_or] at hboth
        rw [List.getLast?_cons]
        exact hboth.symm
      have hmem : token ∈ (ofMarks source scan).rest.toList := by
        rw [hrest]
        exact List.mem_append_left _ (List.mem_of_getLast? hlast)
      rw [isCandidate_of_mem_rest hmem] at hc
      exact absurd hc Bool.false_ne_true

/-- The tokens that marks make of a source, and the token behind them, cover it. -/
theorem covers_ofMarks (hmarks : Tokenizes scan.marks) :
    Covers source scan (ofMarks source scan).tokens where
  text_ne token htoken := by
    rcases List.mem_append.1 htoken with hscanned | hrest
    · exact text_ne_of_mem_scanned hscanned
    · exact (mem_rest hrest).2.1
  concatText_eq := concatText_ofMarks source scan
  untokenized token htoken hkind := by
    rcases List.mem_append.1 htoken with hscanned | hrest
    · exact absurd hkind (kind_ne_of_mem_scanned hmarks hscanned)
    · obtain ⟨hkind', -, htext⟩ := mem_rest hrest
      have hlast : (ofMarks source scan).tokens.getLast? = some token := by
        rw [Tokenized.tokens, Option.mem_toList.1 hrest, Option.toList_some, List.getLast?_concat]
      cases hfault : scan.fault.isSome with
      | true => exact ⟨rfl, hlast, htext⟩
      | false =>
        rw [hkind, hfault] at hkind'
        cases hkind'
  untokenized_unique := by
    have hscanned : (ofMarks source scan).scanned.countP (fun token => token.kind = .untokenized) =
        0 := by
      refine List.countP_eq_zero.2 fun token htoken => ?_
      simpa using kind_ne_of_mem_scanned hmarks htoken
    have hrest : (ofMarks source scan).rest.toList.length ≤ 1 := by
      cases (ofMarks source scan).rest <;> simp
    rw [Tokenized.tokens, List.countP_append, hscanned, Nat.zero_add]
    exact Nat.le_trans List.countP_le_length hrest
  -- The texts up to the token are no longer than what was scanned, of which they are a prefix.
  candidate before token after hsplit hc := by
    have hlength := length_concatText_scanned source scan
    obtain ⟨more, hmore⟩ := prefix_of_candidate hsplit hc
    rw [← hmore, concatText_append, concatText_append, List.length_append,
      List.length_append] at hlength
    have htoken : (concatText [token]).length = token.text.length := by
      simp [concatText, String.length_toList]
    omega

end OfMarks

/-- Whatever marks a scan reports before it ends or fails, in any order, overlapping, or beyond the
source, the tokens made of them cover the source. The marks that the scan of a text reports are no
exception. -/
theorem tokens_cover :
    (∀ (source : List Char) (scan : Scan), (∀ mark ∈ scan.marks, mark.kind ≠ .untokenized) →
      Covers source scan (ofMarks source scan).tokens) ∧
    ∀ text : String, Covers text.toList (scan text.toList) (tokenize text).tokens :=
  ⟨fun _ _ hmarks => covers_ofMarks hmarks,
    fun _ => covers_ofMarks (tokenizes_scanLines _ _ _ _)⟩

/-- Marks that go back and overlap, before the scan fails within a line. -/
theorem tokens_cover_disorder :
    Covers "#a b\n#else".toList
        ⟨[⟨.comment, ⟨1, 0⟩, ⟨1, 2⟩⟩, ⟨.name, ⟨1, 3⟩, ⟨1, 1⟩⟩, ⟨.number, ⟨1, 1⟩, ⟨1, 4⟩⟩],
          some .openStatement⟩
        [⟨.comment, "#a", 1⟩, ⟨.whitespace, " ", 1⟩, ⟨.number, "b", 1⟩,
          ⟨.untokenized, "\n#else", 1⟩] :=
  tokens_cover.1 "#a b\n#else".toList
    ⟨[⟨.comment, ⟨1, 0⟩, ⟨1, 2⟩⟩, ⟨.name, ⟨1, 3⟩, ⟨1, 1⟩⟩, ⟨.number, ⟨1, 1⟩, ⟨1, 4⟩⟩],
      some .openStatement⟩ (by decide)

end Hashmark.Source
