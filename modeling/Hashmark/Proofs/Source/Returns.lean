import Mathlib.Data.List.Forall2
import Hashmark.Proofs.Source.Finding
import Hashmark.Proofs.Source.Items
import Hashmark.Proofs.Source.LineEnds

/-!
# Sources with carriage returns

The tokens of a source whose line feeds have carriage returns in front of them are those of the
source, with carriage returns in their texts (`tokenize_withReturns`), and none of its comments has a
line feed in it.

The scans of the two sources go side by side, line by line. What they know between two lines is the
same but for where an open string begins, and they make the same marks at places that correspond
(`Place.Along`): a place on the same row that has as many characters in front of it as the text up to
the place has, with its carriage returns. Within a line the places are the same (`Row.within`), and
the end of one line corresponds to that of the other (`Row.behind`).
-/

namespace Hashmark.Source

/-- How many characters of a source precede a place. -/
def offsetIn (source : List Char) (place : Place) : ℕ :=
  offsetOf (lineOffsets source) source.length place

/-- A place in a source, and the corresponding one with carriage returns. -/
structure Place.Along (source : List Char) (place other : Place) : Prop where
  /-- The row is the same. -/
  row : other.row = place.row
  /-- The text before it is the same but for its carriage returns. -/
  offset : offsetIn (withReturns source) other =
    (withReturns (source.take (offsetIn source place))).length

/-- A mark on a source, and the corresponding one with carriage returns. -/
structure Mark.Along (source : List Char) (mark other : Mark) : Prop where
  /-- The kind is the same. -/
  kind : mark.kind = other.kind
  /-- The beginnings correspond. -/
  start : mark.start.Along source other.start
  /-- The ends correspond. -/
  stop : mark.stop.Along source other.stop
  /-- A comment lies within a line. -/
  comment : mark.kind = .comment →
    '\n' ∉ (source.take (offsetIn source mark.stop)).drop (offsetIn source mark.start)

/-- An open string, and the corresponding one with carriage returns. -/
structure OpenString.Along (source : List Char) (opened other : OpenString) : Prop where
  /-- The quote is one. -/
  isQuote : opened.quote = '\'' ∨ opened.quote = '"'
  /-- The quote is the same. -/
  quote : opened.quote = other.quote
  /-- There are as many quotes. -/
  triple : opened.triple = other.triple
  /-- The beginnings correspond. -/
  start : opened.start.Along source other.start

/-- States of a scan that are the same, but for where an open string begins. -/
structure ScanState.Along (source : List Char) (state other : ScanState) : Prop where
  /-- The depth is the same. -/
  depth : state.depth = other.depth
  /-- Both join the next line, or neither does. -/
  joined : state.joined = other.joined
  /-- The open strings correspond. -/
  openString : Option.Rel (OpenString.Along source) state.openString other.openString
  /-- Both ask for a backslash, or neither does. -/
  strict : state.strict = other.strict
  /-- The same blocks are open. -/
  blocks : state.blocks = other.blocks

/-- What is found on a line, and on the corresponding one. -/
structure LineScan.Along (source : List Char) (scan other : LineScan) : Prop where
  /-- The states correspond. -/
  state : scan.1.Along source other.1
  /-- The marks correspond. -/
  marks : List.Forall₂ (Mark.Along source) scan.2 other.2

/-- What comes of a line, and of the corresponding one. -/
inductive LineResult.Along (source : List Char) : LineResult → LineResult → Prop
  /-- Both scans go on. -/
  | next {scan other : LineScan} (h : scan.Along source other) :
      Along source (.next scan) (.next other)
  /-- Both sources have only blanks left. -/
  | finished : Along source .finished .finished
  /-- Both scans fail for the same reason. -/
  | failed {marks others : List Mark} (fault : ScanFault)
      (h : List.Forall₂ (Mark.Along source) marks others) :
      Along source (.failed marks fault) (.failed others fault)

/-- What a scan reports of a source, and of the corresponding one. -/
structure Scan.Along (source : List Char) (scan other : Scan) : Prop where
  /-- The marks correspond. -/
  marks : List.Forall₂ (Mark.Along source) scan.marks other.marks
  /-- Both scans fail for the same reason, or neither does. -/
  fault : scan.fault = other.fault

/-- A part of a line from this column on, up to its end, in a source: the text before the line end,
and the two ways to end it. -/
structure Row (source : List Char) (row column : ℕ) (body e e' : List Char) : Prop where
  /-- The line ends in either way. -/
  ends : AreEndings e e'
  /-- The text before the line end has none. -/
  plain : IsPlain body
  /-- The places before the line end correspond to themselves. -/
  within : ∀ k ≤ body.length, Place.Along source ⟨row, column + k⟩ ⟨row, column + k⟩
  /-- The end of the line corresponds to that of the other. -/
  behind : Place.Along source ⟨row, column + (body ++ e).length⟩ ⟨row, column + (body ++ e').length⟩
  /-- No line end is before the line end. -/
  inline : ∀ j k, j ≤ k → k ≤ body.length →
    '\n' ∉ (source.take (offsetIn source ⟨row, column + k⟩)).drop
      (offsetIn source ⟨row, column + j⟩)

section Scan

variable {source : List Char} {row column : ℕ} {body e e' : List Char} {state other : ScanState}

/-- The part of a line that begins later. -/
theorem Row.drop (h : Row source row column body e e') {n : ℕ} (hn : n ≤ body.length) :
    Row source row (column + n) (body.drop n) e e' where
  ends := h.ends
  plain := h.plain.drop n
  within k hk := by
    rw [List.length_drop] at hk
    rw [Nat.add_assoc]
    exact h.within (n + k) (by omega)
  behind := by
    have hsize : ∀ z : List Char,
        column + n + (body.drop n ++ z).length = column + (body ++ z).length := by
      intro z
      rw [List.length_append, List.length_append, List.length_drop]
      omega
    rw [hsize, hsize]
    exact h.behind
  inline j k hjk hk := by
    rw [List.length_drop] at hk
    rw [Nat.add_assoc, Nat.add_assoc]
    exact h.inline (n + j) (n + k) (by omega) (by omega)

/-- A mark before the line end. -/
theorem Row.mark (h : Row source row column body e e') (kind : Kind) {j k : ℕ} (hjk : j ≤ k)
    (hk : k ≤ body.length) :
    Mark.Along source ⟨kind, ⟨row, column + j⟩, ⟨row, column + k⟩⟩
      ⟨kind, ⟨row, column + j⟩, ⟨row, column + k⟩⟩ :=
  ⟨rfl, h.within j (hjk.trans hk), h.within k hk, fun _ => h.inline j k hjk hk⟩

/-- A mark that reaches to the end of the line. -/
theorem Row.markBehind (h : Row source row column body e e') (kind : Kind) (hkind : kind ≠ .comment)
    {j : ℕ} (hj : j ≤ body.length) :
    Mark.Along source ⟨kind, ⟨row, column + j⟩, ⟨row, column + (body ++ e).length⟩⟩
      ⟨kind, ⟨row, column + j⟩, ⟨row, column + (body ++ e').length⟩⟩ :=
  ⟨rfl, h.within j hj, h.behind, fun heq => absurd heq hkind⟩

/-- A further mark in front of those of a line. -/
theorem LineScan.Along.withMark {scan scan' : LineScan} (h : scan.Along source scan') {kind : Kind}
    {first last last' : ℕ}
    (hmark : Mark.Along source ⟨kind, ⟨row, first⟩, ⟨row, last⟩⟩ ⟨kind, ⟨row, first⟩, ⟨row, last'⟩⟩) :
    (scan.withMark kind row first last).Along source (scan'.withMark kind row first last') :=
  ⟨h.state, .cons hmark h.marks⟩

/-- The blanks of a line are those before its end. -/
theorem margin_ending (he : IsLineEnd e) (body : List Char) :
    (body ++ e).takeWhile isMargin = body.takeWhile isMargin ∧
      (body ++ e).dropWhile isMargin = body.dropWhile isMargin ++ e := by
  induction body with
  | nil => obtain rfl | rfl | rfl := he <;> exact ⟨rfl, rfl⟩
  | cons c body ih =>
    rw [List.cons_append]
    by_cases hc : isMargin c = true
    · simp only [List.takeWhile_cons_of_pos hc, List.dropWhile_cons_of_pos hc, ih]
      exact ⟨trivial, trivial⟩
    · simp only [List.takeWhile_cons_of_neg hc, List.dropWhile_cons_of_neg hc, List.cons_append]
      exact ⟨trivial, trivial⟩

/-- The blanks at the beginning of a line, before its end, are a part of it. -/
theorem margin_length (body : List Char) :
    (body.takeWhile isMargin).length ≤ body.length ∧
      body.drop (body.takeWhile isMargin).length = body.dropWhile isMargin := by
  have hsplit := List.takeWhile_append_dropWhile (p := isMargin) (l := body)
  have hleft : (body.takeWhile isMargin ++ body.dropWhile isMargin).drop
      (body.takeWhile isMargin).length = body.dropWhile isMargin := List.drop_left
  rw [hsplit] at hleft
  exact ⟨(List.takeWhile_prefix _).length_le, hleft⟩

/-- A state that differs only in depth, and one that differs alike. -/
theorem ScanState.Along.withDepth (h : state.Along source other) (change : ℤ) :
    ScanState.Along source { state with depth := state.depth + change }
      { other with depth := other.depth + change } :=
  ⟨congrArg (· + change) h.depth, h.joined, h.openString, h.strict, h.blocks⟩

/-- The part of a line behind its blanks. -/
theorem Row.behindMargin (h : Row source row column body e e') :
    Row source row (column + (body.takeWhile isMargin).length) (body.dropWhile isMargin) e e' := by
  obtain ⟨hblanks, hdrop⟩ := margin_length body
  have hlate := h.drop hblanks
  rwa [hdrop] at hlate

/-- Both lines have the same blanks in front, and the same behind them up to the line ends. -/
theorem Row.behindBlanks (h : Row source row column body e e') {c : Char} {rest : List Char}
    (hbody : body.dropWhile isMargin = c :: rest) :
    ((body ++ e).takeWhile isMargin).length = (body.takeWhile isMargin).length ∧
      ((body ++ e').takeWhile isMargin).length = (body.takeWhile isMargin).length ∧
      (body ++ e).dropWhile isMargin = c :: (rest ++ e) ∧
      (body ++ e').dropWhile isMargin = c :: (rest ++ e') ∧
      Row source row (column + (body.takeWhile isMargin).length) (c :: rest) e e' := by
  obtain ⟨hmargin, hbehind⟩ := margin_ending h.ends.isLineEnd body
  obtain ⟨hmargin', hbehind'⟩ := margin_ending h.ends.isLineEnd' body
  rw [hbody, List.cons_append] at hbehind hbehind'
  exact ⟨congrArg List.length hmargin, congrArg List.length hmargin', hbehind, hbehind',
    hbody ▸ h.behindMargin⟩

/-- Scans that go on behind the beginning of a part of a line go on alike. -/
def GoOnAlike (source : List Char) (row fuel fuel' column : ℕ) (y e e' : List Char) : Prop :=
  ∀ n, 0 < n → n ≤ y.length → ∀ state other : ScanState, state.Along source other →
    LineScan.Along source (scanElements row fuel state (column + n) ((y ++ e).drop n))
      (scanElements row fuel' other (column + n) ((y ++ e').drop n))

section Element

variable {fuel fuel' n : ℕ} {c : Char} {rest : List Char} {lexeme : Lexeme}

/-- Where only blanks stand before the line end, it is found alike. -/
theorem scanElements_along_blank (h : Row source row column body e e')
    (hblank : body.dropWhile isMargin = []) (hfuel : (body ++ e).length ≤ fuel)
    (hfuel' : (body ++ e').length ≤ fuel') (hstate : state.Along source other) :
    LineScan.Along source (scanElements row fuel state column (body ++ e))
      (scanElements row fuel' other column (body ++ e')) := by
  obtain ⟨hmargin, hbehind⟩ := margin_ending h.ends.isLineEnd body
  obtain ⟨hmargin', hbehind'⟩ := margin_ending h.ends.isLineEnd' body
  have hcount := congrArg List.length hmargin
  have hcount' := congrArg List.length hmargin'
  have hall : body.takeWhile isMargin = body := by
    have hsplit := List.takeWhile_append_dropWhile (p := isMargin) (l := body)
    rwa [hblank, List.append_nil] at hsplit
  rw [hblank, List.nil_append] at hbehind hbehind'
  rw [hall] at hcount hcount'
  obtain ⟨rfl, rfl⟩ | ⟨rfl, rfl⟩ := h.ends
  · have hnone := List.dropWhile_eq_nil_iff.1 hbehind
    rw [scanElements_blank hnone, scanElements_blank hnone]
    exact ⟨hstate, .nil⟩
  · have hfeed : lexeme? ['\n'] = some (.lineEnd, 1) := rfl
    have hreturn : lexeme? ['\r', '\n'] = some (.lineEnd, 2) := rfl
    have hnone : ∀ c ∈ ([] : List Char), isMargin c = true := nofun
    have hmark := h.markBehind (if 0 < other.depth then .lineBreak else .newline)
      (by split <;> exact nofun) (Nat.le_refl body.length)
    rw [List.length_append] at hfuel hfuel'
    obtain ⟨fuel, rfl⟩ : ∃ n, fuel = n + 1 := ⟨fuel - 1, by simp at hfuel; omega⟩
    obtain ⟨fuel', rfl⟩ : ∃ n, fuel' = n + 1 := ⟨fuel' - 1, by simp at hfuel'; omega⟩
    simp only [scanElements, hbehind, hbehind', hcount, hcount', hfeed, hreturn,
      List.drop_succ_cons, List.drop_zero, scanElements_blank hnone, hstate.depth]
    rw [List.length_append, List.length_append] at hmark
    exact LineScan.Along.withMark ⟨hstate, .nil⟩ hmark

/-- A string in three quotes that begins before the line end is closed or left open alike. -/
theorem scanElements_along_tripleQuote (h : Row source row column body e e')
    (hbody : body.dropWhile isMargin = c :: rest) {quote : Char}
    (hfound : lexeme? (c :: rest ++ e) = some (.tripleQuote quote, n))
    (hfound' : lexeme? (c :: rest ++ e') = some (.tripleQuote quote, n))
    (hn : n ≤ (c :: rest).length)
    (hnext : GoOnAlike source row fuel fuel' (column + (body.takeWhile isMargin).length) (c :: rest)
      e e') (hstate : state.Along source other) :
    LineScan.Along source (scanElements row (fuel + 1) state column (body ++ e))
      (scanElements row (fuel' + 1) other column (body ++ e')) := by
  obtain ⟨hcount, hcount', hbehind, hbehind', hlate⟩ := h.behindBlanks hbody
  have hform := form_of_lexeme? hfound
  have hlong := (lexeme?_le hfound).1
  obtain ⟨hsame, hwithin⟩ := closingLength?_ending hform true (hlate.plain.drop n) h.ends
  rw [← List.drop_append_of_le_length hn, ← List.drop_append_of_le_length hn,
    List.cons_append, List.cons_append] at hsame
  rw [← List.drop_append_of_le_length hn, List.cons_append] at hwithin
  rw [List.cons_append] at hfound hfound'
  simp only [scanElements, hbehind, hbehind', hcount, hcount', hfound, hfound', hsame]
  cases hclose : closingLength? quote true ((c :: (rest ++ e)).drop n) with
  | some more =>
    have hmore := hwithin more hclose
    rw [List.length_drop] at hmore
    have hend : n + more ≤ (c :: rest).length := by omega
    have hlast := hnext (n + more) (by omega) hend _ _ hstate
    have hstring := hlate.mark .string (Nat.zero_le _) hend
    rw [← Nat.add_assoc] at hlast hstring
    simp only [List.drop_drop]
    exact hlast.withMark hstring
  | none =>
    exact ⟨⟨hstate.depth, hstate.joined, .some ⟨hform, rfl, rfl, hlate.within 0 (Nat.zero_le _)⟩,
      hstate.strict, hstate.blocks⟩, .nil⟩

/-- An element before the line end is found alike, if the scans go on alike behind it. -/
theorem scanElements_along_element (h : Row source row column body e e')
    (hbody : body.dropWhile isMargin = c :: rest)
    (hfound : lexeme? (c :: rest ++ e) = some (lexeme, n))
    (hfound' : lexeme? (c :: rest ++ e') = some (lexeme, n)) (hn : n ≤ (c :: rest).length)
    (hnext : GoOnAlike source row fuel fuel' (column + (body.takeWhile isMargin).length) (c :: rest)
      e e') (hstate : state.Along source other) :
    LineScan.Along source (scanElements row (fuel + 1) state column (body ++ e))
      (scanElements row (fuel' + 1) other column (body ++ e')) := by
  obtain ⟨hcount, hcount', hbehind, hbehind', hlate⟩ := h.behindBlanks hbody
  have hon := hnext n (lexeme?_le hfound).1 hn
  have hmark := fun kind => hlate.mark kind (Nat.zero_le n) hn
  -- What the element is made of is in front of the line end.
  have htake : ∀ z, (c :: (rest ++ z)).take n = (c :: rest).take n := by
    intro z
    rw [← List.cons_append, List.take_append_of_le_length hn]
  cases lexeme with
  | tripleQuote quote => exact scanElements_along_tripleQuote h hbody hfound hfound' hn hnext hstate
  -- The string begins at corresponding places and is left open.
  | brokenString quote =>
    have hform := form_of_lexeme? hfound
    rw [List.cons_append] at hfound hfound'
    simp only [scanElements, hbehind, hbehind', hcount, hcount', hfound, hfound']
    exact ⟨⟨hstate.depth, hstate.joined, .some ⟨hform, rfl, rfl, hlate.within 0 (Nat.zero_le _)⟩,
      rfl, hstate.blocks⟩, .nil⟩
  | join =>
    rw [List.cons_append] at hfound hfound'
    simp only [scanElements, hbehind, hbehind', hcount, hcount', hfound, hfound']
    exact hon _ _ ⟨hstate.depth, rfl, hstate.openString, hstate.strict, hstate.blocks⟩
  | comment | number | string | word =>
    rw [List.cons_append] at hfound hfound'
    simp only [scanElements, hbehind, hbehind', hcount, hcount', hfound, hfound']
    exact (hon _ _ hstate).withMark (hmark _)
  | lineEnd =>
    rw [List.cons_append] at hfound hfound'
    simp only [scanElements, hbehind, hbehind', hcount, hcount', hfound, hfound', hstate.depth]
    exact (hon _ _ hstate).withMark (hmark _)
  | operator =>
    rw [List.cons_append] at hfound hfound'
    simp only [scanElements, hbehind, hbehind', hcount, hcount', hfound, hfound', htake]
    exact (hon _ _ (hstate.withDepth _)).withMark (hmark _)

/-- An element that takes the line end along does so alike. -/
theorem scanElements_along_taken (h : Row source row column body e e')
    (hbody : body.dropWhile isMargin = c :: rest)
    (hlexeme : lexeme = .join ∨ ∃ quote, lexeme = .brokenString quote)
    (hfound : lexeme? (c :: rest ++ e) = some (lexeme, (c :: rest).length + e.length))
    (hfound' : lexeme? (c :: rest ++ e') = some (lexeme, (c :: rest).length + e'.length))
    (hstate : state.Along source other) :
    LineScan.Along source (scanElements row (fuel + 1) state column (body ++ e))
      (scanElements row (fuel' + 1) other column (body ++ e')) := by
  obtain ⟨hcount, hcount', hbehind, hbehind', hlate⟩ := h.behindBlanks hbody
  have hnone : ∀ c ∈ ([] : List Char), isMargin c = true := nofun
  have hall : ∀ z : List Char, (c :: (rest ++ z)).drop ((c :: rest).length + z.length) = [] := by
    intro z
    rw [← List.cons_append, ← List.length_append, List.drop_length]
  obtain rfl | ⟨quote, rfl⟩ := hlexeme
  · rw [List.cons_append] at hfound hfound'
    simp only [scanElements, hbehind, hbehind', hcount, hcount', hfound, hfound', hall,
      scanElements_blank hnone]
    exact ⟨⟨hstate.depth, rfl, hstate.openString, hstate.strict, hstate.blocks⟩, .nil⟩
  · have hform := form_of_lexeme? hfound
    rw [List.cons_append] at hfound hfound'
    simp only [scanElements, hbehind, hbehind', hcount, hcount', hfound, hfound']
    exact ⟨⟨hstate.depth, hstate.joined, .some ⟨hform, rfl, rfl, hlate.within 0 (Nat.zero_le _)⟩,
      rfl, hstate.blocks⟩, .nil⟩

/-- The elements of a line are found alike. -/
theorem scanElements_along (h : Row source row column body e e')
    (hfuel : (body ++ e).length ≤ fuel) (hfuel' : (body ++ e').length ≤ fuel')
    (hstate : state.Along source other) :
    LineScan.Along source (scanElements row fuel state column (body ++ e))
      (scanElements row fuel' other column (body ++ e')) := by
  induction hsize : body.length using Nat.strongRecOn
    generalizing body column state other fuel fuel' with
  | ind size ih =>
    subst hsize
    cases hbody : body.dropWhile isMargin with
    | nil => exact scanElements_along_blank h hbody hfuel hfuel' hstate
    | cons c rest =>
      obtain ⟨hblanks, hdrop⟩ := margin_length body
      have hlength := congrArg List.length hdrop
      rw [List.length_drop, hbody, List.length_cons] at hlength
      have hpos : 1 ≤ body.length := by omega
      rw [List.length_append] at hfuel hfuel'
      obtain ⟨fuel, rfl⟩ : ∃ n, fuel = n + 1 := ⟨fuel - 1, by omega⟩
      obtain ⟨fuel', rfl⟩ : ∃ n, fuel' = n + 1 := ⟨fuel' - 1, by omega⟩
      obtain ⟨-, -, hbehind, hbehind', hlate⟩ := h.behindBlanks hbody
      -- Behind an element less of the line is left, to which the induction applies.
      have hnext : GoOnAlike source row fuel fuel' (column + (body.takeWhile isMargin).length)
          (c :: rest) e e' := by
        intro n hn hle state other hstate
        have hsmall : ((c :: rest).drop n).length < body.length := by
          rw [List.length_drop, List.length_cons]
          omega
        rw [List.drop_append_of_le_length hle, List.drop_append_of_le_length hle]
        refine ih _ hsmall (hlate.drop hle) ?_ ?_ hstate rfl
        · rw [List.length_append]
          omega
        · rw [List.length_append]
          omega
      -- What is found is in front of the line end, or it is a lexeme that takes the line end in.
      obtain ⟨heq, hle⟩ | ⟨lexeme, hlexeme, hfound, hfound'⟩ :=
        lexeme?_ending (List.cons_ne_nil c rest) hlate.plain h.ends
      · cases hfound : lexeme? (c :: rest ++ e) with
        | some element =>
          rw [hfound] at heq hle
          exact scanElements_along_element h hbody hfound heq (hle _ rfl) hnext hstate
        | none =>
          -- One character is passed over, which may be one of the blanks.
          rw [hfound] at heq
          rw [List.cons_append] at hfound heq
          have hsmall : (body.drop 1).length < body.length := by
            rw [List.length_drop]
            omega
          simp only [scanElements, hbehind, hbehind', hfound, heq,
            List.drop_append_of_le_length hpos]
          refine LineScan.Along.withMark (ih _ hsmall (h.drop hpos) ?_ ?_ hstate rfl)
            (h.mark .stray (Nat.zero_le 1) hpos)
          · rw [List.length_append, List.length_drop]
            omega
          · rw [List.length_append, List.length_drop]
            omega
      · exact scanElements_along_taken h hbody hlexeme hfound hfound' hstate

end Element

/-- A backslash stands before the one line end if it does before the other. -/
theorem endsInBackslash_ending (hy : IsPlain body) (he : AreEndings e e') :
    endsInBackslash (body ++ e') = endsInBackslash (body ++ e) := by
  obtain ⟨rfl, rfl⟩ | ⟨rfl, rfl⟩ := he
  · rfl
  · unfold endsInBackslash
    have hfeed : (body ++ ['\n']).reverse = '\n' :: body.reverse := List.reverse_append
    have hreturn : (body ++ ['\r', '\n']).reverse = '\n' :: '\r' :: body.reverse :=
      List.reverse_append
    rw [hfeed, hreturn]
    cases hlast : body.reverse with
    | nil => rfl
    | cons c front =>
      have hc := hy c (List.mem_reverse.1 (hlast ▸ List.mem_cons_self))
      by_cases hbackslash : c = '\\'
      · subst hbackslash
        rfl
      · simp [hbackslash, hc.1]

/-- A line within an open string is scanned alike. -/
theorem scanString_along (h : Row source row 0 body e e') (hstate : state.Along source other)
    {opened opened' : OpenString} (hopened : opened.Along source opened') :
    LineScan.Along source (scanString state row (body ++ e) opened)
      (scanString other row (body ++ e') opened') := by
  obtain ⟨quote, triple, start⟩ := opened
  obtain ⟨quote', triple', start'⟩ := opened'
  obtain ⟨hquote, rfl, rfl, hstart⟩ := hopened
  obtain ⟨hsame, hwithin⟩ := closingLength?_ending hquote triple h.plain h.ends
  unfold scanString
  simp only [hsame, endsInBackslash_ending h.plain h.ends, hstate.strict]
  cases hclose : closingLength? quote triple (body ++ e) with
  | some length =>
    have hle := hwithin length hclose
    have hpart := h.drop hle
    rw [Nat.zero_add] at hpart
    have hstop := h.within length hle
    rw [Nat.zero_add] at hstop
    -- The string is closed on the line, at the same column.
    have hclosed : ScanState.Along source { state with openString := none, strict := false }
        { other with openString := none, strict := false } :=
      ⟨hstate.depth, hstate.joined, .none, rfl, hstate.blocks⟩
    simp only [List.drop_append_of_le_length hle]
    have hrest : LineScan.Along source
        (scanElements row (body ++ e).length { state with openString := none, strict := false }
          length (body.drop length ++ e))
        (scanElements row (body ++ e').length { other with openString := none, strict := false }
          length (body.drop length ++ e')) := by
      refine scanElements_along hpart ?_ ?_ hclosed
      all_goals
        rw [List.length_append, List.length_append, List.length_drop]
        omega
    exact ⟨hrest.state, .cons ⟨rfl, hstart, hstop, nofun⟩ hrest.marks⟩
  | none =>
    simp only
    split
    -- The string has to end on the line and does not: it is marked up to the line end.
    · have hstop := h.behind
      rw [Nat.zero_add, Nat.zero_add] at hstop
      exact ⟨⟨hstate.depth, hstate.joined, .none, rfl, hstate.blocks⟩,
        .cons ⟨rfl, hstart, hstop, nofun⟩ .nil⟩
    · exact ⟨hstate, .nil⟩

/-- A mark as often as the corresponding one. -/
theorem replicate_along {mark mark' : Mark} (h : mark.Along source mark') (n : ℕ) :
    List.Forall₂ (Mark.Along source) (List.replicate n mark) (List.replicate n mark') := by
  induction n with
  | zero => exact .nil
  | succ n ih => exact .cons h ih

/-- States with these blocks open. -/
theorem ScanState.Along.withBlocks (h : state.Along source other) (blocks : List ℕ) :
    ScanState.Along source { state with blocks } { other with blocks } :=
  ⟨h.depth, h.joined, h.openString, h.strict, rfl⟩

/-- A comment that fills the rest of a line before its end is all that is kept of it. -/
theorem dropTrailing_ending (hbody : IsPlain body) (he : IsLineEnd e) :
    Text.dropTrailing (fun c => c = '\r' || c = '\n') (body ++ e) = body := by
  refine Text.dropTrailing_append_of_last ?_ fun c hc => ?_
  · obtain rfl | rfl | rfl := he <;> simp
  · have hplain := hbody c (List.mem_of_getLast? hc)
    simp [hplain.1, hplain.2]

/-- A line that begins a statement is scanned alike. -/
theorem scanStatement_along (h : Row source row 0 body e e') (hstate : state.Along source other) :
    (scanStatement state row (body ++ e)).Along source (scanStatement other row (body ++ e')) := by
  obtain ⟨hmargin, hbehind⟩ := margin_ending h.ends.isLineEnd body
  obtain ⟨hmargin', hbehind'⟩ := margin_ending h.ends.isLineEnd' body
  obtain ⟨hblanks, hdrop⟩ := margin_length body
  have hlate := h.drop hblanks
  have hlength := congrArg List.length hdrop
  rw [List.length_drop] at hlength
  rw [hdrop, Nat.zero_add] at hlate
  have hwhole := h.markBehind .lineBreak nofun hblanks
  simp only [Nat.zero_add] at hwhole
  unfold scanStatement
  simp only [hmargin, hmargin', hbehind, hbehind', hstate.blocks]
  cases hy : body.dropWhile isMargin with
  | nil =>
    -- A line end alone is a break; a last line without one is the end of the source.
    obtain ⟨rfl, rfl⟩ | ⟨rfl, rfl⟩ := h.ends
    · exact .finished
    · exact .next ⟨hstate, .cons hwhole .nil⟩
  | cons c rest =>
    rw [hy] at hlate hlength
    have hplain := hlate.plain
    have hc := hplain c List.mem_cons_self
    have hcomment := dropTrailing_ending hplain h.ends.isLineEnd
    have hcomment' := dropTrailing_ending hplain h.ends.isLineEnd'
    rw [List.cons_append] at hcomment hcomment'
    simp only [List.cons_append, hcomment, hcomment', hc.1, hc.2, decide_false, Bool.or_self,
      Bool.false_eq_true, if_false]
    have hsum : (body.takeWhile isMargin).length + (c :: rest).length = body.length := by omega
    split
    · -- The line holds a comment only.
      have htext := h.mark .comment (Nat.le_add_right _ (c :: rest).length) hsum.le
      have hbreak := h.markBehind .lineBreak nofun hsum.le
      simp only [Nat.zero_add] at htext hbreak
      exact .next ⟨hstate, .cons htext (.cons hbreak .nil)⟩
    -- The blanks in front are the same, and so is what they mean for the blocks.
    · have helements : ∀ blocks, LineScan.Along source
          (scanElements row (body ++ e).length { state with blocks }
            (body.takeWhile isMargin).length (c :: rest ++ e))
          (scanElements row (body ++ e').length { other with blocks }
            (body.takeWhile isMargin).length (c :: rest ++ e')) := by
        intro blocks
        refine scanElements_along hlate ?_ ?_ (hstate.withBlocks blocks)
        all_goals
          rw [List.length_append, List.length_append]
          omega
      have hblank := h.mark .indent (Nat.zero_le _) hblanks
      have hclosing := h.mark .dedent (Nat.le_refl _) hblanks
      simp only [Nat.zero_add] at hblank hclosing
      split
      · exact .next ((helements _).withMark hblank)
      · split
        · exact .failed _ .nil
        case h_2 blocks closed _ =>
          have hrest := helements blocks
          exact .next ⟨hrest.state, List.rel_append (replicate_along hclosing closed) hrest.marks⟩

/-- A line is scanned alike. -/
theorem scanLine_along (h : Row source row 0 body e e') (hstate : state.Along source other) :
    (scanLine state row (body ++ e)).Along source (scanLine other row (body ++ e')) := by
  have hopen := hstate.openString
  unfold scanLine
  simp only [hstate.depth, hstate.joined]
  generalize state.openString = opened at hopen
  generalize other.openString = opened' at hopen
  cases hopen with
  | some hopened => exact .next (scanString_along h hstate hopened)
  | none =>
    simp only
    split
    · exact scanStatement_along h hstate
    · exact .next (scanElements_along h (Nat.le_refl _) (Nat.le_refl _)
        ⟨rfl, rfl, .none, hstate.strict, hstate.blocks⟩)

/-- Lines from this row on to the end of the source, and the corresponding ones. -/
inductive Rows (source : List Char) : ℕ → List (List Char) → List (List Char) → Prop
  /-- The source ends here. -/
  | nil {row : ℕ} (h : Place.Along source ⟨row, 0⟩ ⟨row, 0⟩) : Rows source row [] []
  /-- A line, and those behind it. A line without an end may be taken to have one. -/
  | cons {row : ℕ} {body e e' : List Char} {rest rest' : List (List Char)}
      (h : Row source row 0 body e e')
      (hover : e = [] → Place.Along source ⟨row, body.length + 1⟩ ⟨row, body.length + 1⟩)
      (hrest : Rows source (row + 1) rest rest') :
      Rows source row ((body ++ e) :: rest) ((body ++ e') :: rest')

/-- The line before a row, and the corresponding one: each has an end, or both lack it. -/
def LastAlong (source : List Char) (row : ℕ) (line line' : List Char) : Prop :=
  EndsLine line ∧ EndsLine line' ∨
    line = line' ∧ Place.Along source ⟨row - 1, line.length⟩ ⟨row - 1, line.length⟩ ∧
      Place.Along source ⟨row - 1, line.length + 1⟩ ⟨row - 1, line.length + 1⟩

/-- A line is the one before the rows behind it. -/
theorem Row.last (h : Row source row 0 body e e')
    (hover : e = [] → Place.Along source ⟨row, body.length + 1⟩ ⟨row, body.length + 1⟩) :
    LastAlong source (row + 1) (body ++ e) (body ++ e') := by
  obtain ⟨rfl, rfl⟩ | ⟨rfl, rfl⟩ := h.ends
  · have hbehind := h.behind
    rw [Nat.zero_add, List.append_nil] at hbehind
    rw [List.append_nil]
    exact .inr ⟨rfl, hbehind, hover rfl⟩
  · refine .inl ⟨.inr List.getLast?_concat, .inr ?_⟩
    rw [List.getLast?_append]
    rfl

/-- The marks behind the last line are found alike. -/
theorem closingMarks_along (hstart : Place.Along source ⟨row, 0⟩ ⟨row, 0⟩)
    (hstate : state.Along source other) {line line' : List Char}
    (hlast : LastAlong source row line line') :
    List.Forall₂ (Mark.Along source) (closingMarks state row line)
      (closingMarks other row line') := by
  have hmark : ∀ kind, kind ≠ .comment →
      Mark.Along source ⟨kind, ⟨row, 0⟩, ⟨row, 0⟩⟩ ⟨kind, ⟨row, 0⟩, ⟨row, 0⟩⟩ :=
    fun kind hkind => ⟨rfl, hstart, hstart, fun heq => absurd heq hkind⟩
  unfold closingMarks
  simp only [hstate.blocks]
  refine List.rel_append (List.rel_append ?_ (replicate_along (hmark .dedent nofun) _))
    (.cons (hmark .endMark nofun) .nil)
  obtain ⟨hends, hends'⟩ | ⟨rfl, hfirst, hsecond⟩ := hlast
  · -- No line end is missing.
    obtain rfl | hends := hends <;> obtain rfl | hends' := hends' <;>
      simp [*]
  · split
    · split
      · exact .cons ⟨rfl, hfirst, hsecond, nofun⟩ .nil
      · exact .nil
    · exact .nil

/-- Lines are scanned alike. -/
theorem scanLines_along {rows rows' : List (List Char)} (h : Rows source row rows rows')
    (hstate : state.Along source other) {line line' : List Char}
    (hlast : LastAlong source row line line') :
    (scanLines state row line rows).Along source (scanLines other row line' rows') := by
  induction h generalizing state other line line' with
  | nil hstart =>
    have hopen := hstate.openString
    unfold scanLines
    simp only [hstate.depth, hstate.joined]
    generalize state.openString = opened at hopen
    generalize other.openString = opened' at hopen
    cases hopen with
    | some => exact ⟨.nil, rfl⟩
    | none =>
      simp only [Option.isSome_none, Bool.false_eq_true, if_false]
      split
      · exact ⟨closingMarks_along hstart hstate hlast, rfl⟩
      · exact ⟨.nil, rfl⟩
  | @cons row body e e' rest rest' h hover _ ih =>
    have hline := scanLine_along h hstate
    unfold scanLines
    generalize scanLine state row (body ++ e) = result at hline
    generalize scanLine other row (body ++ e') = result' at hline
    cases hline with
    | finished =>
      exact ⟨closingMarks_along (h.within 0 (Nat.zero_le _)) hstate hlast, rfl⟩
    | failed fault hmarks => exact ⟨hmarks, rfl⟩
    | next hscan =>
      have hbehind := ih hscan.state (h.last hover)
      exact ⟨List.rel_append hscan.marks hbehind.marks, hbehind.fault⟩

end Scan

section Places

variable {source : List Char} {done rest : List (List Char)}

/-- The offset of a place on the line behind these. -/
theorem offsetIn_eq (h : lines source = done ++ rest) (column : ℕ) :
    offsetIn source ⟨done.length + 1, column⟩ =
      min (done.flatten.length + column) source.length := by
  rw [offsetIn, offsetOf_eq, h, Nat.add_sub_cancel, List.take_left]

/-- The offset of a place on the line behind these, with carriage returns. -/
theorem offsetIn_withReturns (h : lines source = done ++ rest) (column : ℕ) :
    offsetIn (withReturns source) ⟨done.length + 1, column⟩ =
      min ((withReturns done.flatten).length + column) (withReturns source).length := by
  have hlines := lines_withReturns source
  rw [h, List.map_append] at hlines
  have hoffset := offsetIn_eq hlines column
  rwa [List.length_map, flatten_map_withReturns] at hoffset

/-- A source is the text of its lines. -/
theorem source_eq (h : lines source = done ++ rest) : source = done.flatten ++ rest.flatten := by
  rw [← List.flatten_append, ← h, flatten_lines]

/-- The place behind a text on a line, and the one behind the text with its carriage returns. -/
theorem place_along (h : lines source = done ++ rest) {front after : List Char}
    (hrest : rest.flatten = front ++ after) :
    Place.Along source ⟨done.length + 1, front.length⟩
      ⟨done.length + 1, (withReturns front).length⟩ := by
  refine ⟨rfl, ?_⟩
  have hsource := source_eq h
  rw [hrest, ← List.append_assoc] at hsource
  have hinside : done.flatten.length + front.length ≤ source.length := by
    rw [hsource, List.length_append, List.length_append]
    omega
  have hinside' : (withReturns done.flatten).length + (withReturns front).length ≤
      (withReturns source).length := by
    rw [hsource, withReturns_append, withReturns_append, List.length_append, List.length_append]
    omega
  have htake : source.take (done.flatten.length + front.length) = done.flatten ++ front := by
    rw [hsource, ← List.length_append, List.take_left]
  rw [offsetIn_eq h, offsetIn_withReturns h, Nat.min_eq_left hinside, Nat.min_eq_left hinside',
    htake, withReturns_append, List.length_append]

/-- The beginning of the line behind these. -/
theorem place_along_start (h : lines source = done ++ rest) :
    Place.Along source ⟨done.length + 1, 0⟩ ⟨done.length + 1, 0⟩ :=
  place_along h (List.nil_append rest.flatten).symm

/-- A place beyond the end of the source is the end of the source. -/
theorem place_along_of_le (h : lines source = done ++ rest) (column : ℕ)
    (hcolumn : (withReturns rest.flatten).length ≤ column) :
    Place.Along source ⟨done.length + 1, column⟩ ⟨done.length + 1, column⟩ := by
  refine ⟨rfl, ?_⟩
  have hgrown := length_withReturns rest.flatten
  have hsource := source_eq h
  have hsize := congrArg List.length hsource
  have hsize' := congrArg (fun text => (withReturns text).length) hsource
  simp only [withReturns_append, List.length_append] at hsize hsize'
  have hbeyond : source.length ≤ done.flatten.length + column := by omega
  have hbeyond' : (withReturns source).length ≤ (withReturns done.flatten).length + column := by
    omega
  rw [offsetIn_eq h, offsetIn_withReturns h, Nat.min_eq_right hbeyond, Nat.min_eq_right hbeyond',
    List.take_length]

/-- A line of a source and the corresponding one. -/
theorem row_of_lines {body e e' : List Char} (h : lines source = done ++ (body ++ e) :: rest)
    (hbody : IsPlain body) (he : AreEndings e e') :
    Row source (done.length + 1) 0 body e e' where
  ends := he
  plain := hbody
  within k hk := by
    have htake : '\n' ∉ body.take k := fun hmem => (hbody _ (List.mem_of_mem_take hmem)).2 rfl
    have hrest : ((body ++ e) :: rest).flatten =
        body.take k ++ (body.drop k ++ e ++ rest.flatten) := by
      rw [List.flatten_cons, ← List.append_assoc, ← List.append_assoc, List.take_append_drop]
    have hplace := place_along h hrest
    rwa [withReturns_eq_self htake, List.length_take_of_le hk, ← Nat.zero_add k] at hplace
  behind := by
    have hreturns : withReturns (body ++ e) = body ++ e' := by
      have hnone : '\n' ∉ body := fun hmem => (hbody _ hmem).2 rfl
      rw [withReturns_append, withReturns_eq_self hnone]
      obtain ⟨rfl, rfl⟩ | ⟨rfl, rfl⟩ := he <;> rfl
    have hplace := place_along h (List.flatten_cons (l := body ++ e) (L := rest))
    rwa [hreturns, ← Nat.zero_add (body ++ e).length, ← Nat.zero_add (body ++ e').length] at hplace
  inline j k hjk hk := by
    have hsource := source_eq h
    rw [List.flatten_cons, List.append_assoc] at hsource
    have hinside : ∀ i ≤ body.length, offsetIn source ⟨done.length + 1, 0 + i⟩ =
        done.flatten.length + i := by
      intro i hi
      have hsize := congrArg List.length hsource
      rw [List.length_append, List.length_append] at hsize
      rw [offsetIn_eq h, Nat.zero_add]
      exact Nat.min_eq_left (by omega)
    rw [hinside j (hjk.trans hk), hinside k hk, hsource, List.take_length_add_append,
      List.drop_length_add_append, List.take_append_of_le_length hk]
    exact fun hmem => (hbody _ (List.mem_of_mem_take (List.mem_of_mem_drop hmem))).2 rfl

/-- The lines of a source without carriage returns, and the corresponding ones. -/
theorem rows_lines {text : List Char} (hreturn : '\r' ∉ text)
    (h : lines source = done ++ lines text) :
    Rows source (done.length + 1) (lines text) ((lines text).map withReturns) := by
  have hplain : ∀ {body : List Char}, '\r' ∉ body → '\n' ∉ body → IsPlain body :=
    fun hr hn c hc => ⟨fun heq => hr (heq ▸ hc), fun heq => hn (heq ▸ hc)⟩
  induction hsize : text.length using Nat.strongRecOn generalizing text done with
  | ind size ih =>
    subst hsize
    by_cases hfeed : '\n' ∈ text
    · -- The first line ends in the first line feed.
      obtain ⟨body, after, rfl, hbody⟩ := List.eq_append_cons_of_mem hfeed
      -- It ends in a line feed, which is the end of a line in the other source as well.
      have hlines : lines (body ++ '\n' :: after) = (body ++ ['\n']) :: lines after := by
        rw [List.append_cons, lines_append (endsLine_concat body), lines_line hbody]
        rfl
      have hends : AreEndings ['\n'] ['\r', '\n'] := .inr ⟨rfl, rfl⟩
      have hmap : withReturns (body ++ ['\n']) = body ++ ['\r', '\n'] := by
        rw [withReturns_append, withReturns_eq_self hbody]
        rfl
      rw [hlines] at h ⊢
      rw [List.map_cons, hmap]
      have hbehind : lines source = (done ++ [body ++ ['\n']]) ++ lines after := by
        rw [h, List.append_cons]
      have hless : after.length < (body ++ '\n' :: after).length := by
        rw [List.length_append, List.length_cons]
        omega
      have hrest := ih after.length hless (fun hmem => hreturn (by simp [hmem])) hbehind rfl
      rw [List.length_append] at hrest
      have hbody' := hplain (fun hmem => hreturn (List.mem_append_left _ hmem)) hbody
      exact .cons (row_of_lines h hbody' hends) nofun hrest
    · cases text with
      | nil =>
        exact .nil (place_along_start h)
      | cons c cs =>
        -- The last line has no end.
        rw [lines_of_notMem (List.cons_ne_nil c cs) hfeed] at h ⊢
        have hbody := hplain hreturn hfeed
        rw [List.map_singleton, withReturns_eq_self hfeed]
        have hnone : AreEndings [] [] := .inl ⟨rfl, rfl⟩
        have hline : lines source = done ++ [c :: cs ++ []] := by rw [h, List.append_nil]
        have hbehind : lines source = (done ++ [c :: cs]) ++ [] := by rw [h, List.append_nil]
        have hend := place_along_start hbehind
        rw [List.length_append] at hend
        -- Behind the last line there is at most the place of a line end that is missing.
        have hbeyond : (withReturns [c :: cs].flatten).length ≤ (c :: cs).length + 1 := by
          rw [List.flatten_singleton, withReturns_eq_self hfeed]
          exact Nat.le_succ _
        have hover := place_along_of_le h _ hbeyond
        rw [← List.append_nil (c :: cs)]
        exact .cons (row_of_lines hline hbody hnone) (fun _ => hover) (.nil hend)

/-- The scans of a source without carriage returns and of the one that has them correspond. -/
theorem scan_along (hreturn : '\r' ∉ source) :
    (scan source).Along source (scan (withReturns source)) := by
  have hrows := rows_lines hreturn (List.nil_append (lines source)).symm
  have hstart : ScanState.start.Along source ScanState.start := ⟨rfl, rfl, .none, rfl, rfl⟩
  unfold scan
  rw [lines_withReturns]
  exact scanLines_along hrows hstart (.inl ⟨.inl rfl, .inl rfl⟩)

end Places

section Tokens

variable {source : List Char}

/-- A token whose text has carriage returns. -/
def Token.withReturns (token : Token) : Token :=
  { token with text := returned token.text }

/-- A remainder of a source as it is in the source with carriage returns. -/
def Remainder.withReturns (source : List Char) (remainder : Remainder) : Remainder :=
  ⟨(Source.withReturns (source.take remainder.offset)).length,
    Source.withReturns remainder.text⟩

/-- Tokens whose texts have carriage returns. -/
def Tokenized.withReturns (pieces : Tokenized) : Tokenized where
  scanned := pieces.scanned.map Token.withReturns
  warning := pieces.warning
  rest := pieces.rest.map Token.withReturns

/-- A cut at corresponding places. -/
theorem cut_withReturns {remainder : Remainder} (hof : remainder.IsOf source) {stop : ℕ}
    (hstop : stop ≤ source.length) (kind : Kind) (line : ℕ) :
    (remainder.withReturns source).cut kind line (withReturns (source.take stop)).length =
      ((remainder.cut kind line stop).1.map Token.withReturns,
        (remainder.cut kind line stop).2.withReturns source) := by
  obtain ⟨offset, text⟩ := remainder
  obtain rfl : text = source.drop offset := hof
  unfold Remainder.cut
  by_cases hlt : offset < stop
  · -- What is cut off is the text between the places.
    have hsum : offset + (stop - offset) = stop := by omega
    have htake : source.take stop = source.take offset ++ (source.drop offset).take (stop - offset) := by
      rw [← List.take_add, hsum]
    have hsize := congrArg (fun text => (withReturns text).length) htake
    simp only [withReturns_append, List.length_append] at hsize
    -- Something is cut off in the other source as well, since no text becomes shorter.
    have hgrown := length_withReturns ((source.drop offset).take (stop - offset))
    rw [List.length_take, List.length_drop] at hgrown
    have hmove : (Remainder.withReturns source ⟨offset, source.drop offset⟩).offset <
        (withReturns (source.take stop)).length := by
      show (withReturns (source.take offset)).length < _
      omega
    have hlength : (withReturns (source.take stop)).length -
        (withReturns (source.take offset)).length =
        (withReturns ((source.drop offset).take (stop - offset))).length := by omega
    have hsplit : withReturns (source.drop offset) =
        withReturns ((source.drop offset).take (stop - offset)) ++
          withReturns ((source.drop offset).drop (stop - offset)) := by
      rw [← withReturns_append, List.take_append_drop]
    rw [if_pos hlt, if_pos hmove]
    simp only [Remainder.withReturns, hlength]
    rw [hsplit, List.take_left, List.drop_left]
    simp only [List.map_singleton, Token.withReturns, returned, String.toList_ofList]
  -- Nothing is left in front of the place, in neither source.
  · have hle : (withReturns (source.take stop)).length ≤
        (withReturns (source.take offset)).length := by
      have hsum : stop + (offset - stop) = offset := by omega
      have htake : source.take offset = source.take stop ++ (source.drop stop).take (offset - stop) := by
        rw [← List.take_add, hsum]
      rw [htake, withReturns_append, List.length_append]
      exact Nat.le_add_right _ _
    have hstay : ¬(Remainder.withReturns source ⟨offset, source.drop offset⟩).offset <
        (withReturns (source.take stop)).length := Nat.not_lt.2 hle
    rw [if_neg hlt, if_neg hstay]
    rfl

/-- The tokens that marks make of a source, with carriage returns in their texts, are those that the
corresponding marks make, and no comment among them has a line feed. -/
theorem fill_withReturns {marks others : List Mark}
    (h : List.Forall₂ (Mark.Along source) marks others) {remainder : Remainder}
    (hof : remainder.IsOf source) :
    fill (offsetIn (withReturns source)) (remainder.withReturns source) others =
        ((fill (offsetIn source) remainder marks).1.map Token.withReturns,
          (fill (offsetIn source) remainder marks).2.withReturns source) ∧
      ∀ token ∈ (fill (offsetIn source) remainder marks).1, token.kind = .comment →
        '\n' ∉ token.text.toList := by
  induction h generalizing remainder with
  | nil => exact ⟨rfl, List.forall_mem_nil _⟩
  | @cons mark other marks others hmark _ ih =>
    have hinside : ∀ place, offsetIn source place ≤ source.length :=
      fun place => offsetOf_le _ _ place
    rw [fill_cons, fill_cons]
    simp only
    rw [hmark.start.offset, hmark.stop.offset, hmark.start.row, ← hmark.kind,
      cut_withReturns hof (hinside mark.start)]
    have hgap := hof.cut .whitespace mark.start.row (offsetIn source mark.start)
    have hoffset := offset_cut remainder .whitespace mark.start.row (offsetIn source mark.start)
    have hblank := fun token (h : token ∈ (remainder.cut .whitespace mark.start.row
      (offsetIn source mark.start)).1) => kind_of_mem_cut h
    generalize remainder.cut .whitespace mark.start.row (offsetIn source mark.start) = gap
      at hgap hoffset hblank ⊢
    simp only
    rw [cut_withReturns hgap (hinside mark.stop)]
    obtain ⟨htokens, hcomments⟩ := ih (hgap.cut mark.kind mark.start.row
      (offsetIn source mark.stop))
    simp only [htokens, List.map_append, true_and]
    intro token htoken hcomment
    rw [List.mem_append, List.mem_append] at htoken
    obtain (hmem | hmem) | hmem := htoken
    · rw [hblank token hmem] at hcomment
      cases hcomment
    · have hstart : offsetIn source mark.start ≤ gap.2.offset := by omega
      have hline := hmark.comment ((kind_of_mem_cut hmem).symm.trans hcomment)
      exact notMem_cut hgap hstart hline _ _ hmem
    · exact hcomments token hmem hcomment

/-- As many line feeds are in front of corresponding offsets. -/
theorem lineAfter_withReturns (remainder : Remainder) :
    lineAfter ((withReturns source).take (remainder.withReturns source).offset) =
      lineAfter (source.take remainder.offset) := by
  have hsplit : withReturns source = withReturns (source.take remainder.offset) ++
      withReturns (source.drop remainder.offset) := by
    rw [← withReturns_append, List.take_append_drop]
  rw [hsplit, Remainder.withReturns, List.take_left, lineAfter, count_withReturns]
  rfl

/-- The token behind corresponding marks. -/
theorem rest_withReturns (remainder : Remainder) (kind : Kind) (line : ℕ) :
    (if (remainder.withReturns source).text.isEmpty then none
      else some (Token.mk kind (String.ofList (remainder.withReturns source).text) line)) =
    (if remainder.text.isEmpty then none
      else some (Token.mk kind (String.ofList remainder.text) line)).map Token.withReturns := by
  obtain ⟨offset, text⟩ := remainder
  cases text with
  | nil => rfl
  | cons c cs =>
    have hne : (Source.withReturns (c :: cs)).isEmpty = false := by
      have hgrown := length_withReturns (c :: cs)
      rw [List.isEmpty_eq_false_iff, ← List.length_pos_iff, hgrown, List.length_cons]
      omega
    simp only [Remainder.withReturns, hne, List.isEmpty_cons, Bool.false_eq_true, if_false,
      Option.map_some, Token.withReturns, returned, String.toList_ofList]

/-- The tokens of a source without carriage returns, with carriage returns in their texts, are those
of the source with carriage returns. -/
theorem tokenize_returned {source : String} (hreturn : '\r' ∉ source.toList) :
    tokenize (returned source) = (tokenize source).withReturns := by
  have hscan := scan_along hreturn
  have hwhole : (Remainder.mk 0 source.toList).IsOf source.toList := rfl
  obtain ⟨hfill, -⟩ := fill_withReturns hscan.marks hwhole
  have hstart : Remainder.withReturns source.toList ⟨0, source.toList⟩ =
      ⟨0, withReturns source.toList⟩ := rfl
  rw [hstart] at hfill
  have hof : ∀ source : String, tokenize source =
      { scanned := (fill (offsetIn source.toList) ⟨0, source.toList⟩ (scan source.toList).marks).1
        warning := (scan source.toList).fault.map fun fault =>
          ⟨lineAfter (source.toList.take (fill (offsetIn source.toList) ⟨0, source.toList⟩
            (scan source.toList).marks).2.offset), fault⟩
        rest := if (fill (offsetIn source.toList) ⟨0, source.toList⟩
            (scan source.toList).marks).2.text.isEmpty then none
          else some ⟨if (scan source.toList).fault.isSome then .untokenized else .whitespace,
            String.ofList (fill (offsetIn source.toList) ⟨0, source.toList⟩
              (scan source.toList).marks).2.text,
            lineAfter (source.toList.take (fill (offsetIn source.toList) ⟨0, source.toList⟩
              (scan source.toList).marks).2.offset)⟩ } := fun _ => rfl
  rw [hof, hof, toList_returned, hfill, hscan.fault]
  simp only [lineAfter_withReturns, rest_withReturns]
  rfl

/-- No comment of a source without carriage returns has a line feed. -/
theorem notMem_comment {source : String} (hreturn : '\r' ∉ source.toList) {token : Token}
    (htoken : token ∈ (tokenize source).tokens) (hcomment : token.kind = .comment) :
    '\n' ∉ token.text.toList := by
  have hscan := scan_along hreturn
  have hwhole : (Remainder.mk 0 source.toList).IsOf source.toList := rfl
  obtain ⟨-, hfill⟩ := fill_withReturns hscan.marks hwhole
  rw [Tokenized.tokens, List.mem_append] at htoken
  obtain hmem | hmem := htoken
  · exact hfill token hmem hcomment
  · rw [(mem_rest hmem).1] at hcomment
    split at hcomment <;> cases hcomment

end Tokens

end Hashmark.Source
