import Hashmark.Proofs.Source.Reading
import Hashmark.Proofs.Text.Separate

/-!
# What a scan finds in a line

Whatever the depth of brackets and the open blocks, the scan of a line marks the comment that is
read in it, and leaves the string open that goes on (`LineReads.scanLine`), unless the line agrees
with no block around it. So a line is read alike in two scans that have the same string open. A line
that breaks off no string can always be read (`exists_lineReads`).
-/

namespace Hashmark.Source

/-- Where comments begin and end in the lines on which marks stand. -/
def commentSpans (marks : List Mark) : List (Nat × Nat) :=
  marks.filterMap fun mark =>
    if mark.kind = .comment then some (mark.start.column, mark.stop.column) else none

/-- The string that a scan has left open: its quote, and whether it is triple. A single quote goes
on only behind a backslash. -/
structure ScanState.Opens (state : ScanState) (opened : Option (Char × Bool)) : Prop where
  /-- The string is that one. -/
  string : state.openString.map (fun string => (string.quote, string.triple)) = opened
  /-- Its lines have to end in a backslash unless it is triple. -/
  strict : state.strict = opened.any fun string => !string.2
  /-- It is a quote that opens it. -/
  quote : ∀ string ∈ opened, string.1 = '\'' ∨ string.1 = '"'

section Scan

/-- A scan of a line has the comments of another one, and ends in the state in which that does. -/
structure LineScan.Resumes (before after : LineScan) : Prop where
  /-- The state is the same. -/
  state : before.1 = after.1
  /-- The comments are the same. -/
  spans : commentSpans before.2 = commentSpans after.2

/-- What resumes a scan that resumes another resumes that. -/
theorem LineScan.Resumes.trans {first second third : LineScan} (h : first.Resumes second)
    (h' : second.Resumes third) : first.Resumes third :=
  ⟨h.state.trans h'.state, h.spans.trans h'.spans⟩

/-- A further mark that is no comment. -/
theorem LineScan.resumes_withMark (kind : Kind) (hkind : kind ≠ .comment) (row first last : Nat)
    (scan : LineScan) : (scan.withMark kind row first last).Resumes scan := by
  refine ⟨rfl, ?_⟩
  show commentSpans (⟨kind, _, _⟩ :: scan.2) = commentSpans scan.2
  simp [commentSpans, hkind]

variable {margin : List Char} (hmargin : ∀ c ∈ margin, isMargin c = true) {c : Char}
  (hc : isMargin c = false) {cs : List Char}
include hmargin hc

/-- Blanks stand before the first element of a line. -/
theorem margin_append (cs : List Char) : (margin ++ c :: cs).takeWhile isMargin = margin ∧
    (margin ++ c :: cs).dropWhile isMargin = c :: cs := by
  have hnone : ¬isMargin c = true := by simp [hc]
  constructor
  · rw [List.takeWhile_append_of_pos hmargin, List.takeWhile_cons_of_neg hnone, List.append_nil]
  · rw [List.dropWhile_append_of_pos hmargin, List.dropWhile_cons_of_neg hnone]

/-- A character that begins no element is passed over, and so are the blanks before it, one after
another. -/
theorem scanElements_stray (hlexeme : lexeme? (c :: cs) = none) (row : Nat) {fuel : Nat}
    (hfuel : (margin ++ c :: cs).length ≤ fuel) (state : ScanState) (column : Nat) :
    ∃ fuel', cs.length ≤ fuel' ∧
      (scanElements row fuel state column (margin ++ c :: cs)).Resumes
        (scanElements row fuel' state (column + (margin.length + 1)) cs) := by
  -- The induction is over the blanks: each of them is a stray character of its own.
  induction margin generalizing fuel column with
  | nil =>
    cases fuel with
    | zero => cases hfuel
    | succ fuel =>
      have hdrop := (margin_append hmargin hc cs).2
      refine ⟨fuel, Nat.le_of_succ_le_succ hfuel, ?_⟩
      rw [scanElements, hdrop]
      simp only [hlexeme]
      exact LineScan.resumes_withMark .stray nofun _ _ _ _
  | cons d margin ih =>
    cases fuel with
    | zero => cases hfuel
    | succ fuel =>
      have hdrop := (margin_append hmargin hc cs).2
      obtain ⟨fuel', hfuel', hresumes⟩ := ih (fun c hc => hmargin c (.tail _ hc))
        (Nat.le_of_succ_le_succ hfuel) (column + 1)
      have hcolumn : column + ((d :: margin).length + 1) = column + 1 + (margin.length + 1) := by
        rw [List.length_cons]
        omega
      refine ⟨fuel', hfuel', .trans ?_ (hcolumn ▸ hresumes)⟩
      rw [scanElements, hdrop]
      simp only [hlexeme]
      exact LineScan.resumes_withMark .stray nofun _ _ _ _

/-- The scan goes on behind an element. -/
theorem scanElements_advance {n : Nat} (h : advance? (c :: cs) = some n) (row : Nat) {fuel : Nat}
    (hfuel : (margin ++ c :: cs).length ≤ fuel) (state : ScanState) (column : Nat) :
    ∃ fuel' state', ((c :: cs).drop n).length ≤ fuel' ∧
      (state'.openString = state.openString ∧ state'.strict = state.strict) ∧
      (scanElements row fuel state column (margin ++ c :: cs)).Resumes
        (scanElements row fuel' state' (column + (margin.length + n)) ((c :: cs).drop n)) := by
  have hpos := (advance?_le h).1
  have hdropped : ((c :: cs).drop n).length ≤ cs.length := by
    rw [List.length_drop, List.length_cons]
    omega
  -- A character that begins no lexeme is passed over by itself.
  cases hlexeme : lexeme? (c :: cs) with
  | none =>
    rw [advance?, hlexeme] at h
    obtain rfl := Option.some.inj h
    obtain ⟨fuel', hfuel', hresumes⟩ := scanElements_stray hmargin hc hlexeme row hfuel state column
    exact ⟨fuel', state, hfuel', ⟨rfl, rfl⟩, hresumes⟩
  | some found =>
    obtain ⟨lexeme, length⟩ := found
    obtain ⟨htake, hdrop⟩ := margin_append hmargin hc cs
    rw [List.length_append, List.length_cons] at hfuel
    obtain ⟨fuel, rfl⟩ : ∃ more, fuel = more + 1 := ⟨fuel - 1, by omega⟩
    have hrest : ((c :: cs).drop n).length ≤ fuel := by omega
    -- A lexeme that ends on the line is marked, if at all, and the scan goes on behind it.
    rw [scanElements, hdrop, htake]
    simp only [hlexeme]
    unfold advance? at h
    rw [hlexeme] at h
    cases lexeme with
    | comment => cases h
    | brokenString quote => cases h
    -- A string that is closed on the line goes on up to its end.
    | tripleQuote quote =>
      obtain ⟨more, hmore, rfl⟩ := Option.map_eq_some_iff.1 h
      refine ⟨fuel, state, hrest, ⟨rfl, rfl⟩, ?_⟩
      simp only [hmore, ← Nat.add_assoc, ← List.drop_drop]
      exact LineScan.resumes_withMark .string (by decide) _ _ _ _
    | join =>
      obtain rfl := Option.some.inj h
      refine ⟨fuel, { state with joined := true }, hrest, ⟨rfl, rfl⟩, ?_⟩
      rw [← Nat.add_assoc]
      exact ⟨rfl, rfl⟩
    | operator =>
      obtain rfl := Option.some.inj h
      refine ⟨fuel, { state with depth := state.depth + depthChange ((c :: cs).take length) },
        hrest, ⟨rfl, rfl⟩, ?_⟩
      rw [← Nat.add_assoc]
      exact LineScan.resumes_withMark .operator (by decide) _ _ _ _
    | word =>
      obtain rfl := Option.some.inj h
      refine ⟨fuel, state, hrest, ⟨rfl, rfl⟩, ?_⟩
      rw [← Nat.add_assoc]
      refine LineScan.resumes_withMark _ ?_ _ _ _ _
      split <;> decide
    | lineEnd =>
      obtain rfl := Option.some.inj h
      refine ⟨fuel, state, hrest, ⟨rfl, rfl⟩, ?_⟩
      rw [← Nat.add_assoc]
      refine LineScan.resumes_withMark _ ?_ _ _ _ _
      split <;> decide
    | number =>
      obtain rfl := Option.some.inj h
      refine ⟨fuel, state, hrest, ⟨rfl, rfl⟩, ?_⟩
      rw [← Nat.add_assoc]
      exact LineScan.resumes_withMark .number (by decide) _ _ _ _
    | string =>
      obtain rfl := Option.some.inj h
      refine ⟨fuel, state, hrest, ⟨rfl, rfl⟩, ?_⟩
      rw [← Nat.add_assoc]
      exact LineScan.resumes_withMark .string (by decide) _ _ _ _

/-- A string that goes on is left open. -/
theorem scanElements_opens {quote : Char} {triple : Bool}
    (h : opens? (c :: cs) = some (quote, triple)) (row : Nat) {fuel : Nat}
    (hfuel : (margin ++ c :: cs).length ≤ fuel) {state : ScanState} (hstate : state.Opens none)
    (column : Nat) :
    (scanElements row fuel state column (margin ++ c :: cs)).2 = [] ∧
      (scanElements row fuel state column (margin ++ c :: cs)).1.Opens (some (quote, triple)) := by
  obtain ⟨htake, hdrop⟩ := margin_append hmargin hc cs
  rw [List.length_append, List.length_cons] at hfuel
  obtain ⟨fuel, rfl⟩ : ∃ more, fuel = more + 1 := ⟨fuel - 1, by omega⟩
  rw [scanElements, hdrop, htake]
  unfold opens? at h
  split at h
  -- Three quotes open a string, and so does one that is joined to the next line.
  case h_1 quote' n hlexeme =>
    cases h
    have hquote := form_of_lexeme? hlexeme
    simp only [hlexeme]
    exact ⟨trivial, rfl, rfl, by simpa using hquote⟩
  case h_2 quote' n hlexeme =>
    have hquote := form_of_lexeme? hlexeme
    split at h
    case isTrue hopen =>
      cases h
      simp only [hlexeme, hopen]
      exact ⟨trivial, rfl, hstate.strict, by simpa using hquote⟩
    case isFalse => cases h
  case h_3 => cases h

end Scan

/-- Blanks have no elements. -/
theorem scanElements_blank {margin : List Char} (hmargin : ∀ c ∈ margin, isMargin c = true)
    (row fuel : Nat) (state : ScanState) (column : Nat) :
    scanElements row fuel state column margin = (state, []) := by
  cases fuel with
  | zero => rfl
  | succ fuel => rw [scanElements, List.dropWhile_eq_nil_iff.2 hmargin]

/-- A line end has no comment, and opens no string. -/
theorem scanElements_lineEnd {ending : List Char} (h : IsLineEnd ending) (row : Nat) {fuel : Nat}
    (hfuel : ending.length ≤ fuel) {state : ScanState} (hstate : state.Opens none) (column : Nat) :
    commentSpans (scanElements row fuel state column ending).2 = [] ∧
      (scanElements row fuel state column ending).1.Opens none := by
  have hblank : ∀ c ∈ ([] : List Char), isMargin c = true := List.forall_mem_nil _
  have hend : ∀ c cs, isMargin c = false → advance? (c :: cs) = some (c :: cs).length →
      (c :: cs).length ≤ fuel →
      commentSpans (scanElements row fuel state column (c :: cs)).2 = [] ∧
        (scanElements row fuel state column (c :: cs)).1.Opens none := by
    intro c cs hc hadvance hfuel
    obtain ⟨fuel', state', -, ⟨hstring, hstrict⟩, hresumes⟩ :=
      scanElements_advance hblank hc hadvance row hfuel state column
    rw [List.nil_append, List.drop_length, scanElements_blank hblank] at hresumes
    rw [hresumes.state, hresumes.spans]
    exact ⟨rfl, hstring ▸ hstate.string, hstrict ▸ hstate.strict, nofun⟩
  obtain rfl | rfl | rfl := h
  · rw [scanElements_blank hblank]
    exact ⟨rfl, hstate⟩
  · exact hend _ _ rfl rfl hfuel
  · exact hend _ _ rfl rfl hfuel

/-- A comment reaches up to the line end. -/
theorem IsCommentText.lexeme?_append {text : List Char} (h : IsCommentText text)
    {ending : List Char} (hending : IsLineEnd ending) :
    lexeme? (text ++ ending) = some (.comment, text.length) := by
  have hhead : (text ++ ending).head? = some '#' := by
    rw [List.head?_append, h.head]
    rfl
  have hbody : ∀ c ∈ text, (c != '\r' && c != '\n') = true := by simpa using h.ends
  have hrest : ending.takeWhile (fun c => c != '\r' && c != '\n') = [] := by
    obtain rfl | rfl | rfl := hending <;> rfl
  rw [lexeme?_comment hhead, List.takeWhile_append_of_pos hbody, hrest, List.append_nil]

/-- The line end is no part of a comment. -/
theorem IsCommentText.dropTrailing_append {text : List Char} (h : IsCommentText text)
    {ending : List Char} (hending : IsLineEnd ending) :
    Text.dropTrailing (fun c => c = '\r' || c = '\n') (text ++ ending) = text := by
  refine Text.dropTrailing_append_of_last ?_ fun c hc => ?_
  · obtain rfl | rfl | rfl := hending <;> simp
  · simpa using h.ends c (List.mem_of_getLast? hc)

/-- The scan of a line finds what is read in it. -/
theorem Reads.scan {line : List Char} {reading : Reading} (h : Reads line reading) (row : Nat)
    {fuel : Nat} (hfuel : line.length ≤ fuel) {state : ScanState} (hstate : state.Opens none)
    (column : Nat) :
    commentSpans (scanElements row fuel state column line).2 = reading.spans column ∧
      (scanElements row fuel state column line).1.Opens reading.opens := by
  induction h generalizing fuel state column with
  | @blank margin hmargin =>
    rw [scanElements_blank hmargin]
    exact ⟨rfl, hstate⟩
  -- Behind a comment there is nothing but a line end.
  | @comment margin text ending hmargin htext hending =>
    obtain ⟨rest, rfl⟩ := List.head?_eq_some_iff.1 htext.head
    have hlexeme := htext.lexeme?_append hending
    rw [List.append_assoc] at hfuel ⊢
    have hhash : isMargin '#' = false := rfl
    obtain ⟨htake, hdrop⟩ := margin_append hmargin hhash (rest ++ ending)
    rw [List.length_append, List.cons_append, List.length_cons, List.length_append] at hfuel
    obtain ⟨fuel, rfl⟩ : ∃ more, fuel = more + 1 := ⟨fuel - 1, by omega⟩
    have hrest : ending.length ≤ fuel := by omega
    obtain ⟨hspans, hopens⟩ := scanElements_lineEnd hending row hrest hstate
      (column + margin.length + ('#' :: rest).length)
    rw [List.cons_append] at hlexeme ⊢
    rw [scanElements, hdrop, htake]
    simp only [hlexeme]
    rw [← List.cons_append, List.drop_left]
    refine ⟨?_, hopens⟩
    show commentSpans (⟨.comment, _, _⟩ :: _) = _
    rw [commentSpans, List.filterMap_cons]
    show _ :: commentSpans _ = _
    rw [hspans]
    rfl
  -- The columns of what is read behind an element are counted from its end.
  | @element margin c cs n reading hmargin hc hadvance _ ih =>
    obtain ⟨fuel', state', hfuel', ⟨hstring, hstrict⟩, hresumes⟩ :=
      scanElements_advance hmargin hc hadvance row hfuel state column
    have hstate' : state'.Opens none := ⟨hstring ▸ hstate.string, hstrict ▸ hstate.strict, nofun⟩
    obtain ⟨hspans, hopens⟩ := ih hfuel' hstate' (column + (margin.length + n))
    have hlength : (margin ++ (c :: cs).take n).length = margin.length + n := by
      rw [List.length_append, List.length_take, Nat.min_eq_left (advance?_le hadvance).2]
    rw [Reading.spans_behind, Reading.opens_behind, hlength, hresumes.state, hresumes.spans]
    exact ⟨hspans, hopens⟩
  | @opening margin c cs quote triple hmargin hc hopens =>
    obtain ⟨hmarks, hopens'⟩ := scanElements_opens hmargin hc hopens row hfuel hstate column
    rw [hmarks]
    exact ⟨rfl, hopens'⟩

/-- What comes of a line is what is read in it, unless the line agrees with no block around it. -/
def LineResult.Finds (reading : Reading) : LineResult → Prop
  | .next scan => commentSpans scan.2 = reading.spans 0 ∧ scan.1.Opens reading.opens
  | .finished => reading = .plain
  | .failed marks fault => marks = [] ∧ fault = .unindent

section Statement

/-- Nothing is read in nothing. -/
theorem Reads.eq_plain {line : List Char} {reading : Reading} (h : Reads line reading)
    (hnil : line = []) : reading = .plain := by
  cases h with
  | blank => rfl
  | comment hmargin htext hending =>
    obtain ⟨rest, rfl⟩ := List.head?_eq_some_iff.1 htext.head
    simp at hnil
  | element => simp at hnil
  | opening => simp at hnil

variable {margin : List Char} (hmargin : ∀ c ∈ margin, isMargin c = true) {c : Char}
  (hc : isMargin c = false) {cs : List Char}
include hmargin hc

/-- The scan of a statement finds what is read behind its blanks. -/
theorem scanStatement_finds (hhash : c ≠ '#') (hends : c ≠ '\r' ∧ c ≠ '\n') {reading : Reading}
    (h : Reads (c :: cs) reading) (row : Nat) {state : ScanState} (hstate : state.Opens none) :
    (scanStatement state row (margin ++ c :: cs)).Finds (reading.behind margin) := by
  obtain ⟨htake, hdrop⟩ := margin_append hmargin hc cs
  have hfuel : (c :: cs).length ≤ (margin ++ c :: cs).length := by
    rw [List.length_append]
    exact Nat.le_add_left _ _
  -- The marks for blocks are no comments, and the state differs in the blocks only.
  have hscan : ∀ state' : ScanState, state'.openString = state.openString →
      state'.strict = state.strict → ∀ marks, commentSpans marks = [] →
      (LineResult.next ((scanElements row (margin ++ c :: cs).length state' margin.length
          (c :: cs)).1, marks ++ (scanElements row (margin ++ c :: cs).length state' margin.length
          (c :: cs)).2)).Finds (reading.behind margin) := by
    intro state' hstring hstrict marks hmarks
    have hstate' : state'.Opens none := ⟨hstring ▸ hstate.string, hstrict ▸ hstate.strict, nofun⟩
    obtain ⟨hspans, hopens⟩ := h.scan row hfuel hstate' margin.length
    refine ⟨?_, ?_⟩
    · rw [Reading.spans_behind, Nat.zero_add, ← hspans]
      show commentSpans (marks ++ _) = _
      rw [commentSpans, List.filterMap_append]
      show commentSpans marks ++ _ = _
      rw [hmarks]
      rfl
    · rw [Reading.opens_behind]
      exact hopens
  unfold scanStatement
  simp only [hdrop, htake, if_neg hhash, hends.1, hends.2, decide_false, Bool.or_self,
    Bool.false_eq_true, if_false]
  split
  · exact hscan { state with blocks := reach 0 margin :: state.blocks } rfl rfl
      [⟨.indent, ⟨row, 0⟩, ⟨row, margin.length⟩⟩] rfl
  · split
    · exact ⟨rfl, rfl⟩
    case h_2 blocks closed hclose =>
      refine hscan { state with blocks } rfl rfl
        (List.replicate closed ⟨.dedent, ⟨row, margin.length⟩, ⟨row, margin.length⟩⟩) ?_
      rw [commentSpans, List.filterMap_replicate]
      rfl

/-- A line end behind blanks is a line of its own. -/
theorem scanStatement_lineEnd (hhash : c ≠ '#') (hends : c = '\r' ∨ c = '\n') (row : Nat)
    {state : ScanState} (hstate : state.Opens none) :
    (scanStatement state row (margin ++ c :: cs)).Finds .plain := by
  obtain ⟨htake, hdrop⟩ := margin_append hmargin hc cs
  have hends' : (decide (c = '\r') || decide (c = '\n')) = true := by simpa using hends
  unfold scanStatement
  simp only [hdrop, htake, if_neg hhash, hends', if_true]
  exact ⟨rfl, hstate⟩

end Statement

/-- What ends a line well and begins with a character of a line end is a line end. -/
theorem WellEnded.eq_lineEnd {c : Char} {cs : List Char} (h : WellEnded (c :: cs))
    (hc : c = '\r' ∨ c = '\n') : c :: cs = ['\n'] ∨ c :: cs = ['\r', '\n'] := by
  obtain ⟨hfeed, hreturn⟩ := h [] c cs rfl
  obtain rfl | rfl := hc
  · exact .inr (by rw [hreturn rfl])
  · exact .inl (by rw [hfeed rfl])

/-- The scan of a statement finds what is read in its line. -/
theorem Reads.scanStatement {line : List Char} {reading : Reading} (h : Reads line reading)
    (hends : WellEnded line) (row : Nat) {state : ScanState} (hstate : state.Opens none) :
    (scanStatement state row line).Finds reading := by
  cases h with
  | blank hmargin =>
    unfold Source.scanStatement
    simp only [List.dropWhile_eq_nil_iff.2 hmargin]
    rfl
  | @comment margin text ending hmargin htext hending =>
    obtain ⟨rest, rfl⟩ := List.head?_eq_some_iff.1 htext.head
    have hhash : isMargin '#' = false := rfl
    obtain ⟨htake, hdrop⟩ := margin_append hmargin hhash (rest ++ ending)
    have hcomment := htext.dropTrailing_append hending
    rw [List.cons_append] at hcomment
    rw [List.append_assoc, List.cons_append]
    unfold Source.scanStatement
    simp only [hdrop, htake, hcomment, if_true]
    refine ⟨?_, hstate⟩
    show [(margin.length, margin.length + ('#' :: rest).length)] = _
    rw [Reading.spans, Nat.zero_add]
  | @element margin c cs n reading hmargin hc hadvance h =>
    have hhash : c ≠ '#' := by
      rintro rfl
      rw [advance?, lexeme?_comment rfl] at hadvance
      cases hadvance
    -- A blank line is nothing but its line end, and otherwise a statement begins.
    by_cases hline : c = '\r' ∨ c = '\n'
    · have hplain : reading = .plain := by
        refine h.eq_plain ?_
        obtain heq | heq := hends.of_append.eq_lineEnd hline <;>
          · rw [heq] at hadvance ⊢
            obtain rfl := Option.some.inj hadvance
            rfl
      rw [hplain]
      exact scanStatement_lineEnd hmargin hc hhash hline row hstate
    · rw [not_or] at hline
      have hbody := Reads.element (List.forall_mem_nil _) hc hadvance h
      rw [List.nil_append, List.nil_append] at hbody
      rw [← Reading.behind_behind]
      exact scanStatement_finds hmargin hc hhash hline hbody row hstate
  | @opening margin c cs quote triple hmargin hc hopens =>
    have hhash : c ≠ '#' := by
      rintro rfl
      rw [opens?, lexeme?_comment rfl] at hopens
      cases hopens
    -- No line end opens a string.
    have hline : c ≠ '\r' ∧ c ≠ '\n' := by
      rw [← not_or]
      intro hline
      obtain heq | heq := hends.of_append.eq_lineEnd hline <;>
        · rw [heq] at hopens
          cases hopens
    have hbody := Reads.opening (List.forall_mem_nil _) hc hopens
    rw [List.nil_append] at hbody
    exact scanStatement_finds hmargin hc hhash hline hbody row hstate

/-- The open string of a state in which one is open. -/
theorem ScanState.Opens.exists_string {state : ScanState} {quote : Char} {triple : Bool}
    (h : state.Opens (some (quote, triple))) :
    ∃ start, state.openString = some ⟨quote, triple, start⟩ := by
  obtain ⟨⟨quote', triple', start⟩, hstring, heq⟩ := Option.map_eq_some_iff.1 h.string
  cases heq
  exact ⟨start, hstring⟩

/-- The scan of a line finds what is read in it. -/
theorem LineReads.scanLine {opened : Option (Char × Bool)} {line : List Char} {reading : Reading}
    (h : LineReads opened line reading) (hends : WellEnded line) (row : Nat) {state : ScanState}
    (hstate : state.Opens opened) : (scanLine state row line).Finds reading := by
  unfold Source.scanLine
  cases h with
  -- No string is open in front of the line.
  | fresh h =>
    rw [Option.map_eq_none_iff.1 hstate.string]
    simp only
    split
    · exact h.scanStatement hends row hstate
    · have hstate' : ScanState.Opens { state with joined := false, openString := none } none :=
        ⟨rfl, hstate.strict, nofun⟩
      exact h.scan row (Nat.le_refl _) hstate' 0
  -- An open string ends on the line, and the rest is scanned as if it stood there alone.
  | @closes quote triple line n reading hclose h =>
    obtain ⟨start, hstring⟩ := hstate.exists_string
    have hstate' : ScanState.Opens { state with openString := none, strict := false } none :=
      ⟨rfl, rfl, nofun⟩
    have hfuel : (line.drop n).length ≤ line.length := by
      rw [List.length_drop]
      exact Nat.sub_le _ _
    have hlength : (line.take n).length = n := by
      rw [List.length_take, Nat.min_eq_left (closingLength?_le hclose).2]
    obtain ⟨hspans, hopens⟩ := h.scan row hfuel hstate' n
    rw [hstring]
    simp only [scanString, hclose]
    refine ⟨?_, ?_⟩
    · rw [Reading.spans_behind, Nat.zero_add, hlength]
      exact hspans
    · rw [Reading.opens_behind]
      exact hopens
  -- An open string has no end on the line, and is not of the kind that has to.
  | @goesOn quote triple line hclose hon =>
    obtain ⟨start, hstring⟩ := hstate.exists_string
    have hgoes : (state.strict && !endsInBackslash line) = false := by
      rw [hstate.strict]
      obtain rfl | hslash := hon
      · rfl
      · rw [hslash]
        exact Bool.and_false _
    rw [hstring]
    simp only [scanString, hclose, hgoes, Bool.false_eq_true, if_false]
    exact ⟨rfl, hstate⟩

/-- A line that breaks off no string can be read. -/
theorem exists_lineReads {line : List Char} (hends : WellEnded line) {row : Nat}
    {state : ScanState} {opened : Option (Char × Bool)} (hstate : state.Opens opened)
    (hrow : ∀ string ∈ state.openString, string.start.row < row)
    (hstray : ∀ scan, scanLine state row line = .next scan →
      ∀ mark ∈ scan.2, mark.kind = .stray → mark.start.row = mark.stop.row) :
    ∃ reading, LineReads opened line reading := by
  cases opened with
  | none =>
    obtain ⟨reading, h⟩ := exists_reads hends
    exact ⟨reading, .fresh h⟩
  | some string =>
    obtain ⟨quote, triple⟩ := string
    obtain ⟨start, hstring⟩ := hstate.exists_string
    cases hclose : closingLength? quote triple line with
    | some n =>
      obtain ⟨reading, h⟩ := exists_reads (hends.drop n)
      exact ⟨_, .closes hclose h⟩
    | none =>
      by_cases hbreaks : (state.strict && !endsInBackslash line) = true
      · -- The string breaks off, and is a stray mark that begins on a line before.
        have hscan : scanLine state row line = .next ({ state with openString := none },
            [⟨.stray, start, ⟨row, line.length⟩⟩]) := by
          rw [Source.scanLine, hstring]
          simp only [scanString, hclose, hbreaks, if_true]
        have hsame := hstray _ hscan _ (List.mem_singleton.2 rfl) rfl
        exact absurd hsame (Nat.ne_of_lt (hrow _ hstring))
      · refine ⟨_, .goesOn hclose ?_⟩
        rw [hstate.strict] at hbreaks
        cases triple with
        | true => exact .inl rfl
        | false => simpa using hbreaks

end Hashmark.Source
