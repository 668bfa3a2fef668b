import Hashmark.Proofs.Source.Items

/-!
# How a source is read

The parts of a source are what is read in its lines one after another, each from the string on that
the one before leaves open (`RowsRead`), if no string breaks off, each line agrees with a block
around it, and each carriage return stands before a line feed (`rowsRead_tokenize`). In front of any
other lines a line has the same parts for any scan that has the same string open, or the scan ends
there and finds no comment (`lineItems_of_reads`).
-/

namespace Hashmark.Source

section Rows

/-- Each of these lines ends well, and each but the last one ends in a line feed. -/
def AreRows : List (List Char) → Prop
  | [] => True
  | line :: rest => WellEnded line ∧ (rest = [] ∨ line.getLast? = some '\n') ∧ AreRows rest

/-- A character in front of a line that ends well. -/
theorem WellEnded.cons {c : Char} {line : List Char} (h : WellEnded line)
    (hfeed : c = '\n' → line = []) (hreturn : c = '\r' → line = ['\n']) :
    WellEnded (c :: line) := by
  intro before d after heq
  cases before with
  | nil =>
    obtain ⟨rfl, rfl⟩ := List.cons.inj heq
    exact ⟨hfeed, hreturn⟩
  | cons e before => exact h before d after (List.cons.inj heq).2

/-- An empty line ends well. -/
theorem wellEnded_nil : WellEnded [] := by
  intro before c after h
  simp at h

/-- Text without line ends, and a line end behind it, end well. -/
theorem IsLineEnd.wellEnded_append {ending : List Char} (h : IsLineEnd ending) {front : List Char}
    (hfront : ∀ c ∈ front, c ≠ '\r' ∧ c ≠ '\n') : WellEnded (front ++ ending) := by
  have hfeed : WellEnded ['\n'] := wellEnded_nil.cons (fun _ => rfl) (by simp)
  induction front with
  | nil =>
    obtain rfl | rfl | rfl := h
    · exact wellEnded_nil
    · exact hfeed
    · exact hfeed.cons (by simp) fun _ => rfl
  | cons c front ih =>
    obtain ⟨⟨hreturn, hnewline⟩, hfront⟩ := List.forall_mem_cons.1 hfront
    exact (ih hfront).cons (fun heq => absurd heq hnewline) fun heq => absurd heq hreturn

/-- The lines of a text end well if each carriage return in it stands before a line feed. -/
theorem areRows_lines {text : List Char}
    (h : ∀ before after, text = before ++ '\r' :: after → after.head? = some '\n') :
    AreRows (lines text) := by
  induction text with
  | nil => trivial
  | cons c cs ih =>
    have hcs := ih fun before after heq => h (c :: before) after (by rw [heq]; rfl)
    have hreturn : c = '\r' → cs.head? = some '\n' := by
      rintro rfl
      exact h [] cs rfl
    rw [lines]
    split
    case isTrue hc =>
      have hends : WellEnded [c] := wellEnded_nil.cons (fun _ => rfl) (by simp [hc])
      exact ⟨hends, .inr (by rw [hc]; rfl), hcs⟩
    case isFalse hc =>
      cases hlines : lines cs with
      | nil =>
        refine ⟨wellEnded_nil.cons (fun _ => rfl) fun heq => ?_, .inl rfl, trivial⟩
        rw [lines_eq_nil hlines] at hreturn
        cases hreturn heq
      | cons line rest =>
        rw [hlines] at hcs
        obtain ⟨hline, hlast, hrest⟩ := hcs
        refine ⟨hline.cons (fun heq => absurd heq hc) fun heq => ?_, ?_, hrest⟩
        · obtain ⟨tail, rfl⟩ := List.head?_eq_some_iff.1 (hreturn heq)
          rw [lines, if_pos rfl] at hlines
          exact (List.cons.inj hlines).1.symm
        · refine hlast.imp_right fun hfeed => ?_
          rw [List.getLast?_cons, hfeed]
          rfl

/-- A text without a line end is one line. -/
theorem lines_of_notMem {line : List Char} (hne : line ≠ []) (h : '\n' ∉ line) :
    lines line = [line] := by
  induction line with
  | nil => exact absurd rfl hne
  | cons c cs ih =>
    have hc : c ≠ '\n' := fun hc => h (hc ▸ List.mem_cons_self)
    rw [lines, if_neg hc]
    cases cs with
    | nil => rfl
    | cons d ds => rw [ih (List.cons_ne_nil d ds) fun hmem => h (List.mem_cons_of_mem c hmem)]

/-- A line that ends well is the first one of a text that it begins, and the others follow behind
its line end. -/
theorem WellEnded.lines_append {line : List Char} (h : WellEnded line) (hne : line ≠ [])
    {rest : List Char} (hlast : rest = [] ∨ line.getLast? = some '\n') :
    lines (line ++ rest) = line :: lines rest := by
  by_cases hfeed : '\n' ∈ line
  · obtain ⟨front, after, rfl⟩ := List.append_of_mem hfeed
    obtain rfl := (h front '\n' after rfl).1 rfl
    have hfront : '\n' ∉ front := by
      intro hmem
      obtain ⟨before, after, rfl⟩ := List.append_of_mem hmem
      have hnil := (h before '\n' (after ++ ['\n']) (by simp)).1 rfl
      simp at hnil
    rw [Source.lines_append (endsLine_concat front), lines_line hfront]
    rfl
  · have hrest : rest = [] := by
      refine hlast.resolve_right fun heq => hfeed ?_
      exact List.mem_of_getLast? heq
    rw [hrest, List.append_nil, lines_of_notMem hne hfeed]
    rfl

end Rows

section Read

/-- The parts of a line in which this is found. -/
def Reading.items (line : List Char) : Reading → List Item
  | .comment before text ending => chars before ++ .comment (String.ofList text) :: chars ending
  | _ => chars line

/-- A line is cut at the comment that is found in it. -/
theorem LineReads.cutSpans {opened : Option (Char × Bool)} {line : List Char} {reading : Reading}
    (h : LineReads opened line reading) :
    cutSpans 0 line (reading.spans 0) = reading.items line := by
  cases reading with
  | plain => rfl
  | opened quote triple => rfl
  | comment before text ending =>
    obtain ⟨rfl, -, -⟩ := h.eq_of_comment rfl
    rw [List.append_assoc]
    exact cutSpans_comment rfl rfl ending []

/-- The line end behind a comment is that of its line. -/
theorem LineReads.getLast?_ending {opened : Option (Char × Bool)}
    {line before text ending : List Char} (h : LineReads opened line (.comment before text ending))
    (hlast : line.getLast? = some '\n') : ending.getLast? = some '\n' := by
  obtain ⟨rfl, htext, rfl | rfl | rfl⟩ := h.eq_of_comment rfl
  · obtain ⟨rest, rfl⟩ := List.head?_eq_some_iff.1 htext.head
    rw [List.append_nil, List.getLast?_append_of_ne_nil _ (List.cons_ne_nil _ _)] at hlast
    exact absurd rfl (htext.ends _ (List.mem_of_getLast? hlast)).2
  · rfl
  · rfl

/-- The parts of lines that are read one after another, from a string on that may be open. -/
inductive RowsRead : Option (Char × Bool) → List (List Char) → List Item → Prop
  /-- There are no lines left. -/
  | nil {opened : Option (Char × Bool)} : RowsRead opened [] []
  /-- A line is read, and then the others. -/
  | cons {opened : Option (Char × Bool)} {line : List Char} {reading : Reading}
      {rest : List (List Char)} {items : List Item}
      (hopened : ∀ string ∈ opened, string.1 = '\'' ∨ string.1 = '"') (hends : WellEnded line)
      (hlast : rest = [] ∨ line.getLast? = some '\n') (hreads : LineReads opened line reading)
      (hrest : RowsRead reading.opens rest items) :
      RowsRead opened (line :: rest) (reading.items line ++ items)

/-- A line that ends the source early has only blanks. -/
theorem forall_isMargin_of_finished {state : ScanState} {row : Nat} {line : List Char}
    (h : scanLine state row line = .finished) : ∀ c ∈ line, isMargin c = true := by
  unfold scanLine at h
  split at h
  · cases h
  split at h
  · unfold scanStatement at h
    simp only at h
    split at h
    case h_1 hblank => exact List.dropWhile_eq_nil_iff.1 hblank
    case h_2 =>
      split at h
      · cases h
      split at h
      · cases h
      split at h
      · cases h
      split at h <;> cases h
  · cases h

/-- Lines are read as they are scanned, if the scan breaks off no string and every line agrees with
a block around it. -/
theorem rowsRead_lineItems {rows : List (List Char)} (hrows : AreRows rows) {row : Nat}
    {state : ScanState} {opened : Option (Char × Bool)} (hstate : state.Opens opened)
    (hbegan : state.Began fun place => place.row < row) {lastLine : List Char}
    (hfault : (scanLines state row lastLine rows).fault ≠ some .unindent)
    (hstray : ∀ mark ∈ (scanLines state row lastLine rows).marks,
      mark.kind = .stray → mark.start.row = mark.stop.row) :
    RowsRead opened rows (lineItems state row rows) := by
  induction rows generalizing row state opened lastLine with
  | nil => exact .nil
  | cons line rest ih =>
    obtain ⟨hends, hlast, hrest⟩ := hrows
    rw [scanLines] at hfault hstray
    rw [lineItems]
    -- Of the strings that are broken off, none begins on an earlier line, by assumption.
    have hstray' : ∀ scan, scanLine state row line = .next scan →
        ∀ mark ∈ scan.2, mark.kind = .stray → mark.start.row = mark.stop.row := by
      intro scan hscan mark hmark
      rw [hscan] at hstray
      exact hstray mark (List.mem_append_left _ hmark)
    obtain ⟨reading, hreads⟩ := exists_lineReads hends hstate hbegan hstray'
    have hfinds := hreads.scanLine hends row hstate
    cases hscan : scanLine state row line with
    | failed marks fault =>
      rw [hscan] at hfinds hfault
      exact absurd (congrArg some hfinds.2) hfault
    | finished =>
      rw [hscan] at hfinds
      obtain rfl : reading = .plain := hfinds
      -- A line of blanks alone has no line feed, and is the last one.
      have hmargin := forall_isMargin_of_finished hscan
      obtain rfl : rest = [] := by
        refine hlast.resolve_right fun hfeed => ?_
        cases hmargin _ (List.mem_of_getLast? hfeed)
      have hitems : chars [line].flatten = Reading.plain.items line ++ [] := by
        rw [List.flatten_singleton, List.append_nil]
        rfl
      simp only
      rw [hitems]
      exact .cons hstate.quote hends (.inl rfl) hreads .nil
    | next scan =>
      obtain ⟨state', marks⟩ := scan
      rw [hscan] at hfinds hfault hstray
      obtain ⟨hspans, hopens⟩ := hfinds
      simp only at hspans hopens ⊢
      -- A string that is open behind the line has begun above the next one.
      have hbegan' : state'.Began fun place => place.row < row + 1 := by
        refine began_scanLine (fun _ _ => Nat.lt_succ_self row) ?_ rfl hscan
        exact fun string hstring => Nat.lt_succ_of_lt (hbegan string hstring)
      have hrest' := ih hrest hopens hbegan' hfault fun mark hmark =>
        hstray mark (List.mem_append_right _ hmark)
      rw [hspans, hreads.cutSpans]
      exact .cons hstate.quote hends hlast hreads hrest'

/-- A line and the lines behind it have the parts that are read in it and those that the scan finds
behind it, unless the scan ends there. -/
theorem lineItems_of_reads {opened : Option (Char × Bool)} {line : List Char} {reading : Reading}
    (h : LineReads opened line reading) (hends : WellEnded line) (row : Nat) {state : ScanState}
    (hstate : state.Opens opened) (rest : List (List Char)) :
    (∃ state' : ScanState, state'.Opens reading.opens ∧
      lineItems state row (line :: rest) =
        reading.items line ++ lineItems state' (row + 1) rest) ∨
      lineItems state row (line :: rest) = chars (line :: rest).flatten := by
  have hfinds := h.scanLine hends row hstate
  rw [lineItems]
  cases hscan : scanLine state row line with
  | finished => exact .inr rfl
  | failed marks fault => exact .inr rfl
  | next scan =>
    obtain ⟨state', marks⟩ := scan
    rw [hscan] at hfinds
    obtain ⟨hspans, hopens⟩ := hfinds
    simp only at hspans hopens ⊢
    rw [hspans, h.cutSpans]
    exact .inl ⟨state', hopens, rfl⟩

/-- A source is read line by line if each carriage return stands before a line feed, each line
agrees with a block around it, and no stray text spans lines. -/
theorem rowsRead_tokenize {source : String}
    (hreturns : ∀ i < source.toList.length,
      source.toList[i]? = some '\r' → source.toList[i + 1]? = some '\n')
    (hunindent : (scan source.toList).fault ≠ some .unindent)
    (hstrays : ∀ mark ∈ (scan source.toList).marks,
      mark.kind = .stray → mark.start.row = mark.stop.row) :
    RowsRead none (lines source.toList) (items (tokenize source).tokens) := by
  have hrows : AreRows (lines source.toList) := by
    refine areRows_lines fun before after heq => ?_
    have hreturn := hreturns before.length (by rw [heq]; simp) (by rw [heq]; simp)
    rw [heq, List.getElem?_append_right (Nat.le_succ _)] at hreturn
    simpa [List.head?_eq_getElem?] using hreturn
  rw [items_tokenize]
  exact rowsRead_lineItems hrows ⟨rfl, rfl, nofun⟩ nofun hunindent hstrays

end Read

end Hashmark.Source
