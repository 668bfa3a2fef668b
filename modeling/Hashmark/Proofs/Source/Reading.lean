import Hashmark.Proofs.Source.Locality
import Hashmark.Source.Scan
import Mathlib.Data.List.Basic
import Mathlib.Data.List.TakeWhile

/-!
# How a line is read

A line is read element by element (`Reads`, and `LineReads` if it may begin within a string), and
one of three things is found in it (`Reading`): nothing, a comment at its end, or a string that goes
on behind it. Every line whose line end is in order can be read (`exists_reads`). The part of a line
before a comment is read alike if a line end takes the place of the comment, unless a backslash
stands right before it (`LineReads.truncate`).
-/

namespace Hashmark.Source

/-- What is found in a line. -/
inductive Reading where
  /-- No comment, and no string is open behind the line. -/
  | plain
  /-- A comment, between the text in front of it and the line end. -/
  | comment (before text ending : List Char)
  /-- No comment, and a string is open behind the line. -/
  | opened (quote : Char) (triple : Bool)

namespace Reading

/-- What is found in a line with more text in front. -/
def behind (front : List Char) : Reading → Reading
  | .plain => .plain
  | .comment before text ending => .comment (front ++ before) text ending
  | .opened quote triple => .opened quote triple

/-- Where the comments begin and end, in a line that begins at `column`. -/
def spans (column : Nat) : Reading → List (Nat × Nat)
  | .comment before text _ => [(column + before.length, column + before.length + text.length)]
  | _ => []

/-- The string that is open behind the line: its quote, and whether it is triple. -/
def opens : Reading → Option (Char × Bool)
  | .opened quote triple => some (quote, triple)
  | _ => none

/-- Text in front moves the comments. -/
theorem spans_behind (column : Nat) (front : List Char) (reading : Reading) :
    (reading.behind front).spans column = reading.spans (column + front.length) := by
  cases reading with
  | comment before text ending =>
    simp only [behind, spans, List.length_append, Nat.add_assoc]
  | _ => rfl

/-- Text in front leaves the string open that is. -/
@[simp] theorem opens_behind (front : List Char) (reading : Reading) :
    (reading.behind front).opens = reading.opens := by
  cases reading <;> rfl

/-- More text in front of text in front. -/
@[simp] theorem behind_behind (front more : List Char) (reading : Reading) :
    (reading.behind more).behind front = reading.behind (front ++ more) := by
  cases reading <;> simp [behind]

end Reading

/-- A comment, up to the end of its line. -/
structure IsCommentText (text : List Char) : Prop where
  /-- It begins with a number sign. -/
  head : text.head? = some '#'
  /-- It has no line end. -/
  ends : ∀ c ∈ text, c ≠ '\r' ∧ c ≠ '\n'

/-- A comment begins with a number sign whatever follows. -/
theorem IsCommentText.head?_append {text : List Char} (h : IsCommentText text)
    (rest : List Char) : (text ++ rest).head? = some '#' := by
  rw [List.head?_append, h.head]
  rfl

/-- How far the element goes that begins a text, if it is no comment and ends on the line. A
character that begins no element counts as one. -/
def advance? (body : List Char) : Option Nat :=
  match lexeme? body with
  | none => some 1
  | some (.comment, _) => none
  | some (.brokenString _, _) => none
  | some (.tripleQuote quote, n) => (closingLength? quote true (body.drop n)).map (n + ·)
  | some (_, n) => some n

/-- The string that begins a text and does not end on the line. -/
def opens? (body : List Char) : Option (Char × Bool) :=
  match lexeme? body with
  | some (.brokenString quote, _) => some (quote, false)
  | some (.tripleQuote quote, n) =>
    if closingLength? quote true (body.drop n) = none then some (quote, true) else none
  | _ => none

/-- How a line is read that begins outside of strings: element by element, each behind blanks. -/
inductive Reads : List Char → Reading → Prop
  /-- The rest is blank. -/
  | blank {margin : List Char} (hmargin : ∀ c ∈ margin, isMargin c = true) : Reads margin .plain
  /-- A comment ends the line. -/
  | comment {margin text ending : List Char} (hmargin : ∀ c ∈ margin, isMargin c = true)
      (htext : IsCommentText text) (hending : IsLineEnd ending) :
      Reads (margin ++ text ++ ending) (.comment margin text ending)
  /-- An element, or a character that begins none, and then the rest. -/
  | element {margin : List Char} {c : Char} {cs : List Char} {n : Nat} {reading : Reading}
      (hmargin : ∀ c ∈ margin, isMargin c = true) (hc : isMargin c = false)
      (hadvance : advance? (c :: cs) = some n) (h : Reads ((c :: cs).drop n) reading) :
      Reads (margin ++ c :: cs) (reading.behind (margin ++ (c :: cs).take n))
  /-- A string goes on behind the line. -/
  | opening {margin : List Char} {c : Char} {cs : List Char} {quote : Char} {triple : Bool}
      (hmargin : ∀ c ∈ margin, isMargin c = true) (hc : isMargin c = false)
      (hopens : opens? (c :: cs) = some (quote, triple)) :
      Reads (margin ++ c :: cs) (.opened quote triple)

/-- A line whose carriage return stands before its line feed, which ends it. -/
def WellEnded (line : List Char) : Prop :=
  ∀ before c after, line = before ++ c :: after →
    (c = '\n' → after = []) ∧ (c = '\r' → after = ['\n'])

/-- The rest of a line ends as the line does. -/
theorem WellEnded.of_append {front rest : List Char} (h : WellEnded (front ++ rest)) :
    WellEnded rest := by
  intro before c after hrest
  exact h (front ++ before) c after (by rw [hrest, List.append_assoc])

/-- What is left of a line ends as the line does. -/
theorem WellEnded.drop {line : List Char} (h : WellEnded line) (n : Nat) :
    WellEnded (line.drop n) := by
  rw [← List.take_append_drop n line] at h
  exact h.of_append

section Exists

/-- An element has at least one character and ends within the text. -/
theorem advance?_le {c : Char} {cs : List Char} {n : Nat} (h : advance? (c :: cs) = some n) :
    0 < n ∧ n ≤ (c :: cs).length := by
  unfold advance? at h
  split at h
  · obtain rfl := Option.some.inj h
    exact ⟨Nat.one_pos, Nat.succ_le_succ (Nat.zero_le _)⟩
  · cases h
  · cases h
  case h_4 quote length hlexeme =>
    obtain ⟨more, hmore, rfl⟩ := Option.map_eq_some_iff.1 h
    have hlength := lexeme?_le hlexeme
    have hle := (closingLength?_le hmore).2
    rw [List.length_drop] at hle
    omega
  case h_5 lexeme length hlexeme =>
    obtain rfl := Option.some.inj h
    exact lexeme?_le hlexeme

/-- A comment begins with a number sign, and a string that may go on with a quote. -/
theorem form_of_lexeme? {body : List Char} {lexeme : Lexeme} {n : Nat}
    (h : lexeme? body = some (lexeme, n)) :
    match lexeme with
    | .comment => body.head? = some '#'
    | .tripleQuote quote => quote = '\'' ∨ quote = '"'
    | .brokenString quote => quote = '\'' ∨ quote = '"'
    | _ => True := by
  rw [lexeme?_eq] at h
  -- In the order in which lexemes are looked for: joins, comments, triple quotes, numbers, line
  -- ends, operators, strings in quotes, words.
  split at h
  · cases h
    trivial
  split at h
  case isTrue hhash =>
    cases h
    exact hhash
  split at h
  case h_1 m quote htripled =>
    cases h
    unfold tripled? at htripled
    split at htripled
    · cases htripled
    · split at htripled
      · cases htripled
        exact (quote_of_opening? ‹_›).2.2
      · cases htripled
  split at h
  · cases h
    trivial
  split at h
  · cases h
    trivial
  split at h
  · cases h
    trivial
  split at h
  case h_1 hclosed =>
    cases h
    -- A string in quotes ends on its line, or it is broken off there.
    unfold closed? at hclosed
    split at hclosed
    · cases hclosed
    case h_2 m quote hopening =>
      obtain ⟨⟨length, broken⟩, -, heq⟩ := Option.map_eq_some_iff.1 hclosed
      cases broken <;> cases heq
      · trivial
      · exact (quote_of_opening? hopening).2.2
  case h_2 =>
    unfold word? at h
    split at h <;> cases h
    trivial

/-- What is no comment either ends on its line or opens a string. -/
theorem exists_opens {body : List Char} (hhash : body.head? ≠ some '#')
    (h : advance? body = none) : ∃ quote triple, opens? body = some (quote, triple) := by
  unfold advance? at h
  split at h
  · cases h
  case h_2 hlexeme => exact absurd (form_of_lexeme? hlexeme) hhash
  case h_3 quote n hlexeme => exact ⟨quote, false, by rw [opens?, hlexeme]⟩
  case h_4 quote n hlexeme =>
    rw [Option.map_eq_none_iff] at h
    refine ⟨quote, true, ?_⟩
    rw [opens?, hlexeme]
    exact if_pos h
  · cases h

/-- What follows a comment is the line end. -/
theorem WellEnded.isLineEnd_dropWhile {body : List Char} (h : WellEnded body) :
    IsLineEnd (body.dropWhile fun c => c != '\r' && c != '\n') := by
  have hsplit := List.takeWhile_append_dropWhile (p := fun c => c != '\r' && c != '\n') (l := body)
  have hhead := List.head?_dropWhile_not (fun c => c != '\r' && c != '\n') body
  generalize body.dropWhile (fun c => c != '\r' && c != '\n') = ending at hsplit hhead
  cases ending with
  | nil => exact .inl rfl
  | cons c after =>
    obtain ⟨hfeed, hreturn⟩ := h _ c after hsplit.symm
    by_cases hc : c = '\n'
    · exact .inr (.inl (by rw [hc, hfeed hc]))
    · have hc' : c = '\r' := by
        simpa [hc] using hhead
      exact .inr (.inr (by rw [hc', hreturn hc']))

/-- Every line that ends well can be read. -/
theorem exists_reads {line : List Char} (h : WellEnded line) : ∃ reading, Reads line reading := by
  induction hn : line.length using Nat.strongRecOn generalizing line with
  | ind n ih =>
    have hmargin : ∀ c ∈ line.takeWhile isMargin, isMargin c = true :=
      fun c hc => List.mem_takeWhile_imp hc
    have hsplit := List.takeWhile_append_dropWhile (p := isMargin) (l := line)
    have hhead := List.head?_dropWhile_not isMargin line
    have hbody : WellEnded (line.dropWhile isMargin) := (hsplit ▸ h).of_append
    generalize line.takeWhile isMargin = margin at hmargin hsplit
    generalize line.dropWhile isMargin = body at hsplit hhead hbody
    cases body with
    | nil =>
      rw [List.append_nil] at hsplit
      exact ⟨.plain, hsplit ▸ Reads.blank hmargin⟩
    | cons c cs =>
      by_cases hhash : (c :: cs).head? = some '#'
      · have hcomment := List.takeWhile_append_dropWhile (p := fun c => c != '\r' && c != '\n')
          (l := c :: cs)
        rw [← hcomment, ← List.append_assoc] at hsplit
        refine ⟨_, hsplit ▸ Reads.comment hmargin ⟨?_, ?_⟩ hbody.isLineEnd_dropWhile⟩
        · obtain rfl : c = '#' := by simpa using hhash
          rfl
        · intro c hc
          simpa using List.mem_takeWhile_imp hc
      · cases hadvance : advance? (c :: cs) with
        | some length =>
          have hpos := (advance?_le hadvance).1
          have hshort : ((c :: cs).drop length).length < n := by
            rw [← hn, ← hsplit, List.length_append, List.length_drop, List.length_cons]
            omega
          obtain ⟨reading, hreading⟩ := ih _ hshort (hbody.drop length) rfl
          exact ⟨_, hsplit ▸ Reads.element hmargin hhead hadvance hreading⟩
        | none =>
          obtain ⟨quote, triple, hopens⟩ := exists_opens hhash hadvance
          exact ⟨_, hsplit ▸ Reads.opening hmargin hhead hopens⟩

end Exists

/-- How a line is read that may begin within a string. -/
inductive LineReads : Option (Char × Bool) → List Char → Reading → Prop
  /-- No string is open. -/
  | fresh {line : List Char} {reading : Reading} (h : Reads line reading) :
      LineReads none line reading
  /-- The string closes, and then the rest. -/
  | closes {quote : Char} {triple : Bool} {line : List Char} {n : Nat} {reading : Reading}
      (hclose : closingLength? quote triple line = some n) (h : Reads (line.drop n) reading) :
      LineReads (some (quote, triple)) line (reading.behind (line.take n))
  /-- The string goes on behind the line. -/
  | goesOn {quote : Char} {triple : Bool} {line : List Char}
      (hclose : closingLength? quote triple line = none)
      (hon : triple = true ∨ endsInBackslash line = true) :
      LineReads (some (quote, triple)) line (.opened quote triple)

section Truncate

/-- What a text does not end in is not at the end of its last part. -/
theorem getLast?_ne_of_append {front rest : List Char} {c : Char}
    (h : (front ++ rest).getLast? ≠ some c) : rest.getLast? ≠ some c := by
  cases rest with
  | nil => exact nofun
  | cons d rest => rwa [List.getLast?_append_of_ne_nil _ (List.cons_ne_nil _ _)] at h

/-- What is found in a line with text in front is a comment if it is one without. -/
theorem Reading.behind_eq_comment {reading : Reading} {front before text ending : List Char}
    (h : reading.behind front = .comment before text ending) :
    ∃ rest, reading = .comment rest text ending ∧ before = front ++ rest := by
  cases reading with
  | comment rest text' ending' =>
    obtain ⟨rfl, rfl, rfl⟩ := Reading.comment.inj h
    exact ⟨rest, rfl, rfl⟩
  | plain => cases h
  | opened => cases h

/-- A line with a comment is made up of what is in front of the comment, the comment, and the line
end. -/
theorem Reads.eq_of_comment {line : List Char} {reading : Reading} (h : Reads line reading)
    {before text ending : List Char} (hreading : reading = .comment before text ending) :
    line = before ++ text ++ ending ∧ IsCommentText text ∧ IsLineEnd ending := by
  induction h generalizing before with
  | blank => cases hreading
  | comment hmargin htext hending =>
    cases hreading
    exact ⟨rfl, htext, hending⟩
  | @element margin c cs n reading hmargin hc hadvance _ ih =>
    obtain ⟨rest, rfl, rfl⟩ := Reading.behind_eq_comment hreading
    obtain ⟨hline, htext, hending⟩ := ih rfl
    refine ⟨?_, htext, hending⟩
    rw [List.append_assoc, List.append_assoc, List.append_assoc, ← List.append_assoc rest, ← hline,
      List.take_append_drop]
  | opening => cases hreading

/-- Blanks and a line end hold nothing. -/
theorem Reads.lineEnd {margin : List Char} (hmargin : ∀ c ∈ margin, isMargin c = true)
    {ending : List Char} (hending : IsLineEnd ending) : Reads (margin ++ ending) .plain := by
  have hblank : Reads [] .plain := .blank (List.forall_mem_nil _)
  obtain rfl | rfl | rfl := hending
  · rw [List.append_nil]
    exact .blank hmargin
  · have hfeed : advance? ['\n'] = some 1 := rfl
    exact Reads.element hmargin rfl hfeed hblank
  · have hreturn : advance? ['\r', '\n'] = some 2 := rfl
    exact Reads.element hmargin rfl hreturn hblank

/-- What begins a part of a line before a comment, and ends within it, begins it as well before a
line end in the place of the comment. -/
theorem advance?_append {x z e : List Char} (hne : x ≠ []) (hends : ∀ c ∈ x, c ≠ '\r' ∧ c ≠ '\n')
    (hlast : x.getLast? ≠ some '\\') (hz : z.head? = some '#') (he : IsLineEnd e) {n : Nat}
    (h : advance? (x ++ z) = some n) (hn : n ≤ x.length) : advance? (x ++ e) = some n := by
  -- Whatever is found in front of the comment ends there.
  have hfound : ∀ found ∈ lexeme? (x ++ z), found.2 ≤ x.length := by
    rintro ⟨lexeme, length⟩ hlexeme
    rw [advance?, Option.mem_def.1 hlexeme] at h
    cases lexeme with
    | comment => cases h
    | brokenString quote => cases h
    | tripleQuote quote =>
      obtain ⟨more, -, rfl⟩ := Option.map_eq_some_iff.1 h
      exact Nat.le_of_add_right_le hn
    | _ => exact Option.some.inj h ▸ hn
  have hlexeme := lexeme?_append hne hends hlast hz he hfound
  unfold advance? at h ⊢
  rw [hlexeme]
  cases hfound' : lexeme? (x ++ z) with
  | none =>
    rw [hfound'] at h
    exact h
  | some found =>
    obtain ⟨lexeme, length⟩ := found
    rw [hfound'] at h
    cases lexeme with
    | tripleQuote quote =>
      obtain ⟨more, hmore, rfl⟩ := Option.map_eq_some_iff.1 h
      have hapart := isApart_of_hash hz
      have hquote : ¬IsBoundary quote := by
        obtain rfl | rfl := form_of_lexeme? hfound' <;> decide
      have hle : length ≤ x.length := Nat.le_of_add_right_le hn
      have hrest : ∀ c ∈ x.drop length, c ≠ '\r' ∧ c ≠ '\n' :=
        fun c hc => hends c (List.mem_of_mem_drop hc)
      rw [List.drop_append_of_le_length hle] at hmore
      have hclose := closingLength?_append hquote hapart he.isApart hrest hmore
        (by rw [List.length_drop]; omega)
      simp only [List.drop_append_of_le_length hle, hclose]
      rfl
    | _ => exact h

/-- No character of a line end stands before a comment. -/
theorem WellEnded.ends_of_append {x z : List Char} (h : WellEnded (x ++ z))
    (hz : z.head? = some '#') : ∀ c ∈ x, c ≠ '\r' ∧ c ≠ '\n' := by
  intro c hc
  obtain ⟨before, after, rfl⟩ := List.append_of_mem hc
  obtain ⟨rest, rfl⟩ := List.head?_eq_some_iff.1 hz
  obtain ⟨hfeed, hreturn⟩ := h before c (after ++ '#' :: rest) (by simp)
  constructor
  · intro heq
    have hmem : '#' ∈ ['\n'] := hreturn heq ▸ List.mem_append_right after List.mem_cons_self
    simp at hmem
  · intro heq
    exact List.append_ne_nil_of_right_ne_nil after (List.cons_ne_nil _ _) (hfeed heq)

/-- A line end may take the place of a comment that does not stand right behind a backslash. -/
theorem Reads.truncate {line : List Char} {reading : Reading} (h : Reads line reading)
    {before text ending : List Char} (hreading : reading = .comment before text ending)
    (hends : WellEnded line) (hlast : before.getLast? ≠ some '\\') {e : List Char}
    (he : IsLineEnd e) : Reads (before ++ e) .plain := by
  induction h generalizing before with
  | blank => cases hreading
  | comment hmargin htext hending =>
    cases hreading
    exact .lineEnd hmargin he
  | @element margin c cs n reading hmargin hc hadvance h ih =>
    obtain ⟨rest, rfl, rfl⟩ := Reading.behind_eq_comment hreading
    obtain ⟨hline, htext, hending⟩ := h.eq_of_comment rfl
    obtain ⟨m, rfl⟩ :=
      Nat.exists_eq_add_one_of_ne_zero (Nat.pos_iff_ne_zero.1 (advance?_le hadvance).1)
    -- The element and what is left in front of the comment: the part of the body that stays.
    have hbody : c :: cs = (c :: (cs.take m ++ rest)) ++ (text ++ ending) := by
      rw [List.drop_succ_cons] at hline
      rw [List.cons_append, List.append_assoc, ← List.append_assoc rest, ← hline,
        List.take_append_drop]
    have hlength : (c :: cs.take m).length = m + 1 := by
      have hle := (advance?_le hadvance).2
      rw [List.length_cons] at hle
      rw [List.length_cons, List.length_take, Nat.min_eq_left (by omega)]
    have hhash := htext.head?_append ending
    have hends' := (hbody ▸ hends.of_append).ends_of_append hhash
    rw [List.take_succ_cons] at hlast ⊢
    generalize cs.take m = front at hbody hlength hends' hlast ⊢
    have hsplit : margin ++ c :: front ++ rest = margin ++ c :: (front ++ rest) := by
      rw [List.append_assoc, List.cons_append]
    have hlast' : (c :: (front ++ rest)).getLast? ≠ some '\\' :=
      getLast?_ne_of_append (hsplit ▸ hlast)
    have hle : m + 1 ≤ (c :: (front ++ rest)).length := by
      rw [← List.cons_append, List.length_append, hlength]
      exact Nat.le_add_right _ _
    have hadvance' : advance? (c :: (front ++ rest ++ e)) = some (m + 1) :=
      advance?_append (List.cons_ne_nil _ _) hends' hlast' hhash he (hbody ▸ hadvance) hle
    have hdrop : (c :: (front ++ rest ++ e)).drop (m + 1) = rest ++ e := by
      rw [List.append_assoc, ← List.cons_append, List.drop_left' hlength]
    have hrest := ih rfl (hends.of_append.drop _) (getLast?_ne_of_append hlast)
    have helement := Reads.element hmargin hc hadvance' (hdrop ▸ hrest)
    rw [hsplit, List.append_assoc, List.cons_append]
    exact helement
  | opening => cases hreading

/-- A line with a comment is made up of what is in front of the comment, the comment, and the line
end, also behind a string. -/
theorem LineReads.eq_of_comment {opened : Option (Char × Bool)} {line : List Char}
    {reading : Reading} (h : LineReads opened line reading) {before text ending : List Char}
    (hreading : reading = .comment before text ending) :
    line = before ++ text ++ ending ∧ IsCommentText text ∧ IsLineEnd ending := by
  cases h with
  | fresh h => exact h.eq_of_comment hreading
  | @closes quote triple _ n reading hclose h =>
    obtain ⟨rest, rfl, rfl⟩ := Reading.behind_eq_comment hreading
    obtain ⟨hline, htext, hending⟩ := h.eq_of_comment rfl
    refine ⟨?_, htext, hending⟩
    rw [List.append_assoc, List.append_assoc, ← List.append_assoc rest, ← hline,
      List.take_append_drop]
  | goesOn => cases hreading

/-- A line end may take the place of a comment that does not stand right behind a backslash, also
behind a string. -/
theorem LineReads.truncate {opened : Option (Char × Bool)} {line : List Char} {reading : Reading}
    (h : LineReads opened line reading) {before text ending : List Char}
    (hreading : reading = .comment before text ending) (hends : WellEnded line)
    (hopened : ∀ string ∈ opened, string.1 = '\'' ∨ string.1 = '"')
    (hlast : before.getLast? ≠ some '\\') {e : List Char} (he : IsLineEnd e) :
    LineReads opened (before ++ e) .plain := by
  cases h with
  | fresh h => exact .fresh (h.truncate hreading hends hlast he)
  | @closes quote triple _ n reading hclose h =>
    obtain ⟨rest, rfl, rfl⟩ := Reading.behind_eq_comment hreading
    obtain ⟨hline, htext, hending⟩ := h.eq_of_comment rfl
    have hhash := htext.head?_append ending
    have hapart := isApart_of_hash hhash
    have hbody : line = (line.take n ++ rest) ++ (text ++ ending) := by
      rw [List.append_assoc, ← List.append_assoc rest, ← hline, List.take_append_drop]
    have htake : (line.take n).length = n := by
      rw [List.length_take, Nat.min_eq_left (closingLength?_le hclose).2]
    generalize line.take n = front at hbody htake hlast ⊢
    have hquote : ¬IsBoundary quote := by
      obtain rfl | rfl := hopened _ rfl <;> decide
    have hclose' : closingLength? quote triple (front ++ rest ++ e) = some n :=
      closingLength?_append hquote hapart he.isApart ((hbody ▸ hends).ends_of_append hhash)
        (hbody ▸ hclose) (by rw [List.length_append, htake]; exact Nat.le_add_right _ _)
    have hdrop : (front ++ rest ++ e).drop n = rest ++ e := by
      rw [List.append_assoc, List.drop_left' htake]
    have hrest := h.truncate rfl (hends.drop n) (getLast?_ne_of_append hlast) he
    exact .closes hclose' (hdrop ▸ hrest)
  | goesOn => cases hreading

end Truncate

end Hashmark.Source
