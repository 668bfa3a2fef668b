import Hashmark.Proofs.Source.Extent

/-!
# Elements before a boundary

An element does not depend on what follows it, if that begins with a character that continues no
element: with a number sign, a carriage return or a line feed (`IsBoundary`). So what begins the
part of a line before a comment begins it as well if a line end takes the place of the comment
(`lexeme?_append`), and a string closes there alike (`closingLength?_append`). Only a backslash in
front of the comment changes this, which would join the line to the next.
-/

namespace Hashmark.Source

open Text (isDigit isHexDigit isWord)

/-- A character that continues no element, except within a string: it begins a comment or a line
end. -/
def IsBoundary (c : Char) : Prop :=
  c = '#' ∨ c = '\r' ∨ c = '\n'

instance (c : Char) : Decidable (IsBoundary c) :=
  inferInstanceAs (Decidable (c = '#' ∨ c = '\r' ∨ c = '\n'))

/-- A text that begins with a boundary, if it begins at all. -/
def IsApart (z : List Char) : Prop :=
  ∀ c ∈ z.head?, IsBoundary c

/-- What begins with a number sign is apart. -/
theorem isApart_of_hash {z : List Char} (h : z.head? = some '#') : IsApart z :=
  fun _ hc => .inl (Option.some.inj (hc.symm.trans h))

/-- A boundary is no digit. -/
theorem isDigit_boundary (c : Char) (hc : IsBoundary c) : isDigit c = false := by
  rcases hc with rfl | rfl | rfl <;> rfl

/-- Whether a text has no boundary can be computed. -/
theorem forall_not_isBoundary {cs : List Char}
    (h : (cs.all fun c => !decide (IsBoundary c)) = true) : ∀ c ∈ cs, ¬IsBoundary c := by
  simpa using h

/-- The letters that mark a string are no boundaries. -/
theorem not_isBoundary_of_marksString {letters : List Char} (h : marksString letters = true) :
    ∀ c ∈ letters, ¬IsBoundary c := by
  have hmarks : ∀ mark ∈ ["", "b", "r", "u", "f", "br", "rb", "fr", "rf"],
      (mark.toList.all fun c => !decide (IsBoundary c)) = true := by decide
  intro c hc hboundary
  refine forall_not_isBoundary (hmarks _ (List.contains_iff_mem.1 h)) c.toLower ?_ ?_
  · rw [String.toList_ofList]
    exact List.mem_map_of_mem hc
  · rcases hboundary with rfl | rfl | rfl <;> decide

/-- The character that follows a text is among more characters than the text has. -/
theorem mem_take_append {x z : List Char} {c : Char} {n : Nat} (h : x.length < n) :
    c ∈ (x ++ c :: z).take n := by
  rw [List.take_append, List.mem_append]
  right
  rw [List.mem_take_iff_getElem]
  exact ⟨0, by simp; omega, rfl⟩

section Apart

variable {z : List Char} (hz : IsApart z)
include hz

/-- What is the same for a boundary as for the end of the text is the same for a text that is
apart. -/
theorem IsApart.congr {α : Type} {f : List Char → α}
    (h : ∀ c, IsBoundary c → ∀ cs, f (c :: cs) = f []) : f z = f [] := by
  cases z with
  | nil => rfl
  | cons c cs => exact h c (hz c rfl) cs

/-- A run of digits ends before a boundary. -/
theorem separatedRun_append {digit : Char → Bool} (hdigit : ∀ c, IsBoundary c → digit c = false)
    (x : List Char) : separatedRun digit (x ++ z) = separatedRun digit x := by
  have hend : separatedRun digit z = 0 := by
    unfold separatedRun
    split
    · rfl
    · rw [if_neg (by rw [hdigit _ (hz _ rfl)]; exact Bool.false_ne_true)]
    · rw [if_neg (by rw [hdigit _ (hz _ rfl)]; exact Bool.false_ne_true)]
  fun_induction separatedRun digit x with
  | case1 => exact hend
  -- What stands behind is no digit, and no low line that could separate one.
  | case2 c hc =>
    cases z with
    | nil => simp [separatedRun, hc]
    | cons d z =>
      have hd := hz d rfl
      have hlow : d ≠ '_' := by rintro rfl; revert hd; decide
      simp [separatedRun, hc, hdigit d hd, hlow]
  | case3 c hc =>
    cases z with
    | nil => simp [separatedRun, hc]
    | cons d z => simp [separatedRun, hc]
  | case4 c d cs hc hd ih =>
    simp only [List.cons_append] at ih ⊢
    rw [separatedRun, if_pos hc, if_pos hd, ih]
  | case5 c cs hc hzero hlow ih =>
    simp only [List.cons_append]
    rw [separatedRun, if_pos hc, if_neg hlow, if_pos rfl, ih, hzero]
    rfl
  | case6 c cs hc hlow hpos ih =>
    simp only [List.cons_append]
    rw [separatedRun, if_pos hc, if_neg hlow, if_pos rfl, ih]
    split
    · contradiction
    · rfl
  | case7 c d cs hc hd hlow =>
    simp only [List.cons_append]
    rw [separatedRun, if_pos hc, if_neg hd, if_neg hlow]
  | case8 c d cs hc =>
    simp only [List.cons_append]
    rw [separatedRun, if_neg hc]

/-- A run of digits behind a mark ends before a boundary. -/
theorem baseRun_append {digit : Char → Bool} (hdigit : ∀ c, IsBoundary c → digit c = false)
    (x : List Char) : baseRun digit (x ++ z) = baseRun digit x := by
  cases x with
  | nil =>
    have hrun : separatedRun digit z = 0 := separatedRun_append hz hdigit []
    have hlow : ∀ cs, z ≠ '_' :: cs := by
      rintro cs rfl
      exact absurd (hz _ rfl) (by decide)
    rw [List.nil_append, baseRun]
    · exact hrun
    · exact hlow
  | cons c x =>
    have hrun := separatedRun_append hz hdigit
    by_cases hc : c = '_'
    · subst hc
      rw [List.cons_append, baseRun, baseRun, hrun]
    · rw [List.cons_append, baseRun, baseRun, ← List.cons_append, hrun]
      · simpa using hc
      · simpa using hc

/-- A sign ends before a boundary. -/
theorem signLength_append (x : List Char) : signLength (x ++ z) = signLength x := by
  cases x with
  | cons c x => rfl
  | nil => exact hz.congr (by rintro _ (rfl | rfl | rfl) _ <;> rfl)

/-- An exponent ends before a boundary. -/
theorem exponentLength_append (x : List Char) : exponentLength (x ++ z) = exponentLength x := by
  cases x with
  | cons e x =>
    rw [List.cons_append, exponentLength_cons, exponentLength_cons, signLength_append hz,
      List.drop_append_of_le_length (signLength_le x), separatedRun_append hz isDigit_boundary]
  | nil => exact hz.congr (by rintro _ (rfl | rfl | rfl) _ <;> rfl)

/-- A number with a point or an exponent ends before a boundary. -/
theorem decimalLength_append (x : List Char) : decimalLength (x ++ z) = decimalLength x := by
  have hrun := separatedRun_append hz isDigit_boundary
  have hwhole := separatedRun_le isDigit x
  have hdrop : (x ++ z).drop (separatedRun isDigit x) = x.drop (separatedRun isDigit x) ++ z :=
    List.drop_append_of_le_length hwhole
  by_cases hpoint : ∃ rest, x.drop (separatedRun isDigit x) = '.' :: rest
  · obtain ⟨rest, hrest⟩ := hpoint
    have hlength := congrArg List.length hrest
    rw [List.length_drop, List.length_cons] at hlength
    have hfraction := separatedRun_le isDigit rest
    have hbound : separatedRun isDigit x + 1 + separatedRun isDigit rest ≤ x.length := by omega
    have hrest' : (x ++ z).drop (separatedRun isDigit (x ++ z)) = '.' :: (rest ++ z) := by
      rw [hrun, hdrop, hrest]
      rfl
    rw [decimalLength_of_point hrest', decimalLength_of_point hrest, hrun, hrun,
      List.drop_append_of_le_length hbound, exponentLength_append hz]
  -- A point in front of what is behind would have been one of the text itself.
  · have hnone : ∀ rest, (x ++ z).drop (separatedRun isDigit (x ++ z)) ≠ '.' :: rest := by
      intro rest h
      rw [hrun, hdrop] at h
      cases hx : x.drop (separatedRun isDigit x) with
      | nil =>
        rw [hx, List.nil_append] at h
        exact absurd (hz '.' (by rw [h]; rfl)) (by decide)
      | cons c cs =>
        rw [hx, List.cons_append] at h
        exact hpoint ⟨cs, by rw [hx, (List.cons.inj h).1]⟩
    rw [decimalLength_of_no_point hnone, decimalLength_of_no_point fun rest h => hpoint ⟨rest, h⟩,
      hrun, hdrop, exponentLength_append hz]

/-- A number in another base ends before a boundary. -/
theorem basedLength_append (x : List Char) : basedLength (x ++ z) = basedLength x := by
  have hhex : ∀ c, IsBoundary c → isHexDigit c = false := by
    rintro c (rfl | rfl | rfl) <;> rfl
  have hbinary : ∀ c, IsBoundary c → (decide (c = '0') || decide (c = '1')) = false := by
    rintro c (rfl | rfl | rfl) <;> rfl
  have hoctal : ∀ c, IsBoundary c → (decide (48 ≤ c.toNat) && decide (c.toNat ≤ 55)) = false := by
    rintro c (rfl | rfl | rfl) <;> rfl
  cases x with
  | nil => exact hz.congr (by rintro _ (rfl | rfl | rfl) _ <;> rfl)
  | cons c x =>
    by_cases hc : c = '0'
    · subst hc
      cases x with
      | nil =>
        have hcongr : basedLength ('0' :: z) = basedLength ['0'] :=
          hz.congr (f := fun w => basedLength ('0' :: w)) (by rintro _ (rfl | rfl | rfl) _ <;> rfl)
        exact hcongr
      | cons mark rest =>
        simp only [List.cons_append, basedLength, baseRun_append hz hhex,
          baseRun_append hz hbinary, baseRun_append hz hoctal]
    · simp [basedLength, hc]

/-- A boundary is no j. -/
theorem beginsWithJ_append (x : List Char) : beginsWithJ (x ++ z) = beginsWithJ x := by
  cases x with
  | cons c x => rfl
  | nil => exact hz.congr (by rintro _ (rfl | rfl | rfl) _ <;> rfl)

/-- An integer ends before a boundary. -/
theorem integerLength_append (x : List Char) : integerLength (x ++ z) = integerLength x := by
  have hzeros : ∀ c, IsBoundary c → (c == '0') = false := by
    rintro c (rfl | rfl | rfl) <;> rfl
  have hhead : (x ++ z).head? = some '0' ↔ x.head? = some '0' := by
    cases x with
    | cons c x => exact Iff.rfl
    | nil => exact iff_of_false (fun h => absurd (hz '0' h) (by decide)) (by simp)
  rw [integerLength_eq, integerLength_eq, basedLength_append hz,
    separatedRun_append hz isDigit_boundary, separatedRun_append hz hzeros]
  simp only [hhead]

/-- A number ends before a boundary. -/
theorem numberLength_append (x : List Char) : numberLength (x ++ z) = numberLength x := by
  have hj : ∀ n, n ≤ x.length → beginsWithJ ((x ++ z).drop n) = beginsWithJ (x.drop n) := by
    intro n hn
    rw [List.drop_append_of_le_length hn, beginsWithJ_append hz]
  rw [numberLength_eq, numberLength_eq, separatedRun_append hz isDigit_boundary,
    decimalLength_append hz, integerLength_append hz, hj _ (separatedRun_le _ _),
    hj _ (decimalLength_le _)]

/-- A text of a certain length without boundaries stands at the beginning of what it stands at the
beginning of with what follows. -/
theorem take_append_eq_iff {op : List Char} {n : Nat} (hlength : op.length = n)
    (hop : ∀ c ∈ op, ¬IsBoundary c) (x : List Char) : (x ++ z).take n = op ↔ x.take n = op := by
  by_cases hn : n ≤ x.length
  · rw [List.take_append_of_le_length hn]
  · cases z with
    | nil => rw [List.append_nil]
    | cons d z =>
      -- The boundary that follows is no part of the text, and `x` alone is too short for it.
      refine iff_of_false ?_ ?_
      · intro h
        exact hop d (h ▸ mem_take_append (Nat.lt_of_not_le hn)) (hz d rfl)
      · intro h
        have hshort := congrArg List.length h
        rw [List.length_take] at hshort
        omega

/-- Whether one of these operators begins a text does not depend on what follows. -/
theorem contains_take_append {ops : List (List Char)} {n : Nat}
    (hlength : ∀ op ∈ ops, op.length = n)
    (hops : ∀ op ∈ ops, (op.all fun c => !decide (IsBoundary c)) = true) (x : List Char) :
    ops.contains ((x ++ z).take n) = ops.contains (x.take n) := by
  have hiff := fun op h =>
    take_append_eq_iff hz (hlength op h) (forall_not_isBoundary (hops op h)) x
  rw [Bool.eq_iff_iff, List.contains_iff_mem, List.contains_iff_mem]
  constructor
  · intro h
    rw [(hiff _ h).1 rfl]
    exact h
  · intro h
    rw [(hiff _ h).2 rfl]
    exact h

/-- An operator ends before a boundary. -/
theorem operatorLength_append (x : List Char) : operatorLength (x ++ z) = operatorLength x := by
  have hthree : operators3.contains ((x ++ z).take 3) = operators3.contains (x.take 3) :=
    contains_take_append hz (by decide) (by decide) x
  have htwo : operators2.contains ((x ++ z).take 2) = operators2.contains (x.take 2) :=
    contains_take_append hz (by decide) (by decide) x
  unfold operatorLength
  rw [hthree, htwo]
  cases x with
  | cons c x => rfl
  | nil =>
    cases z with
    | nil => rfl
    | cons d z => rcases hz d rfl with rfl | rfl | rfl <;> rfl

/-- A boundary is no quote. -/
theorem beginsWithQuote_append (x : List Char) :
    beginsWithQuote (x ++ z) = beginsWithQuote x := by
  cases x with
  | cons c x => rfl
  | nil => exact hz.congr (by rintro _ (rfl | rfl | rfl) _ <;> rfl)

/-- The letters that mark a string, and the quote behind them, stand before a boundary. -/
theorem markLength?_append (x : List Char) : markLength? (x ++ z) = markLength? x := by
  have hmark : ∀ n, (marksString ((x ++ z).take n) && beginsWithQuote ((x ++ z).drop n)) =
      (marksString (x.take n) && beginsWithQuote (x.drop n)) := by
    intro n
    by_cases hn : n ≤ x.length
    · rw [List.take_append_of_le_length hn, List.drop_append_of_le_length hn,
        beginsWithQuote_append hz]
    · have hlong : x.length ≤ n := Nat.le_of_not_le hn
      cases z with
      | nil => rw [List.append_nil]
      | cons d z =>
        -- A boundary is no letter that marks a string, and behind `x` alone stands no quote.
        have hletters : marksString ((x ++ d :: z).take n) = false := by
          refine Bool.eq_false_iff.2 fun hmarks => ?_
          exact not_isBoundary_of_marksString hmarks d (mem_take_append (Nat.lt_of_not_le hn))
            (hz d rfl)
        rw [hletters, List.drop_eq_nil_of_le hlong, Bool.false_and]
        exact (Bool.and_false _).symm
  rw [markLength?_eq, markLength?_eq]
  exact congrArg (fun p => List.find? p [0, 1, 2]) (funext hmark)

/-- The quote that opens a string stands before a boundary. -/
theorem opening?_append (x : List Char) : opening? (x ++ z) = opening? x := by
  unfold opening?
  rw [markLength?_append hz]
  split
  · rfl
  case h_2 n hn =>
    rw [markLength?_eq] at hn
    have hquote := List.find?_some hn
    have hlt : n < x.length := by
      by_cases hlt : n < x.length
      · exact hlt
      · simp [List.drop_eq_nil_of_le (Nat.le_of_not_lt hlt), beginsWithQuote] at hquote
    rw [List.getElem?_append_left hlt]

/-- A triple quote ends before a boundary. -/
theorem tripled?_append (x : List Char) : tripled? (x ++ z) = tripled? x := by
  unfold tripled?
  rw [opening?_append hz]
  split
  · rfl
  case h_2 n quote hopening =>
    obtain ⟨hlt, -, hquote⟩ := quote_of_opening? hopening
    have hquotes : ∀ c ∈ [quote, quote, quote], ¬IsBoundary c := by
      refine forall_not_isBoundary ?_
      obtain rfl | rfl := hquote <;> rfl
    have hlength : [quote, quote, quote].length = 3 := rfl
    simp only [List.drop_append_of_le_length (Nat.le_of_lt hlt),
      take_append_eq_iff hz hlength hquotes]

/-- A word ends before a boundary. -/
theorem word?_append (x : List Char) : word? (x ++ z) = word? x := by
  have hend : z.takeWhile isWord = [] := by
    cases z with
    | nil => rfl
    | cons d z =>
      have hd : isWord d = false := by
        rcases hz d rfl with rfl | rfl | rfl <;> decide
      rw [List.takeWhile_cons_of_neg (Bool.eq_false_iff.1 hd)]
  have hword : (x ++ z).takeWhile isWord = x.takeWhile isWord := by
    rw [List.takeWhile_append, hend, List.append_nil]
    split
    case isTrue hall => exact ((List.takeWhile_prefix isWord).eq_of_length hall).symm
    case isFalse => rfl
  unfold word?
  rw [hword]

end Apart

section Strings

/-- Induction over the text of a string, in which a backslash takes the next character along. -/
theorem escape_induction {P : List Char → Prop} (nil : P []) (backslash : P ['\\'])
    (escape : ∀ c cs, P cs → P ('\\' :: c :: cs)) (other : ∀ c cs, c ≠ '\\' → P cs → P (c :: cs)) :
    ∀ y, P y
  | [] => nil
  | [c] =>
    if hc : c = '\\' then hc ▸ backslash else other c [] hc nil
  | c :: d :: cs =>
    if hc : c = '\\' then
      hc ▸ escape d cs (escape_induction nil backslash escape other cs)
    else other c (d :: cs) hc (escape_induction nil backslash escape other (d :: cs))

/-- A backslash takes a character along that is none of a line end. -/
theorem stringRest?_escape (quote : Char) {c : Char} (hc : c ≠ '\r' ∧ c ≠ '\n') (cs : List Char) :
    stringRest? quote ('\\' :: c :: cs) =
      (stringRest? quote cs).map fun (n, broken) => (n + 2, broken) := by
  rw [stringRest?]
  · exact hc.2
  · exact fun _ h _ => hc.1 h

/-- Another character of a string, or its closing quote. -/
theorem stringRest?_cons (quote : Char) {c : Char} (hescape : c ≠ '\\') (hc : c ≠ '\n')
    (cs : List Char) :
    stringRest? quote (c :: cs) =
      if c = quote then some (1, false)
      else (stringRest? quote cs).map fun (n, broken) => (n + 1, broken) := by
  rw [stringRest?]
  · simp [hc, hescape]
  · exact fun _ h _ => hescape h
  · exact fun _ h _ => hescape h
  · exact fun _ _ h _ => hescape h

/-- A backslash is no quote: what is behind it belongs to the string. -/
theorem stringRest?_backslash {quote : Char} (hquote : quote = '\'' ∨ quote = '"') {z : List Char}
    {n : Nat} {broken : Bool} (h : stringRest? quote ('\\' :: z) = some (n, broken)) : 1 < n := by
  have hother : '\\' ≠ quote := by
    obtain rfl | rfl := hquote <;> decide
  cases z with
  | nil => simp [stringRest?, hother] at h
  | cons d z =>
    unfold stringRest? at h
    split at h
    · cases h
    · obtain ⟨rfl, -⟩ := Prod.mk.inj (Option.some.inj h)
      decide
    · obtain ⟨rfl, -⟩ := Prod.mk.inj (Option.some.inj h)
      decide
    · obtain ⟨⟨m, b⟩, hm, heq⟩ := Option.map_eq_some_iff.1 h
      obtain ⟨rfl, -⟩ := Prod.mk.inj heq
      exact Nat.lt_add_left m (by decide)
    case h_5 hnone heq =>
      obtain ⟨rfl, rfl⟩ := List.cons.inj heq
      exact (hnone _ _ rfl rfl).elim

/-- What is left of a string closes within a part of its line, whatever follows. -/
theorem stringRest?_append_some {quote : Char} (hquote : quote = '\'' ∨ quote = '"')
    {y z : List Char} (hy : ∀ c ∈ y, c ≠ '\r' ∧ c ≠ '\n') {n : Nat} {broken : Bool}
    (h : stringRest? quote (y ++ z) = some (n, broken)) (hn : n ≤ y.length) (w : List Char) :
    stringRest? quote (y ++ w) = some (n, broken) := by
  induction y using escape_induction generalizing n broken with
  -- The string ends within the text in front, so that the text is not empty here,
  | nil =>
    have hpos := (stringRest?_le h).1
    exact absurd hn (Nat.not_le_of_lt hpos)
  -- and no backslash at its end takes along what is behind.
  | backslash =>
    have hlong := stringRest?_backslash hquote h
    exact absurd hn (Nat.not_le_of_lt hlong)
  | escape c cs ih =>
    obtain ⟨-, hc, hcs⟩ : _ ∧ _ ∧ ∀ c ∈ cs, _ := by simpa only [List.forall_mem_cons] using hy
    rw [List.cons_append, List.cons_append, stringRest?_escape quote hc] at h ⊢
    obtain ⟨⟨m, b⟩, hm, heq⟩ := Option.map_eq_some_iff.1 h
    obtain ⟨rfl, rfl⟩ := Prod.mk.inj heq
    rw [List.length_cons, List.length_cons] at hn
    rw [ih hcs hm (by omega)]
    rfl
  | other c cs hescape ih =>
    obtain ⟨hc, hcs⟩ := List.forall_mem_cons.1 hy
    rw [List.cons_append, stringRest?_cons quote hescape hc.2] at h ⊢
    split at h
    case isTrue hclose => rw [if_pos hclose, h]
    case isFalse hclose =>
      obtain ⟨⟨m, b⟩, hm, heq⟩ := Option.map_eq_some_iff.1 h
      obtain ⟨rfl, rfl⟩ := Prod.mk.inj heq
      rw [List.length_cons] at hn
      rw [if_neg hclose, ih hcs hm (by omega)]
      rfl

/-- A line end, or the end of the source. -/
def IsLineEnd (e : List Char) : Prop :=
  e = [] ∨ e = ['\n'] ∨ e = ['\r', '\n']

/-- A line end is apart. -/
theorem IsLineEnd.isApart {e : List Char} (h : IsLineEnd e) : IsApart e := by
  intro c hc
  obtain rfl | rfl | rfl := h
  · cases hc
  · exact .inr (.inr (Option.some.inj hc).symm)
  · exact .inr (.inl (Option.some.inj hc).symm)

/-- What is left of a string that does not close on its line does not close before a line end that
is put in the place of the rest, unless a backslash stands before that. -/
theorem stringRest?_append_none {quote : Char} (hquote : quote = '\'' ∨ quote = '"')
    {y z e : List Char} (hy : ∀ c ∈ y, c ≠ '\r' ∧ c ≠ '\n') (hlast : y.getLast? ≠ some '\\')
    (he : IsLineEnd e) (h : stringRest? quote (y ++ z) = none) :
    stringRest? quote (y ++ e) = none := by
  induction y using escape_induction with
  | nil =>
    obtain rfl | rfl | rfl := he <;> obtain rfl | rfl := hquote <;> rfl
  | backslash => exact absurd rfl hlast
  | escape c cs ih =>
    obtain ⟨-, hc, hcs⟩ : _ ∧ _ ∧ ∀ c ∈ cs, _ := by simpa only [List.forall_mem_cons] using hy
    rw [List.cons_append, List.cons_append, stringRest?_escape quote hc, Option.map_eq_none_iff]
      at h ⊢
    refine ih hcs ?_ h
    cases cs with
    | nil => simp
    | cons d cs => simpa using hlast
  | other c cs hescape ih =>
    obtain ⟨hc, hcs⟩ := List.forall_mem_cons.1 hy
    rw [List.cons_append, stringRest?_cons quote hescape hc.2] at h ⊢
    split at h
    case isTrue => cases h
    case isFalse hclose =>
      rw [Option.map_eq_none_iff] at h
      rw [if_neg hclose, ih hcs ?_ h]
      · rfl
      · cases cs with
        | nil => simp
        | cons d cs => simpa using hlast

/-- A backslash takes a character along that is no line feed. -/
theorem closingLength?_escape (quote : Char) (triple : Bool) {c : Char} (hc : c ≠ '\n')
    (cs : List Char) :
    closingLength? quote triple ('\\' :: c :: cs) =
      (closingLength? quote triple cs).map (· + 2) := by
  rw [closingLength?, if_neg hc]

/-- Another character of a string, or the first of its closing quotes. -/
theorem closingLength?_cons (quote : Char) (triple : Bool) {c : Char} (hescape : c ≠ '\\')
    (cs : List Char) :
    closingLength? quote triple (c :: cs) =
      if c = quote ∧ triple = false then some 1
      else if c = quote ∧ cs.take 2 = [quote, quote] then some 3
      else (closingLength? quote triple cs).map (· + 1) := by
  rw [closingLength?]
  · by_cases hc : c = quote
    · cases triple <;> simp [hc]
    · simp [hc]
  · exact fun h _ => hescape h
  · exact fun _ _ h _ => hescape h

/-- The closing quote of a string stands within a part of its line, whatever follows that is
apart. -/
theorem closingLength?_append {quote : Char} {triple : Bool} (hquote : ¬IsBoundary quote)
    {y z w : List Char} (hz : IsApart z) (hw : IsApart w) (hy : ∀ c ∈ y, c ≠ '\r' ∧ c ≠ '\n')
    {n : Nat} (h : closingLength? quote triple (y ++ z) = some n) (hn : n ≤ y.length) :
    closingLength? quote triple (y ++ w) = some n := by
  induction y using escape_induction generalizing n with
  | nil => exact absurd hn (Nat.not_le_of_lt (closingLength?_le h).1)
  | backslash =>
    cases z with
    | nil => cases h
    | cons d z =>
      rw [List.singleton_append, closingLength?] at h
      split at h
      · cases h
      · obtain ⟨m, hm, rfl⟩ := Option.map_eq_some_iff.1 h
        rw [List.length_singleton] at hn
        omega
  | escape c cs ih =>
    obtain ⟨-, hc, hcs⟩ : _ ∧ _ ∧ ∀ c ∈ cs, _ := by simpa only [List.forall_mem_cons] using hy
    rw [List.cons_append, List.cons_append, closingLength?_escape quote triple hc.2] at h ⊢
    obtain ⟨m, hm, rfl⟩ := Option.map_eq_some_iff.1 h
    rw [List.length_cons, List.length_cons] at hn
    rw [ih hcs hm (by omega)]
    rfl
  | other c cs hescape ih =>
    have hcs := (List.forall_mem_cons.1 hy).2
    have hquotes : ∀ c ∈ [quote, quote], ¬IsBoundary c := by simpa using hquote
    have hlength : [quote, quote].length = 2 := rfl
    rw [List.cons_append, closingLength?_cons quote triple hescape] at h ⊢
    simp only [take_append_eq_iff hz hlength hquotes] at h
    simp only [take_append_eq_iff hw hlength hquotes]
    split at h
    case isTrue hone => rw [if_pos hone, h]
    case isFalse hone =>
      rw [if_neg hone]
      split at h
      case isTrue hthree => rw [if_pos hthree, h]
      case isFalse hthree =>
        obtain ⟨m, hm, rfl⟩ := Option.map_eq_some_iff.1 h
        rw [List.length_cons] at hn
        rw [if_neg hthree, ih hcs hm (by omega)]
        rfl

end Strings

section Elements

section Behind

variable {x z : List Char} (hne : x ≠ []) (hends : ∀ c ∈ x, c ≠ '\r' ∧ c ≠ '\n')
include hne hends

/-- No line end begins where another character stands. -/
theorem lineEndLength_append : lineEndLength (x ++ z) = 0 := by
  cases x with
  | nil => exact absurd rfl hne
  | cons c x =>
    have hc := hends c List.mem_cons_self
    simp [lineEndLength, hc]

/-- No backslash joins a line to the next where other characters stand behind it. -/
theorem joinLength_append (hlast : x.getLast? ≠ some '\\') : joinLength (x ++ z) = 0 := by
  match x with
  | [] => exact absurd rfl hne
  | [c] =>
    have hc : c ≠ '\\' := by simpa using hlast
    simp [joinLength, hc]
  | c :: d :: x =>
    have hd := lineEndLength_append (z := z) (List.cons_ne_nil d x)
      fun c hc => hends c (List.mem_cons_of_mem _ hc)
    unfold joinLength
    split
    case h_1 heq =>
      obtain ⟨-, rfl⟩ := List.cons.inj heq
      exact hd
    case h_2 => rfl

end Behind

/-- A string that closes within a part of its line, or does not close on it, does so as well before
a line end in the place of what follows. -/
theorem closed?_append {x z e : List Char} (hends : ∀ c ∈ x, c ≠ '\r' ∧ c ≠ '\n')
    (hlast : x.getLast? ≠ some '\\') (hz : IsApart z) (he : IsLineEnd e)
    (h : ∀ found ∈ closed? (x ++ z), found.2 ≤ x.length) : closed? (x ++ e) = closed? (x ++ z) := by
  unfold closed? at h ⊢
  rw [opening?_append hz] at h ⊢
  rw [opening?_append he.isApart]
  split
  · rfl
  case h_2 n quote hopening =>
    obtain ⟨hlt, -, hquote⟩ := quote_of_opening? hopening
    simp only [hopening, List.drop_append_of_le_length hlt] at h ⊢
    have hrest : ∀ c ∈ x.drop (n + 1), c ≠ '\r' ∧ c ≠ '\n' :=
      fun c hc => hends c (List.mem_of_mem_drop hc)
    cases hz' : stringRest? quote (x.drop (n + 1) ++ z) with
    | none =>
      have hlast' : (x.drop (n + 1)).getLast? ≠ some '\\' := by
        rw [List.getLast?_drop]
        split
        · exact nofun
        · exact hlast
      rw [stringRest?_append_none hquote hrest hlast' he hz']
    | some found =>
      obtain ⟨length, broken⟩ := found
      have hle := h _ (by rw [hz']; rfl)
      rw [stringRest?_append_some hquote hrest hz' ?_ e]
      rw [List.length_drop]
      simp at hle
      omega

/-- What begins a part of a line before a comment, and ends within it, begins it as well before a
line end in the place of the comment. So does a character that begins no element. The part must not
end in a backslash, which would join the line to the next. -/
theorem lexeme?_append {x z e : List Char} (hne : x ≠ []) (hends : ∀ c ∈ x, c ≠ '\r' ∧ c ≠ '\n')
    (hlast : x.getLast? ≠ some '\\') (hz : z.head? = some '#') (he : IsLineEnd e)
    (h : ∀ found ∈ lexeme? (x ++ z), found.2 ≤ x.length) : lexeme? (x ++ e) = lexeme? (x ++ z) := by
  have hapart := isApart_of_hash hz
  have hhead : ∀ w : List Char, (x ++ w).head? = x.head? := by
    intro w
    cases x with
    | nil => exact absurd rfl hne
    | cons c x => rfl
  -- A comment would go on into the one behind.
  have hcomment : x.head? ≠ some '#' := by
    intro hhash
    have hle := h _ (lexeme?_comment ((hhead z).trans hhash))
    have hbody : ∀ c ∈ x, (c != '\r' && c != '\n') = true := by simpa using hends
    obtain ⟨rest, rfl⟩ := List.head?_eq_some_iff.1 hz
    rw [List.takeWhile_append_of_pos hbody, List.takeWhile_cons_of_pos rfl, List.length_append,
      List.length_cons] at hle
    omega
  rw [lexeme?_eq] at h
  rw [lexeme?_eq, lexeme?_eq]
  simp only [joinLength_append hne hends hlast, hhead, if_neg hcomment,
    lineEndLength_append hne hends, tripled?_append hapart, tripled?_append he.isApart,
    numberLength_append hapart, numberLength_append he.isApart, operatorLength_append hapart,
    operatorLength_append he.isApart, word?_append hapart, word?_append he.isApart,
    ne_eq, not_true_eq_false, if_false] at h ⊢
  split
  · rfl
  case h_2 htripled =>
    split
    · rfl
    case isFalse hnumber =>
      split
      · rfl
      case isFalse hoperator =>
        rw [closed?_append hends hlast hapart he]
        intro found hfound
        refine h found ?_
        rw [htripled, if_neg hnumber, if_neg hoperator, Option.mem_def.1 hfound]
        rfl

end Elements

end Hashmark.Source
