import Hashmark.Source.Lexeme

/-!
# The extent of elements

Every element has at least one character and ends within the text that it begins (`lexeme?_le`), and
so does what is left of a string (`closingLength?_le`). The forms that `lexeme?` tries are named one
by one (`lexeme?_eq`), and so are the parts of a number (`numberLength_eq`).
-/

namespace Hashmark.Source

open Text (isDigit isHexDigit isWord)

section Numbers

/-- A run of digits ends within the text. -/
theorem separatedRun_le (digit : Char → Bool) (cs : List Char) :
    separatedRun digit cs ≤ cs.length := by
  fun_induction separatedRun digit cs <;> simp only [List.length_cons, List.length_nil] at * <;>
    omega

/-- A run of digits behind a mark ends within the text. -/
theorem baseRun_le (digit : Char → Bool) (cs : List Char) : baseRun digit cs ≤ cs.length := by
  unfold baseRun
  split
  case h_1 rest =>
    have hrun := separatedRun_le digit rest
    rw [List.length_cons]
    split <;> omega
  case h_2 => exact separatedRun_le digit _

/-- The length of a sign, zero if there is none. -/
def signLength : List Char → Nat
  | c :: _ => if c = '+' || c = '-' then 1 else 0
  | [] => 0

/-- A sign ends within the text. -/
theorem signLength_le (x : List Char) : signLength x ≤ x.length := by
  unfold signLength
  split
  · split <;> simp
  · exact Nat.zero_le _

/-- The length of an exponent, its sign named. -/
theorem exponentLength_cons (e : Char) (cs : List Char) :
    exponentLength (e :: cs) =
      if e = 'e' || e = 'E' then
        match separatedRun isDigit (cs.drop (signLength cs)) with
        | 0 => 0
        | n => 1 + signLength cs + n
      else 0 := rfl

/-- An exponent ends within the text. -/
theorem exponentLength_le (cs : List Char) : exponentLength cs ≤ cs.length := by
  cases cs with
  | nil => exact Nat.zero_le _
  | cons e cs =>
    have hrun := separatedRun_le isDigit (cs.drop (signLength cs))
    rw [List.length_drop] at hrun
    rw [exponentLength_cons, List.length_cons]
    split
    · generalize separatedRun isDigit (cs.drop (signLength cs)) = run at hrun
      cases run with
      | zero => exact Nat.zero_le _
      | succ n =>
        show 1 + signLength cs + (n + 1) ≤ cs.length + 1
        omega
    · exact Nat.zero_le _

/-- The length of a number with a point behind its whole part. -/
theorem decimalLength_of_point {cs rest : List Char}
    (h : cs.drop (separatedRun isDigit cs) = '.' :: rest) :
    decimalLength cs =
      if separatedRun isDigit cs = 0 && separatedRun isDigit rest = 0 then 0
      else separatedRun isDigit cs + 1 + separatedRun isDigit rest +
        exponentLength (cs.drop (separatedRun isDigit cs + 1 + separatedRun isDigit rest)) := by
  unfold decimalLength
  simp only [h]

/-- The length of a number without a point behind its whole part. -/
theorem decimalLength_of_no_point {cs : List Char}
    (h : ∀ rest, cs.drop (separatedRun isDigit cs) ≠ '.' :: rest) :
    decimalLength cs =
      if separatedRun isDigit cs = 0 then 0
      else match exponentLength (cs.drop (separatedRun isDigit cs)) with
        | 0 => 0
        | n => separatedRun isDigit cs + n := by
  unfold decimalLength
  dsimp only
  split
  case h_1 rest hrest => exact absurd hrest (h rest)
  case h_2 => rfl

/-- A number with a point or an exponent ends within the text. -/
theorem decimalLength_le (cs : List Char) : decimalLength cs ≤ cs.length := by
  have hwhole := separatedRun_le isDigit cs
  unfold decimalLength
  simp only
  generalize separatedRun isDigit cs = whole at hwhole ⊢
  split
  case h_1 rest hrest =>
    have hlength := congrArg List.length hrest
    rw [List.length_drop, List.length_cons] at hlength
    have hfraction := separatedRun_le isDigit rest
    have hexponent := exponentLength_le (cs.drop (whole + 1 + separatedRun isDigit rest))
    rw [List.length_drop] at hexponent
    split <;> omega
  case h_2 =>
    have hexponent := exponentLength_le (cs.drop whole)
    rw [List.length_drop] at hexponent
    split
    · exact Nat.zero_le _
    · split <;> omega

/-- The length of the digits of a number in base sixteen, two or eight, zero if it is none. -/
def basedLength : List Char → Nat
  | '0' :: mark :: rest =>
    if mark = 'x' || mark = 'X' then baseRun isHexDigit rest
    else if mark = 'b' || mark = 'B' then baseRun (fun c => c = '0' || c = '1') rest
    else if mark = 'o' || mark = 'O' then
      baseRun (fun c => 48 ≤ c.toNat && c.toNat ≤ 55) rest
    else 0
  | _ => 0

/-- The length of an integer, the digits behind its mark named. -/
theorem integerLength_eq (cs : List Char) :
    integerLength cs =
      if basedLength cs ≠ 0 then basedLength cs + 2
      else if cs.head? = some '0' then separatedRun (· == '0') cs
      else separatedRun isDigit cs := by
  unfold integerLength
  extract_lets based
  have hbased : basedLength cs = based := rfl
  rw [hbased]
  clear_value based
  cases based with
  | succ n => rfl
  | zero =>
    cases cs with
    | nil => rfl
    | cons c cs =>
      by_cases hc : c = '0'
      · subst hc
        rfl
      · simp [hc]

/-- The digits of a number in another base end within the text, with their mark. -/
theorem basedLength_le (cs : List Char) : basedLength cs = 0 ∨ basedLength cs + 2 ≤ cs.length := by
  unfold basedLength
  split
  case h_2 => exact .inl rfl
  case h_1 mark rest =>
    have hbase := fun digit => Nat.add_le_add_right (baseRun_le digit rest) 2
    split
    · exact .inr (hbase _)
    · split
      · exact .inr (hbase _)
      · split
        · exact .inr (hbase _)
        · exact .inl rfl

/-- An integer ends within the text. -/
theorem integerLength_le (cs : List Char) : integerLength cs ≤ cs.length := by
  rw [integerLength_eq]
  split
  · exact (basedLength_le cs).resolve_left ‹_›
  · split <;> exact separatedRun_le _ _

/-- Whether a j begins a text. -/
def beginsWithJ : List Char → Bool
  | c :: _ => c = 'j' || c = 'J'
  | [] => false

/-- The length of a number, the test for a j named. -/
theorem numberLength_eq (cs : List Char) :
    numberLength cs =
      if separatedRun isDigit cs ≠ 0 && beginsWithJ (cs.drop (separatedRun isDigit cs)) then
        separatedRun isDigit cs + 1
      else if decimalLength cs ≠ 0 then
        (if beginsWithJ (cs.drop (decimalLength cs)) then decimalLength cs + 1
          else decimalLength cs)
      else integerLength cs := rfl

/-- A j stands within the text. -/
theorem lt_of_beginsWithJ {cs : List Char} {n : Nat} (h : beginsWithJ (cs.drop n) = true) :
    n < cs.length := by
  by_cases hn : n < cs.length
  · exact hn
  rw [List.drop_eq_nil_of_le (Nat.le_of_not_lt hn)] at h
  cases h

/-- A number ends within the text. -/
theorem numberLength_le (cs : List Char) : numberLength cs ≤ cs.length := by
  rw [numberLength_eq]
  split
  case isTrue h =>
    rw [Bool.and_eq_true] at h
    exact lt_of_beginsWithJ h.2
  case isFalse =>
    split
    · split
      case isTrue h => exact lt_of_beginsWithJ h
      case isFalse => exact decimalLength_le cs
    · exact integerLength_le cs

end Numbers

section Strings

/-- Whether a quote begins a text. -/
def beginsWithQuote : List Char → Bool
  | c :: _ => c = '\'' || c = '"'
  | [] => false

/-- The letters that mark a string, the test for a quote named. -/
theorem markLength?_eq (cs : List Char) :
    markLength? cs =
      [0, 1, 2].find? fun n => marksString (cs.take n) && beginsWithQuote (cs.drop n) := rfl

/-- The quote that opens a string, behind the letters that mark it, and the number of these. -/
def opening? (cs : List Char) : Option (Nat × Char) :=
  match markLength? cs with
  | none => none
  | some n => (cs[n]?).map fun quote => (n, quote)

/-- A quote that marks a string. -/
theorem quote_of_opening? {cs : List Char} {n : Nat} {quote : Char}
    (h : opening? cs = some (n, quote)) :
    n < cs.length ∧ cs[n]? = some quote ∧ (quote = '\'' ∨ quote = '"') := by
  unfold opening? at h
  split at h
  · cases h
  case h_2 m hm =>
    obtain ⟨c, hc, heq⟩ := Option.map_eq_some_iff.1 h
    obtain ⟨rfl, rfl⟩ := Prod.mk.inj heq
    obtain ⟨hlt, hget⟩ := List.getElem?_eq_some_iff.1 hc
    refine ⟨hlt, hc, ?_⟩
    rw [markLength?_eq] at hm
    have hquote := List.find?_some hm
    simp only [Bool.and_eq_true, List.drop_eq_getElem_cons hlt, beginsWithQuote, hget,
      Bool.or_eq_true, decide_eq_true_eq] at hquote
    exact hquote.2

/-- The quote that stands three times, and the number of letters in front of it. -/
def tripled? (cs : List Char) : Option (Nat × Char) :=
  match opening? cs with
  | none => none
  | some (n, quote) => if (cs.drop n).take 3 = [quote, quote, quote] then some (n, quote) else none

/-- A triple quote ends within the text. -/
theorem tripled?_le {cs : List Char} {n : Nat} {quote : Char}
    (h : tripled? cs = some (n, quote)) : n + 3 ≤ cs.length := by
  unfold tripled? at h
  split at h
  · cases h
  · split at h
    case isTrue hquotes =>
      obtain ⟨rfl, rfl⟩ := Prod.mk.inj (Option.some.inj h)
      have hlength := congrArg List.length hquotes
      simp only [List.length_take, List.length_drop, List.length_cons, List.length_nil] at hlength
      omega
    case isFalse => cases h

/-- What is left of a string on one line has at least one character and ends within the text. -/
theorem stringRest?_le {quote : Char} {cs : List Char} {n : Nat} {broken : Bool}
    (h : stringRest? quote cs = some (n, broken)) : 0 < n ∧ n ≤ cs.length := by
  fun_induction stringRest? quote cs generalizing n broken with
  | case1 => cases h
  | case2 => simp only [Option.some.injEq, Prod.mk.injEq] at h; simp; omega
  | case3 => simp only [Option.some.injEq, Prod.mk.injEq] at h; simp; omega
  | case4 c cs _ _ ih =>
    obtain ⟨⟨m, b⟩, hm, heq⟩ := Option.map_eq_some_iff.1 h
    have := ih hm
    simp only [Prod.mk.injEq] at heq
    simp; omega
  | case5 => simp only [Option.some.injEq, Prod.mk.injEq] at h; simp; omega
  | case6 => cases h
  | case7 c cs _ _ _ _ _ ih =>
    obtain ⟨⟨m, b⟩, hm, heq⟩ := Option.map_eq_some_iff.1 h
    have := ih hm
    simp only [Prod.mk.injEq] at heq
    simp; omega

/-- A string that closes on its line, or breaks off at a backslash at the end of it. -/
def closed? (cs : List Char) : Option (Lexeme × Nat) :=
  match opening? cs with
  | none => none
  | some (n, quote) => (stringRest? quote (cs.drop (n + 1))).map fun (length, broken) =>
    (if broken then Lexeme.brokenString quote else Lexeme.string, n + 1 + length)

/-- A string on one line has at least one character and ends within the text. -/
theorem closed?_le {cs : List Char} {lexeme : Lexeme} {n : Nat}
    (h : closed? cs = some (lexeme, n)) : 0 < n ∧ n ≤ cs.length := by
  unfold closed? at h
  split at h
  · cases h
  case h_2 m quote hopening =>
    obtain ⟨⟨length, broken⟩, hrest, heq⟩ := Option.map_eq_some_iff.1 h
    obtain ⟨-, rfl⟩ := Prod.mk.inj heq
    have hle := (stringRest?_le hrest).2
    have hlt := (quote_of_opening? hopening).1
    rw [List.length_drop] at hle
    omega

/-- What is left of a string has at least one character and ends within the text. -/
theorem closingLength?_le {quote : Char} {triple : Bool} {cs : List Char} {n : Nat}
    (h : closingLength? quote triple cs = some n) : 0 < n ∧ n ≤ cs.length := by
  fun_induction closingLength? quote triple cs generalizing n with
  | case1 => cases h
  | case2 => cases h
  | case3 => cases h
  | case4 c cs _ ih =>
    obtain ⟨m, hm, rfl⟩ := Option.map_eq_some_iff.1 h
    have hle := ih hm
    simp only [List.length_cons]
    omega
  | case5 =>
    cases h
    simp
  | case6 cs _ hquotes =>
    cases h
    have hlength := congrArg List.length hquotes
    rw [List.length_take, List.length_cons, List.length_singleton] at hlength
    rw [List.length_cons]
    omega
  | case7 cs _ _ _ _ ih =>
    obtain ⟨m, hm, rfl⟩ := Option.map_eq_some_iff.1 h
    have hle := ih hm
    rw [List.length_cons]
    omega
  | case8 c cs _ _ _ ih =>
    obtain ⟨m, hm, rfl⟩ := Option.map_eq_some_iff.1 h
    have hle := ih hm
    rw [List.length_cons]
    omega

end Strings

section Elements

/-- An operator ends within the text. -/
theorem operatorLength_le (cs : List Char) : operatorLength cs ≤ cs.length := by
  have hthree : ∀ op ∈ operators3, op.length = 3 := by decide
  have htwo : ∀ op ∈ operators2, op.length = 2 := by decide
  unfold operatorLength
  split
  · have hlength := hthree (cs.take 3) (List.contains_iff_mem.1 ‹_›)
    rw [List.length_take] at hlength
    omega
  · split
    · have hlength := htwo (cs.take 2) (List.contains_iff_mem.1 ‹_›)
      rw [List.length_take] at hlength
      omega
    · split
      · split <;> simp
      · exact Nat.zero_le _

/-- A line end ends within the text. -/
theorem lineEndLength_le (cs : List Char) : lineEndLength cs ≤ cs.length := by
  unfold lineEndLength
  split <;> simp

/-- The length of the line end behind a backslash, zero if none stands there. -/
def joinLength (cs : List Char) : Nat :=
  match cs with
  | '\\' :: rest => lineEndLength rest
  | _ => 0

/-- A line end behind a backslash ends within the text. -/
theorem joinLength_lt {cs : List Char} (h : joinLength cs ≠ 0) : joinLength cs < cs.length := by
  unfold joinLength at h ⊢
  split at h
  · exact Nat.lt_succ_of_le (lineEndLength_le _)
  · exact absurd rfl h

/-- A word. -/
def word? (cs : List Char) : Option (Lexeme × Nat) :=
  match (cs.takeWhile isWord).length with
  | 0 => none
  | n => some (.word, n)

/-- The form and the length of an element, its possible forms named. -/
theorem lexeme?_eq (cs : List Char) :
    lexeme? cs =
      if joinLength cs ≠ 0 then some (.join, joinLength cs + 1)
      else if cs.head? = some '#' then
        some (.comment, (cs.takeWhile fun c => c != '\r' && c != '\n').length)
      else match tripled? cs with
      | some (n, quote) => some (.tripleQuote quote, n + 3)
      | none =>
        if numberLength cs ≠ 0 then some (.number, numberLength cs)
        else if lineEndLength cs ≠ 0 then some (.lineEnd, lineEndLength cs)
        else if operatorLength cs ≠ 0 then some (.operator, operatorLength cs)
        else match closed? cs with
        | some found => some found
        | none => word? cs := rfl

/-- A comment reaches over all that follows up to a line end. -/
theorem lexeme?_comment {cs : List Char} (h : cs.head? = some '#') :
    lexeme? cs = some (.comment, (cs.takeWhile fun c => c != '\r' && c != '\n').length) := by
  obtain ⟨rest, rfl⟩ := List.head?_eq_some_iff.1 h
  rfl

/-- An element has at least one character, and no more than there are. -/
theorem lexeme?_le {cs : List Char} {lexeme : Lexeme} {n : Nat}
    (h : lexeme? cs = some (lexeme, n)) : 0 < n ∧ n ≤ cs.length := by
  rw [lexeme?_eq] at h
  split at h
  case isTrue hjoin =>
    obtain ⟨-, rfl⟩ := Prod.mk.inj (Option.some.inj h)
    exact ⟨Nat.succ_pos _, joinLength_lt hjoin⟩
  split at h
  case isTrue hhash =>
    obtain ⟨-, rfl⟩ := Prod.mk.inj (Option.some.inj h)
    refine ⟨?_, (List.takeWhile_prefix _).length_le⟩
    obtain ⟨rest, rfl⟩ := List.head?_eq_some_iff.1 hhash
    simp
  split at h
  case h_1 m quote htripled =>
    obtain ⟨-, rfl⟩ := Prod.mk.inj (Option.some.inj h)
    exact ⟨Nat.succ_pos _, tripled?_le htripled⟩
  split at h
  case isTrue hpos =>
    obtain ⟨-, rfl⟩ := Prod.mk.inj (Option.some.inj h)
    exact ⟨Nat.pos_of_ne_zero hpos, numberLength_le cs⟩
  split at h
  case isTrue hpos =>
    obtain ⟨-, rfl⟩ := Prod.mk.inj (Option.some.inj h)
    exact ⟨Nat.pos_of_ne_zero hpos, lineEndLength_le cs⟩
  split at h
  case isTrue hpos =>
    obtain ⟨-, rfl⟩ := Prod.mk.inj (Option.some.inj h)
    exact ⟨Nat.pos_of_ne_zero hpos, operatorLength_le cs⟩
  split at h
  case h_1 found hclosed =>
    rw [h] at hclosed
    exact closed?_le hclosed
  case h_2 =>
    unfold word? at h
    have hle := (List.takeWhile_prefix (l := cs) isWord).length_le
    split at h
    · cases h
    case h_2 hpos =>
      obtain ⟨-, rfl⟩ := Prod.mk.inj (Option.some.inj h)
      exact ⟨Nat.pos_of_ne_zero hpos, hle⟩

end Elements

end Hashmark.Source
