import Hashmark.Proofs.Source.Locality
import Hashmark.Proofs.Source.Rows

/-!
# Elements before either line end

A line may end in a line feed, or in a carriage return and a line feed. What stands before the line
end is cut into the same elements: an element either lies within the text before it, and is found
there whatever the line end is, or reaches to the end of the line, because a backslash stands before
the line end and takes it along (`lexeme?_ending`). So does a string close, or not, at the same
character (`closingLength?_ending`).

A text with a carriage return in front of each of its line feeds (`withReturns`) has the lines of
the text, each ending the other way (`lines_withReturns`).
-/

namespace Hashmark.Source

open Text (isDigit isHexDigit isWord)

section Texts

/-- A text with a carriage return in front of each line feed. -/
def withReturns (text : List Char) : List Char :=
  text.flatMap fun c => if c = '\n' then ['\r', '\n'] else [c]

/-- A text and one that follows it. -/
theorem withReturns_append (text other : List Char) :
    withReturns (text ++ other) = withReturns text ++ withReturns other :=
  List.flatMap_append

/-- A character that is no line feed, and the text behind it. -/
theorem withReturns_cons {c : Char} (hc : c ≠ '\n') (text : List Char) :
    withReturns (c :: text) = c :: withReturns text := by
  rw [withReturns, List.flatMap_cons, if_neg hc]
  rfl

/-- A line feed, and the text behind it. -/
theorem withReturns_lineFeed (text : List Char) :
    withReturns ('\n' :: text) = '\r' :: '\n' :: withReturns text := rfl

/-- A text without line feeds stays as it is. -/
theorem withReturns_eq_self {text : List Char} (h : '\n' ∉ text) : withReturns text = text := by
  induction text with
  | nil => rfl
  | cons c cs ih =>
    have hc : c ≠ '\n' := fun heq => h (heq ▸ List.mem_cons_self)
    rw [withReturns_cons hc, ih fun hmem => h (.tail c hmem)]

/-- As many characters are added as there are line feeds. -/
theorem length_withReturns (text : List Char) :
    (withReturns text).length = text.length + text.count '\n' := by
  induction text with
  | nil => rfl
  | cons c cs ih =>
    by_cases hc : c = '\n'
    · subst hc
      rw [withReturns_lineFeed, List.length_cons, List.length_cons, List.length_cons, ih,
        List.count_cons_self]
      omega
    · rw [withReturns_cons hc, List.length_cons, List.length_cons, ih, List.count_cons_of_ne hc]
      omega

/-- No line feed is added. -/
theorem count_withReturns (text : List Char) :
    (withReturns text).count '\n' = text.count '\n' := by
  induction text with
  | nil => rfl
  | cons c cs ih =>
    by_cases hc : c = '\n'
    · subst hc
      rw [withReturns_lineFeed, List.count_cons_of_ne (by decide), List.count_cons_self,
        List.count_cons_self, ih]
    · rw [withReturns_cons hc, List.count_cons_of_ne hc, List.count_cons_of_ne hc, ih]

/-- The lines are those of the text. -/
theorem lines_withReturns (text : List Char) :
    lines (withReturns text) = (lines text).map withReturns := by
  induction text with
  | nil => rfl
  | cons c cs ih =>
    by_cases hc : c = '\n'
    · subst hc
      have hreturn : '\r' ≠ '\n' := by decide
      rw [withReturns_lineFeed, lines, if_neg hreturn, lines, if_pos rfl, lines, if_pos rfl, ih]
      rfl
    · rw [withReturns_cons hc, lines, if_neg hc, lines, if_neg hc, ih]
      cases lines cs with
      | nil =>
        show [[c]] = [withReturns [c]]
        rw [withReturns_cons hc]
        rfl
      | cons line rest =>
        show (c :: withReturns line) :: rest.map withReturns = _
        rw [List.map_cons, withReturns_cons hc]

/-- The lines of a text with carriage returns make up the text with carriage returns. -/
theorem flatten_map_withReturns (rows : List (List Char)) :
    (rows.map withReturns).flatten = withReturns rows.flatten := by
  induction rows with
  | nil => rfl
  | cons line rows ih =>
    rw [List.map_cons, List.flatten_cons, List.flatten_cons, withReturns_append, ih]

/-- A text with a carriage return in front of each line feed, as a whole. -/
def returned (text : String) : String :=
  String.ofList (withReturns text.toList)

/-- The characters of such a text. -/
theorem toList_returned (text : String) : (returned text).toList = withReturns text.toList :=
  String.toList_ofList

/-- A text and one that follows it. -/
theorem returned_append (text other : String) :
    returned (text ++ other) = returned text ++ returned other := by
  rw [returned, String.toList_append, withReturns_append, String.ofList_append]
  rfl

/-- A text without line feeds stays as it is. -/
theorem returned_eq_self {text : String} (h : '\n' ∉ text.toList) : returned text = text := by
  rw [returned, withReturns_eq_self h, String.ofList_toList]

end Texts

section Endings

/-- The two ways in which a line may end, or the missing end of the last one. -/
def AreEndings (e e' : List Char) : Prop :=
  e = [] ∧ e' = [] ∨ e = ['\n'] ∧ e' = ['\r', '\n']

variable {e e' : List Char}

/-- The one way to end a line. -/
theorem AreEndings.isLineEnd (h : AreEndings e e') : IsLineEnd e := by
  obtain ⟨rfl, -⟩ | ⟨rfl, -⟩ := h
  · exact .inl rfl
  · exact .inr (.inl rfl)

/-- The other way to end a line. -/
theorem AreEndings.isLineEnd' (h : AreEndings e e') : IsLineEnd e' := by
  obtain ⟨-, rfl⟩ | ⟨-, rfl⟩ := h
  · exact .inl rfl
  · exact .inr (.inr rfl)

/-- Text without line ends. -/
def IsPlain (y : List Char) : Prop :=
  ∀ c ∈ y, c ≠ '\r' ∧ c ≠ '\n'

variable {y : List Char}

/-- The rest of a text without line ends has none. -/
theorem IsPlain.drop (h : IsPlain y) (n : ℕ) : IsPlain (y.drop n) :=
  fun c hc => h c (List.mem_of_mem_drop hc)

/-- What is found of a string in a text of this length before one line end and before the other: the
same, within the text, or a string that breaks off with the line. -/
def EndAlike (size : ℕ) (e e' : List Char) (found found' : Option (ℕ × Bool)) : Prop :=
  (found' = found ∧ ∀ rest ∈ found, rest.1 ≤ size) ∨
    (found = some (size + e.length, true) ∧ found' = some (size + e'.length, true))

/-- Characters in front of the text change what is found by their number. -/
theorem EndAlike.shift {size : ℕ} {found found' : Option (ℕ × Bool)}
    (h : EndAlike size e e' found found') (k : ℕ) :
    EndAlike (size + k) e e' (found.map fun (n, broken) => (n + k, broken))
      (found'.map fun (n, broken) => (n + k, broken)) := by
  obtain ⟨rfl, hle⟩ | ⟨rfl, rfl⟩ := h
  · refine .inl ⟨rfl, fun rest hrest => ?_⟩
    obtain ⟨before, hbefore, rfl⟩ := Option.map_eq_some_iff.1 hrest
    exact Nat.add_le_add_right (hle before hbefore) k
  · refine .inr ⟨?_, ?_⟩
    · rw [Option.map_some, Nat.add_right_comm]
    · rw [Option.map_some, Nat.add_right_comm]

/-- The rest of a string on one line closes, or does not, at the same character before either line
end, or breaks off with the line at a backslash before it. -/
theorem stringRest?_ending {quote : Char} (hquote : quote = '\'' ∨ quote = '"') (hy : IsPlain y)
    (he : AreEndings e e') :
    EndAlike y.length e e' (stringRest? quote (y ++ e)) (stringRest? quote (y ++ e')) := by
  induction y using escape_induction with
  | nil =>
    left
    obtain ⟨rfl, rfl⟩ | ⟨rfl, rfl⟩ := he <;> obtain rfl | rfl := hquote <;>
      exact ⟨rfl, fun _ h => nomatch h⟩
  -- Only behind a backslash do the two line ends differ: it takes one character along.
  | backslash =>
    obtain ⟨rfl, rfl⟩ | ⟨rfl, rfl⟩ := he
    · left
      obtain rfl | rfl := hquote <;> exact ⟨rfl, fun _ h => nomatch h⟩
    · exact .inr ⟨rfl, rfl⟩
  | escape c cs ih =>
    obtain ⟨-, hc, hcs⟩ : _ ∧ _ ∧ IsPlain cs := by
      simpa only [IsPlain, List.forall_mem_cons] using hy
    simp only [List.cons_append, stringRest?_escape quote hc]
    exact (ih hcs).shift 2
  | other c cs hescape ih =>
    obtain ⟨hc, hcs⟩ := List.forall_mem_cons.1 hy
    simp only [List.cons_append, stringRest?_cons quote hescape hc.2]
    by_cases hclose : c = quote
    · simp only [if_pos hclose]
      exact .inl ⟨rfl, by simp⟩
    · simp only [if_neg hclose]
      exact (ih hcs).shift 1

/-- The closing quote of a string stands at the same character before either line end. -/
theorem closingLength?_ending {quote : Char} (hquote : quote = '\'' ∨ quote = '"') (triple : Bool)
    (hy : IsPlain y) (he : AreEndings e e') :
    closingLength? quote triple (y ++ e') = closingLength? quote triple (y ++ e) ∧
      ∀ n ∈ closingLength? quote triple (y ++ e), n ≤ y.length := by
  have hquotes : ∀ c ∈ [quote, quote], ¬IsBoundary c := by
    refine forall_not_isBoundary ?_
    obtain rfl | rfl := hquote <;> rfl
  have hlength : [quote, quote].length = 2 := rfl
  induction y using escape_induction with
  | nil =>
    obtain ⟨rfl, rfl⟩ | ⟨rfl, rfl⟩ := he
    · exact ⟨rfl, fun _ h => nomatch h⟩
    · obtain rfl | rfl := hquote <;> exact ⟨rfl, fun _ h => nomatch h⟩
  | backslash =>
    obtain ⟨rfl, rfl⟩ | ⟨rfl, rfl⟩ := he
    · exact ⟨rfl, fun _ h => nomatch h⟩
    · obtain rfl | rfl := hquote <;> exact ⟨rfl, fun _ h => nomatch h⟩
  | escape c cs ih =>
    obtain ⟨-, hc, hcs⟩ : _ ∧ _ ∧ IsPlain cs := by
      simpa only [IsPlain, List.forall_mem_cons] using hy
    obtain ⟨heq, hle⟩ := ih hcs
    simp only [List.cons_append, closingLength?_escape quote triple hc.2, heq]
    refine ⟨trivial, fun n hn => ?_⟩
    obtain ⟨m, hm, rfl⟩ := Option.map_eq_some_iff.1 hn
    exact Nat.add_le_add_right (hle m hm) 2
  | other c cs hescape ih =>
    obtain ⟨-, hcs⟩ := List.forall_mem_cons.1 hy
    obtain ⟨heq, hle⟩ := ih hcs
    -- Two further quotes stand before either line end, or before neither.
    simp only [List.cons_append, closingLength?_cons quote triple hescape, heq,
      take_append_eq_iff he.isLineEnd.isApart hlength hquotes,
      take_append_eq_iff he.isLineEnd'.isApart hlength hquotes]
    refine ⟨trivial, fun n hn => ?_⟩
    split at hn
    · obtain rfl := Option.some.inj hn
      exact Nat.succ_le_succ (Nat.zero_le _)
    · split at hn
      case isTrue hthree =>
        obtain rfl := Option.some.inj hn
        have htwo := congrArg List.length hthree.2
        rw [List.length_take, hlength] at htwo
        rw [List.length_cons]
        omega
      case isFalse =>
        obtain ⟨m, hm, rfl⟩ := Option.map_eq_some_iff.1 hn
        exact Nat.add_le_add_right (hle m hm) 1

/-- What an element is found to be before one line end and before the other: the same, within the
text, or the whole line, if it joins the next one or is a string that breaks off. -/
def FoundAlike (size : ℕ) (e e' : List Char) (found found' : Option (Lexeme × ℕ)) : Prop :=
  (found' = found ∧ ∀ element ∈ found, element.2 ≤ size) ∨
    ∃ lexeme, (lexeme = .join ∨ ∃ quote, lexeme = .brokenString quote) ∧
      found = some (lexeme, size + e.length) ∧ found' = some (lexeme, size + e'.length)

/-- A string that begins here closes, or does not, at the same character before either line end, or
breaks off with the line. -/
theorem closed?_ending (hy : IsPlain y) (he : AreEndings e e') :
    FoundAlike y.length e e' (closed? (y ++ e)) (closed? (y ++ e')) := by
  unfold closed?
  rw [opening?_append he.isLineEnd.isApart, opening?_append he.isLineEnd'.isApart]
  cases hopening : opening? y with
  | none => exact .inl ⟨rfl, fun _ h => nomatch h⟩
  | some opening =>
    obtain ⟨n, quote⟩ := opening
    obtain ⟨hlt, -, hquote⟩ := quote_of_opening? hopening
    have hrest := stringRest?_ending hquote (hy.drop (n + 1)) he
    have hsize : (y.drop (n + 1)).length + (n + 1) = y.length := by
      rw [List.length_drop]
      omega
    simp only [List.drop_append_of_le_length hlt]
    obtain ⟨heq, hle⟩ | ⟨hbroken, hbroken'⟩ := hrest
    · refine .inl ⟨by rw [heq], fun element helement => ?_⟩
      obtain ⟨found, hfound, rfl⟩ := Option.map_eq_some_iff.1 helement
      have hbound := hle found hfound
      show n + 1 + found.1 ≤ y.length
      omega
    · refine .inr ⟨.brokenString quote, .inr ⟨quote, rfl⟩, ?_, ?_⟩
      · rw [hbroken, ← hsize]
        simp only [Option.map_some, if_true, Option.some.injEq, Prod.mk.injEq, true_and]
        omega
      · rw [hbroken', ← hsize]
        simp only [Option.map_some, if_true, Option.some.injEq, Prod.mk.injEq, true_and]
        omega

/-- A backslash in front of a line end joins the line to the next, and nothing else does. -/
theorem joinLength_ending (hne : y ≠ []) (hy : IsPlain y) (he : IsLineEnd e) :
    joinLength (y ++ e) = if y = ['\\'] then e.length else 0 := by
  match y with
  | [] => exact absurd rfl hne
  | [c] =>
    by_cases hc : c = '\\'
    · subst hc
      obtain rfl | rfl | rfl := he <;> rfl
    · simp [joinLength, hc]
  | c :: d :: cs =>
    have hd := lineEndLength_append (z := e) (List.cons_ne_nil d cs) fun c hc => hy c (.tail _ hc)
    rw [if_neg (by simp)]
    unfold joinLength
    split
    case h_1 heq =>
      obtain ⟨-, rfl⟩ := List.cons.inj heq
      exact hd
    case h_2 => rfl

/-- A word ends within the text. -/
theorem word?_le {element : Lexeme × ℕ} (h : element ∈ word? y) : element.2 ≤ y.length := by
  have hle := (List.takeWhile_prefix (l := y) isWord).length_le
  unfold word? at h
  split at h
  · cases h
  · obtain rfl := Option.some.inj h
    exact hle

/-- A comment reaches to the line end. -/
theorem takeWhile_ending (hy : IsPlain y) (he : IsLineEnd e) :
    (y ++ e).takeWhile (fun c => c != '\r' && c != '\n') = y := by
  have hbody : ∀ c ∈ y, (c != '\r' && c != '\n') = true := by simpa [IsPlain] using hy
  have hend : e.takeWhile (fun c => c != '\r' && c != '\n') = [] := by
    obtain rfl | rfl | rfl := he <;> rfl
  rw [List.takeWhile_append_of_pos hbody, hend, List.append_nil]

/-- The element that begins here is the same before either line end, and ends before it, or is the
whole line, if it joins the next one or is a string that breaks off. -/
theorem lexeme?_ending (hne : y ≠ []) (hy : IsPlain y) (he : AreEndings e e') :
    FoundAlike y.length e e' (lexeme? (y ++ e)) (lexeme? (y ++ e')) := by
  have hapart := he.isLineEnd.isApart
  have hapart' := he.isLineEnd'.isApart
  have hhead : ∀ z : List Char, (y ++ z).head? = y.head? := fun z => List.head?_append_of_ne_nil y hne
  have hsame : ∀ {found : Option (Lexeme × ℕ)}, (∀ element ∈ found, element.2 ≤ y.length) →
      FoundAlike y.length e e' found found := fun h => .inl ⟨rfl, h⟩
  rw [lexeme?_eq, lexeme?_eq, joinLength_ending hne hy he.isLineEnd,
    joinLength_ending hne hy he.isLineEnd', hhead, hhead, takeWhile_ending hy he.isLineEnd,
    takeWhile_ending hy he.isLineEnd', tripled?_append hapart, tripled?_append hapart',
    numberLength_append hapart, numberLength_append hapart', lineEndLength_append hne hy,
    lineEndLength_append hne hy, operatorLength_append hapart, operatorLength_append hapart',
    word?_append hapart, word?_append hapart']
  -- The forms in their order: all but strings on one line are told by the text alone.
  by_cases hjoin : y = ['\\']
  · subst hjoin
    obtain ⟨rfl, rfl⟩ | ⟨rfl, rfl⟩ := he
    · exact hsame fun _ h => nomatch h
    · exact .inr ⟨.join, .inl rfl, rfl, rfl⟩
  simp only [if_neg hjoin, ne_eq, not_true_eq_false, if_false]
  split
  · exact hsame (by simp)
  split
  case h_1 n quote htripled =>
    refine hsame fun element helement => ?_
    obtain rfl := Option.some.inj helement
    exact tripled?_le htripled
  case h_2 =>
    split
    · refine hsame fun element helement => ?_
      obtain rfl := Option.some.inj helement
      exact numberLength_le y
    split
    · refine hsame fun element helement => ?_
      obtain rfl := Option.some.inj helement
      exact operatorLength_le y
    obtain ⟨heq, hle⟩ | ⟨lexeme, hlexeme, hbroken, hbroken'⟩ := closed?_ending hy he
    · rw [heq]
      cases hclosed : closed? (y ++ e) with
      | none => exact hsame fun element => word?_le
      | some element =>
        rw [hclosed] at hle
        exact hsame hle
    · rw [hbroken, hbroken']
      exact .inr ⟨lexeme, hlexeme, rfl, rfl⟩

end Endings

end Hashmark.Source
