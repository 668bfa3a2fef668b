import Hashmark.Proofs.Text.Separate
import Hashmark.Text.Class

/-!
# Characters of identifiers

No character of an identifier is blank, so that blanks around an identifier can be told from it and
stripping leaves it as it is (`strip_identifier`). In ASCII that is a matter of a few characters;
beyond, the ranges of the tables have to be compared with those of the blanks (`TableApart`). The
comparison goes line by line, since the characters of a line are at hand once it is written as a
list of them.
-/

namespace Hashmark.Text

/-- The runs of blanks. -/
def blankRuns : List Range :=
  [⟨9, 13⟩, ⟨28, 32⟩, ⟨0x85, 0x85⟩, ⟨0xa0, 0xa0⟩, ⟨0x1680, 0x1680⟩, ⟨0x2000, 0x200a⟩,
    ⟨0x2028, 0x2029⟩, ⟨0x202f, 0x202f⟩, ⟨0x205f, 0x205f⟩, ⟨0x3000, 0x3000⟩]

/-- A code point is in a range. -/
def Range.Holds (range : Range) (n : Nat) : Prop :=
  range.lo ≤ n ∧ n ≤ range.hi

/-- A range holds no blank. -/
def Range.isApart (range : Range) : Bool :=
  blankRuns.all fun run => run.hi < range.lo || range.hi < run.lo

/-- A blank is in one of the runs. -/
theorem exists_blankRun {c : Char} (h : isBlank c = true) :
    ∃ run ∈ blankRuns, run.Holds c.toNat := by
  simp only [isBlank, Bool.or_eq_true, Bool.and_eq_true, decide_eq_true_eq, beq_iff_eq] at h
  simp only [blankRuns, Range.Holds, List.mem_cons, List.not_mem_nil, or_false, exists_eq_or_imp,
    exists_eq_left]
  omega

/-- The members of a range without blanks are no blanks. -/
theorem not_isBlank_of_isApart {range : Range} (hapart : range.isApart = true) {c : Char}
    (h : range.Holds c.toNat) : isBlank c = false := by
  refine Bool.eq_false_iff.2 fun hblank => ?_
  obtain ⟨run, hrun, hlo, hhi⟩ := exists_blankRun hblank
  have hdisjoint := List.all_eq_true.1 hapart run hrun
  simp only [Bool.or_eq_true, decide_eq_true_eq] at hdisjoint
  obtain ⟨hlo', hhi'⟩ := h
  omega

/-- What is found in a table by bisection is an entry whose range holds the code point. -/
theorem holds_of_bisect {α : Type} {table : Array α} {range : α → Range} {n steps lo hi : Nat}
    {entry : α} (h : bisect table range n steps lo hi = some entry) :
    entry ∈ table ∧ (range entry).Holds n := by
  induction steps generalizing lo hi with
  | zero => cases h
  | succ steps ih =>
    unfold bisect at h
    split at h
    · cases h
    · simp only at h
      split at h
      · cases h
      · rename_i middle hmiddle
        -- The search goes on below the middle or above it, or ends there.
        split at h
        · exact ih h
        · split at h
          · exact ih h
          · obtain rfl := Option.some.inj h
            exact ⟨Array.mem_of_getElem? hmiddle, by omega, by omega⟩

/-- The ranges that a table lists hold no blank. -/
def TableApart (lines : List String) : Prop :=
  ∀ line ∈ lines, (fields ' ' line.toList).all (fun item => (Range.ofText item).isApart) = true

/-- A table without lines. -/
theorem tableApart_nil : TableApart [] :=
  fun _ h => nomatch h

/-- Another line of a table, given by its characters. -/
theorem TableApart.cons {cs : List Char} {lines : List String}
    (hline : (fields ' ' cs).all (fun item => (Range.ofText item).isApart) = true)
    (h : TableApart lines) : TableApart (String.ofList cs :: lines) := by
  intro line hmem
  obtain rfl | hmem := List.mem_cons.1 hmem
  · rw [String.toList_ofList]
    exact hline
  · exact h line hmem

/-- The characters that may begin an identifier, beyond ASCII, are no blanks. -/
theorem identifierStart_apart : TableApart Table.identifierStart := by
  unfold Table.identifierStart
  -- One line at a time, so that no list of characters becomes long.
  repeat refine .cons (by decide +kernel) ?_
  exact tableApart_nil

/-- The characters that may continue an identifier, beyond ASCII, are no blanks. -/
theorem identifierContinue_apart : TableApart Table.identifierContinue := by
  unfold Table.identifierContinue
  repeat refine .cons (by decide +kernel) ?_
  exact tableApart_nil

/-- The members of a table whose ranges hold no blank are no blanks. -/
theorem TableApart.not_isBlank {lines : List String} (h : TableApart lines) {c : Char}
    (hmem : inRanges (rangesOfTable lines) c.toNat = true) : isBlank c = false := by
  obtain ⟨range, hrange⟩ := Option.isSome_iff_exists.1 hmem
  obtain ⟨hlisted, hholds⟩ := holds_of_bisect hrange
  simp only [rangesOfTable, List.mem_toArray, tableItems, List.mem_map, List.mem_flatMap] at hlisted
  obtain ⟨item, ⟨line, hline, hitem⟩, rfl⟩ := hlisted
  exact not_isBlank_of_isApart (List.all_eq_true.1 (h line hline) item hitem) hholds

/-- The code of a letter, of the low line, or of a digit. -/
theorem toNat_of_plain {c : Char} (h : isPlainStart c = true ∨ isDigit c = true) :
    48 ≤ c.toNat ∧ c.toNat ≤ 122 := by
  simp only [isPlainStart, isLetter, isDigit, Bool.or_eq_true, Bool.and_eq_true,
    decide_eq_true_eq, beq_iff_eq] at h
  obtain (h | rfl) | h := h
  · omega
  · decide
  · omega

/-- A letter, the low line, or a digit is no blank. -/
theorem plain_not_isBlank {c : Char} (h : isPlainStart c = true ∨ isDigit c = true) :
    isBlank c = false := by
  have hplain : (⟨48, 122⟩ : Range).isApart = true := by decide
  exact not_isBlank_of_isApart hplain (toNat_of_plain h)

/-- A character that may begin an identifier is no blank. -/
theorem isIdentifierStart_not_isBlank {c : Char} (h : isIdentifierStart c = true) :
    isBlank c = false := by
  unfold isIdentifierStart at h
  split at h
  · exact plain_not_isBlank (.inl h)
  · exact identifierStart_apart.not_isBlank h

/-- A character that may continue an identifier is no blank. -/
theorem isIdentifierContinue_not_isBlank {c : Char} (h : isIdentifierContinue c = true) :
    isBlank c = false := by
  unfold isIdentifierContinue at h
  split at h
  · exact plain_not_isBlank (by simpa using h)
  · exact identifierContinue_apart.not_isBlank h

/-- What holds of the characters that may begin an identifier, and of those that may continue one,
holds of every character of an identifier. -/
theorem forall_mem_identifier {P : Char → Prop} (hstart : ∀ c, isIdentifierStart c = true → P c)
    (hcontinue : ∀ c, isIdentifierContinue c = true → P c) {cs : List Char}
    (h : isIdentifier cs = true) : ∀ c ∈ cs, P c := by
  cases cs with
  | nil => exact fun _ hmem => nomatch hmem
  | cons first rest =>
    rw [isIdentifier, Bool.and_eq_true] at h
    intro c hmem
    obtain rfl | hmem := List.mem_cons.1 hmem
    · exact hstart c h.1
    · exact hcontinue c (List.all_eq_true.1 h.2 c hmem)

/-- Stripping leaves a text as it is that neither begins nor ends with a blank. -/
theorem strip_eq_self {text : String}
    (hhead : ∀ c, text.toList.head? = some c → isBlank c = false)
    (hlast : ∀ c, text.toList.getLast? = some c → isBlank c = false) : strip text = text := by
  have hdrop : text.toList.dropWhile isBlank = text.toList := by
    cases hcs : text.toList with
    | nil => rfl
    | cons c cs =>
      rw [hcs] at hhead
      rw [List.dropWhile_cons, hhead c rfl]
      simp
  unfold strip trimBoth
  rw [hdrop]
  obtain hcs | ⟨cs, last, hcs⟩ := List.eq_nil_or_concat text.toList
  · rw [hcs, ← String.ofList_toList (s := text), hcs]
    rfl
  · rw [List.concat_eq_append] at hcs
    rw [hcs] at hlast
    rw [hcs, dropTrailing_concat (hlast last (by simp)), ← hcs, String.ofList_toList]

/-- A text that stripping leaves as it is does not end with a blank. -/
theorem getLast?_of_strip {text : String} (h : strip text = text) :
    ∀ c ∈ text.toList.getLast?, isBlank c = false := by
  rw [← h, strip, String.toList_ofList]
  exact getLast?_dropTrailing _ _

/-- Stripping leaves a text as it is that consists of one that begins with no blank and one that
ends with none. -/
theorem strip_append {first last : String}
    (hfirst : first.toList.head?.map isBlank = some false)
    (hlast : last.toList.getLast?.map isBlank = some false) :
    strip (first ++ last) = first ++ last := by
  obtain ⟨c, hc, hblank⟩ := Option.map_eq_some_iff.1 hfirst
  obtain ⟨d, hd, hblank'⟩ := Option.map_eq_some_iff.1 hlast
  refine strip_eq_self (fun c' hc' => ?_) fun d' hd' => ?_
  · rw [String.toList_append, List.head?_append, hc] at hc'
    obtain rfl : c = c' := Option.some.inj hc'
    exact hblank
  · rw [String.toList_append, List.getLast?_append, hd] at hd'
    obtain rfl : d = d' := Option.some.inj hd'
    exact hblank'

/-- No character of an identifier is blank. -/
theorem not_isBlank_of_mem_identifier {cs : List Char} (h : isIdentifier cs = true) :
    ∀ c ∈ cs, isBlank c = false :=
  forall_mem_identifier (fun _ => isIdentifierStart_not_isBlank)
    (fun _ => isIdentifierContinue_not_isBlank) h

/-- The last character of an identifier is no blank. -/
theorem getLast?_identifier {cs : List Char} (h : isIdentifier cs = true) :
    cs.getLast?.map isBlank = some false := by
  cases hlast : cs.getLast? with
  | none =>
    rw [List.getLast?_eq_none_iff.1 hlast] at h
    cases h
  | some c =>
    rw [Option.map_some, not_isBlank_of_mem_identifier h c (List.mem_of_getLast? hlast)]

/-- Stripping leaves an identifier as it is. -/
theorem strip_identifier {name : String} (h : isIdentifier name.toList = true) :
    strip name = name := by
  have hblank := not_isBlank_of_mem_identifier h
  exact strip_eq_self (fun c hc => hblank c (List.mem_of_head? hc))
    fun c hc => hblank c (List.mem_of_getLast? hc)

/-- A character that may neither begin nor continue an identifier is not part of one. -/
theorem notMem_identifier {c : Char} (hstart : isIdentifierStart c = false)
    (hcontinue : isIdentifierContinue c = false) {cs : List Char} (h : isIdentifier cs = true) :
    c ∉ cs := by
  intro hmem
  refine forall_mem_identifier (P := (· ≠ c)) ?_ ?_ h c hmem rfl
  · rintro d hd rfl
    rw [hstart] at hd
    cases hd
  · rintro d hd rfl
    rw [hcontinue] at hd
    cases hd

end Hashmark.Text
