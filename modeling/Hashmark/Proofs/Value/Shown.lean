import Hashmark.Proofs.Value.Scalar

/-!
# Values are determined by their texts

The text of a value ends where a comma, a colon, or a closing bracket follows, and no other value
has it (`determined`). The characters before the first quote or bracket tell what kind of value it
is (`opening`); a value without either is a name or a number, which are told apart by their
characters (`scalar_inj`). The members of a sequence are taken off one after another, the first of
them ending where the comma behind it stands (`items_append_inj`).
-/

namespace Hashmark.Value

open Number

/-- The values that a value is made of. -/
def parts : Value → List Value
  | .tuple items => items
  | .list items => items
  | .set items => items
  | .dict entries => entries.flatMap fun entry => [entry.1, entry.2]
  | _ => []

/-- A part of a value is smaller than the value. -/
theorem sizeOf_part_lt {v p : Value} (h : p ∈ v.parts) : sizeOf p < sizeOf v := by
  cases v with
  | tuple items =>
    have hlt := List.sizeOf_lt_of_mem (show p ∈ items from h)
    rw [Value.tuple.sizeOf_spec]
    omega
  | list items =>
    have hlt := List.sizeOf_lt_of_mem (show p ∈ items from h)
    rw [Value.list.sizeOf_spec]
    omega
  | set items =>
    have hlt := List.sizeOf_lt_of_mem (show p ∈ items from h)
    rw [Value.set.sizeOf_spec]
    omega
  | dict entries =>
    obtain ⟨⟨k, v⟩, hentry, hp⟩ := List.mem_flatMap.1 h
    have hlt := List.sizeOf_lt_of_mem hentry
    rw [Prod.mk.sizeOf_spec] at hlt
    rw [Value.dict.sizeOf_spec]
    simp only [List.mem_cons, List.not_mem_nil, or_false] at hp
    obtain rfl | rfl := hp <;> omega
  | _ => cases h

/-- What holds of a value if it holds of its parts holds of all values. -/
@[elab_as_elim]
theorem induction_parts {P : Value → Prop} (step : ∀ v : Value, (∀ p ∈ v.parts, P p) → P v)
    (v : Value) : P v :=
  step v fun p _ => induction_parts step p
termination_by sizeOf v
decreasing_by exact sizeOf_part_lt ‹_›

/-- The characters that may follow the text of a value. -/
def isClosing (c : Char) : Bool :=
  [',', ':', ')', ']', '\x7d'].contains c

/-- The characters that begin a quoted text or a sequence. -/
def isOpening (c : Char) : Bool :=
  ['\'', '"', '(', '[', '\x7b'].contains c

/-- No character of a name or a number closes or opens anything. -/
theorem not_isBare {c : Char} (h : isClosing c = true ∨ isOpening c = true) : isBare c = false := by
  have hclosing : [',', ':', ')', ']', '\x7d'].all (!isBare ·) = true := by decide
  have hopening : ['\'', '"', '(', '[', '\x7b'].all (!isBare ·) = true := by decide
  obtain h | h := h
  · simpa using List.all_eq_true.1 hclosing c (List.contains_iff_mem.1 h)
  · simpa using List.all_eq_true.1 hopening c (List.contains_iff_mem.1 h)

/-- No character that opens something closes another. -/
theorem not_isClosing {c : Char} (h : isOpening c = true) : isClosing c = false := by
  have hopening : ['\'', '"', '(', '[', '\x7b'].all (!isClosing ·) = true := by decide
  simpa using List.all_eq_true.1 hopening c (List.contains_iff_mem.1 h)

/-- A text goes on as it may behind a value. -/
def Closes (rest : List Char) : Prop :=
  ∀ c ∈ rest.head?, isClosing c = true

/-- The characters of a value's text up to the first quote or bracket, and that; nothing for a name
or a number. -/
def opening : Value → Option (List Char × Char)
  | .complex z => if isImaginary z then Option.none else some ([], '(')
  | .text s => some ([], Text.quoteFor s.toList)
  | .bytes bs => some (['b'], Text.quoteFor (bs.map fun b => Char.ofNat b.toNat))
  | .tuple _ => some ([], '(')
  | .list _ => some ([], '[')
  | .set [] => some (['s', 'e', 't'], '(')
  | .set _ => some ([], '\x7b')
  | .dict _ => some ([], '\x7b')
  | _ => Option.none

/-- A quote opens a text. -/
theorem isOpening_quoteFor (cs : List Char) : isOpening (Text.quoteFor cs) = true := by
  obtain h | h := Text.quoteFor_eq cs <;> rw [h] <;> rfl

/-- Texts separated by commas, as the first one and the others behind commas. -/
theorem toList_commaSeparated (s : String) (rest : List String) :
    (commaSeparated (s :: rest)).toList =
      s.toList ++ rest.flatMap fun r => ',' :: ' ' :: r.toList :=
  Text.toList_intercalate_cons ", " s rest

/-- What closes a tuple: a single member is followed by a comma. -/
def tupleEnd (shown : List String) : List Char :=
  if shown.length = 1 then [',', ')'] else [')']

/-- The text of a tuple. -/
theorem shown?_tuple {items : List Value} {t : String} (h : (Value.tuple items).shown? = some t) :
    ∃ ss, shownItems? items = some ss ∧
      t.toList = '(' :: ((commaSeparated ss).toList ++ tupleEnd ss) := by
  obtain ⟨ss, hss, rfl⟩ := Option.map_eq_some_iff.1 h
  refine ⟨ss, hss, ?_⟩
  split
  · simp [commaSeparated, tupleEnd]
  case h_2 hnot =>
    have hlength : ss.length ≠ 1 := by
      intro hone
      obtain ⟨s, rfl⟩ := List.length_eq_one_iff.1 hone
      exact hnot s rfl
    simp [tupleEnd, hlength]

/-- The text of a list. -/
theorem shown?_list {items : List Value} {t : String} (h : (Value.list items).shown? = some t) :
    ∃ ss, shownItems? items = some ss ∧ t.toList = '[' :: ((commaSeparated ss).toList ++ [']']) := by
  obtain ⟨ss, hss, rfl⟩ := Option.map_eq_some_iff.1 h
  exact ⟨ss, hss, by simp⟩

/-- The text of a set with members. -/
theorem shown?_set {v : Value} {items : List Value} {t : String}
    (h : (Value.set (v :: items)).shown? = some t) :
    ∃ ss, shownItems? (v :: items) = some ss ∧
      t.toList = '\x7b' :: ((commaSeparated ss).toList ++ ['\x7d']) := by
  obtain ⟨ss, hss, rfl⟩ := Option.map_eq_some_iff.1 h
  refine ⟨ss, hss, ?_⟩
  split
  · rw [shownItems?] at hss
    split at hss <;> cases hss
  · simp

/-- The text of a dictionary. -/
theorem shown?_dict {entries : List (Value × Value)} {t : String}
    (h : (Value.dict entries).shown? = some t) :
    ∃ ss, shownEntries? entries = some ss ∧
      t.toList = '\x7b' :: ((commaSeparated ss).toList ++ ['\x7d']) := by
  obtain ⟨ss, hss, rfl⟩ := Option.map_eq_some_iff.1 h
  exact ⟨ss, hss, by simp⟩

/-- An integer that is not too long is written out. -/
theorem shown?_int {n : Int} {t : String} (h : (Value.int n).shown? = some t) : t = intText n := by
  replace h : intText? n = some t := h
  rw [intText?] at h
  split at h
  · exact (Option.some.inj h).symm
  · cases h

/-- What the text of a value begins with. -/
theorem opening_spec {v : Value} {t : String} (h : v.shown? = some t) :
    match opening v with
    | Option.none => (∀ c ∈ t.toList, isBare c = true) ∧ t.toList ≠ []
    | some (before, c) =>
      (∀ d ∈ before, isBare d = true) ∧ isOpening c = true ∧ ∃ rest, t.toList = before ++ c :: rest := by
  cases v with
  -- Names and numbers are written in bare characters from one end to the other.
  | none =>
    obtain rfl := Option.some.inj h
    exact ⟨List.all_eq_true.1 (by decide), by decide⟩
  | ellipsis =>
    obtain rfl := Option.some.inj h
    exact ⟨List.all_eq_true.1 (by decide), by decide⟩
  | bool b =>
    obtain rfl := Option.some.inj h
    cases b <;> exact ⟨List.all_eq_true.1 (by decide), by decide⟩
  | int n =>
    rw [shown?_int h]
    refine ⟨?_, ?_⟩
    · intro c hc
      obtain hdigit | rfl := intText_chars n c hc
      · simp [isBare, Char.isAlphanum, hdigit]
      · rfl
    · rw [toList_intText]
      simp [Nat.toDigits_ne_nil]
  | float x =>
    obtain rfl := Option.some.inj h
    exact ⟨fun c hc => isBare_of_isNumberChar ((writes_floatText x).isNumberChar c hc),
      (writes_floatText x).ne_nil⟩
  | complex z =>
    obtain rfl := Option.some.inj h
    cases hz : isImaginary z with
    | true =>
      simp only [opening, hz, if_true]
      rw [toList_complexText_imaginary hz]
      refine ⟨?_, by simp⟩
      intro c hc
      obtain hc | hc := List.mem_append.1 hc
      · exact isBare_of_isNumberChar ((writes_partText z.im).isNumberChar c hc)
      · obtain rfl := List.mem_singleton.1 hc
        rfl
    | false =>
      simp only [opening, hz, Bool.false_eq_true, if_false]
      rw [toList_complexText hz]
      exact ⟨by simp, rfl, _, rfl⟩
  -- What is quoted or bracketed begins with its own quote or bracket, behind the letter of bytes
  -- and the name of an empty set.
  | text s =>
    obtain rfl := Option.some.inj h
    exact ⟨by simp, isOpening_quoteFor _, _, Text.toList_quoted s⟩
  | bytes bs =>
    obtain rfl := Option.some.inj h
    exact ⟨List.all_eq_true.1 (by decide), isOpening_quoteFor _, _, Text.toList_quotedBytes bs⟩
  | tuple items =>
    obtain ⟨ss, -, ht⟩ := shown?_tuple h
    exact ⟨by simp, rfl, _, ht⟩
  | list items =>
    obtain ⟨ss, -, ht⟩ := shown?_list h
    exact ⟨by simp, rfl, _, ht⟩
  | set items =>
    cases items with
    | nil =>
      obtain rfl := Option.some.inj h
      exact ⟨List.all_eq_true.1 (by decide), rfl, [')'], rfl⟩
    | cons v items =>
      obtain ⟨ss, -, ht⟩ := shown?_set h
      exact ⟨by simp, rfl, _, ht⟩
  | dict entries =>
    obtain ⟨ss, -, ht⟩ := shown?_dict h
    exact ⟨by simp, rfl, _, ht⟩

/-- The text of a value does not begin with a character that closes something. -/
theorem head_shown {v : Value} {t : String} (h : v.shown? = some t) :
    ∃ c rest, t.toList = c :: rest ∧ isClosing c = false := by
  have hspec := opening_spec h
  cases ho : opening v with
  | none =>
    simp only [ho] at hspec
    obtain ⟨c, rest, hcons⟩ := List.exists_cons_of_ne_nil hspec.2
    refine ⟨c, rest, hcons, ?_⟩
    have hbare := hspec.1 c (by rw [hcons]; exact List.mem_cons_self)
    by_contra hclosing
    rw [not_isBare (.inl (by simpa using hclosing))] at hbare
    cases hbare
  | some o =>
    obtain ⟨before, c⟩ := o
    simp only [ho] at hspec
    obtain ⟨hbefore, hopening, rest, ht⟩ := hspec
    cases before with
    | nil => exact ⟨c, rest, ht, not_isClosing hopening⟩
    | cons d before =>
      refine ⟨d, before ++ c :: rest, ht, ?_⟩
      by_contra hclosing
      have hbare := hbefore d List.mem_cons_self
      rw [not_isBare (.inl (by simpa using hclosing))] at hbare
      cases hbare

/-- Where the texts of two values begin the same text, they open with the same characters, and names
and numbers are the same text. -/
theorem opening_eq {v w : Value} {t u : String} (hv : v.shown? = some t) (hw : w.shown? = some u)
    {x y : List Char} (hx : Closes x) (hy : Closes y) (h : t.toList ++ x = u.toList ++ y) :
    opening v = opening w ∧ (opening v = Option.none → t = u ∧ x = y) := by
  have hv := opening_spec hv
  have hw := opening_spec hw
  -- The bare characters in front end at the end of the text, and no less at an opening character.
  have hclose : ∀ {x : List Char}, Closes x → ∀ c ∈ x.head?, isBare c = false :=
    fun hx c hc => not_isBare (.inl (hx c hc))
  have hopen : ∀ {c : Char} {rest : List Char}, isOpening c = true →
      ∀ d ∈ (c :: rest).head?, isBare d = false := by
    intro c rest hc d hd
    obtain rfl := Option.some.inj hd
    exact not_isBare (.inr hc)
  -- Behind bare characters one text would end and the other open something: an opening character
  -- closes nothing.
  have hdiffer : ∀ {c : Char} {rest x : List Char}, isOpening c = true → Closes x →
      x ≠ c :: rest := by
    rintro c rest x hc hx rfl
    have hclosing := hx c rfl
    rw [not_isClosing hc] at hclosing
    cases hclosing
  cases ho : opening v with
  | none =>
    cases ho' : opening w with
    | none =>
      simp only [ho, ho'] at hv hw
      obtain ⟨htext, hxy⟩ := Text.run_append_inj hv.1 hw.1 (hclose hx) (hclose hy) h
      exact ⟨rfl, fun _ => ⟨String.toList_injective htext, hxy⟩⟩
    | some o' =>
      simp only [ho, ho'] at hv hw
      obtain ⟨hbefore, hopening, rest, hu⟩ := hw
      rw [hu, List.append_assoc] at h
      exact absurd (Text.run_append_inj hv.1 hbefore (hclose hx) (hopen hopening) h).2
        (hdiffer hopening hx)
  | some o =>
    obtain ⟨before, c⟩ := o
    simp only [ho] at hv
    obtain ⟨hbefore, hopening, rest, ht⟩ := hv
    rw [ht, List.append_assoc] at h
    refine ⟨?_, fun hnone => by cases hnone⟩
    cases ho' : opening w with
    | none =>
      simp only [ho'] at hw
      exact absurd (Text.run_append_inj hw.1 hbefore (hclose hy) (hopen hopening) h.symm).2
        (hdiffer hopening hy)
    | some o' =>
      obtain ⟨before', c'⟩ := o'
      simp only [ho'] at hw
      obtain ⟨hbefore', hopening', rest', hu⟩ := hw
      rw [hu, List.append_assoc] at h
      obtain ⟨rfl, hrest⟩ :=
        Text.run_append_inj hbefore hbefore' (hopen hopening) (hopen hopening') h
      -- Both open something, and have the same bare characters in front of it.
      rw [(List.cons.inj hrest).1]

/-- A value that opens with no quote or bracket is a name or a number. -/
theorem scalar_cases {v : Value} (h : opening v = Option.none) :
    v = .none ∨ v = .ellipsis ∨ (∃ b, v = .bool b) ∨ (∃ n, v = .int n) ∨ (∃ x, v = .float x) ∨
      ∃ z, v = .complex z ∧ isImaginary z = true := by
  cases v with
  | none => exact .inl rfl
  | ellipsis => exact .inr (.inl rfl)
  | bool b => exact .inr (.inr (.inl ⟨b, rfl⟩))
  | int n => exact .inr (.inr (.inr (.inl ⟨n, rfl⟩)))
  | float x => exact .inr (.inr (.inr (.inr (.inl ⟨x, rfl⟩))))
  | complex z =>
    refine .inr (.inr (.inr (.inr (.inr ⟨z, rfl, ?_⟩))))
    by_contra hz
    rw [opening, if_neg hz] at h
    cases h
  | set items => cases items <;> cases h
  | _ => cases h

/-- The kind of a name or a number, told by its characters. -/
def textKind (cs : List Char) : ℕ :=
  if 'N' ∈ cs then 0 else if 'E' ∈ cs then 1 else if 'T' ∈ cs then 2 else if 'F' ∈ cs then 3
  else if 'j' ∈ cs then 4 else if '.' ∈ cs ∨ 'e' ∈ cs ∨ 'n' ∈ cs then 5 else 6

/-- The kind of a number in floating point. -/
theorem textKind_floatText (x : Float) : textKind (floatText x).toList = 5 := by
  have hchars := (writes_floatText x).isNumberChar
  have hnot : ∀ c, isNumberChar c = false → c ∉ (floatText x).toList := by
    intro c hc hmem
    rw [hchars c hmem] at hc
    cases hc
  have hmark : '.' ∈ (floatText x).toList ∨ 'e' ∈ (floatText x).toList ∨
      'n' ∈ (floatText x).toList := by
    obtain ⟨c, hc, rfl | rfl | rfl⟩ := exists_mark_floatText x
    · exact .inl hc
    · exact .inr (.inl hc)
    · exact .inr (.inr hc)
  rw [textKind, if_neg (hnot 'N' rfl), if_neg (hnot 'E' rfl), if_neg (hnot 'T' rfl),
    if_neg (hnot 'F' rfl), if_neg (hnot 'j' rfl), if_pos hmark]

/-- The kind of an integer. -/
theorem textKind_intText (n : Int) : textKind (intText n).toList = 6 := by
  have hnot : ∀ c, c.isDigit = false → c ≠ '-' → c ∉ (intText n).toList := by
    intro c hc hminus hmem
    obtain h | h := intText_chars n c hmem
    · rw [h] at hc
      cases hc
    · exact hminus h
  have hmark : ¬('.' ∈ (intText n).toList ∨ 'e' ∈ (intText n).toList ∨
      'n' ∈ (intText n).toList) := by
    rintro (h | h | h)
    · exact hnot '.' rfl (by decide) h
    · exact hnot 'e' rfl (by decide) h
    · exact hnot 'n' rfl (by decide) h
  rw [textKind, if_neg (hnot 'N' rfl (by decide)), if_neg (hnot 'E' rfl (by decide)),
    if_neg (hnot 'T' rfl (by decide)), if_neg (hnot 'F' rfl (by decide)),
    if_neg (hnot 'j' rfl (by decide)), if_neg hmark]

/-- The kind of a complex number written as its imaginary part. -/
theorem textKind_imaginary {z : Number.Complex} (h : isImaginary z = true) :
    textKind (complexText z).toList = 4 := by
  rw [toList_complexText_imaginary h]
  have hnot : ∀ c, isNumberChar c = false → c ≠ 'j' → c ∉ (partText z.im).toList ++ ['j'] := by
    intro c hc hj hmem
    obtain hmem | hmem := List.mem_append.1 hmem
    · rw [(writes_partText z.im).isNumberChar c hmem] at hc
      cases hc
    · exact hj (List.mem_singleton.1 hmem)
  rw [textKind, if_neg (hnot 'N' rfl (by decide)), if_neg (hnot 'E' rfl (by decide)),
    if_neg (hnot 'T' rfl (by decide)), if_neg (hnot 'F' rfl (by decide)), if_pos (by simp)]

/-- The kind of a value that is a name or a number. -/
def scalarKind : Value → ℕ
  | .none => 0
  | .ellipsis => 1
  | .bool b => if b then 2 else 3
  | .complex _ => 4
  | .float _ => 5
  | _ => 6

/-- The text of a name or a number tells its kind. -/
theorem textKind_shown {v : Value} {t : String} (h : v.shown? = some t)
    (ho : opening v = Option.none) : textKind t.toList = scalarKind v := by
  obtain rfl | rfl | ⟨b, rfl⟩ | ⟨n, rfl⟩ | ⟨x, rfl⟩ | ⟨z, rfl, hz⟩ := scalar_cases ho
  · obtain rfl := Option.some.inj h
    decide
  · obtain rfl := Option.some.inj h
    decide
  · obtain rfl := Option.some.inj h
    revert b
    decide
  · rw [shown?_int h]
    exact textKind_intText n
  · obtain rfl := Option.some.inj h
    exact textKind_floatText x
  · obtain rfl := Option.some.inj h
    exact textKind_imaginary hz

/-- Names and numbers are determined by their texts. -/
theorem scalar_inj {v w : Value} {t : String} (hv : v.shown? = some t) (hw : w.shown? = some t)
    (ho : opening v = Option.none) (ho' : opening w = Option.none) : v = w := by
  have hkind := (textKind_shown hv ho).symm.trans (textKind_shown hw ho')
  obtain rfl | rfl | ⟨b, rfl⟩ | ⟨n, rfl⟩ | ⟨a, rfl⟩ | ⟨z, rfl, hz⟩ := scalar_cases ho <;>
    obtain rfl | rfl | ⟨b', rfl⟩ | ⟨m, rfl⟩ | ⟨a', rfl⟩ | ⟨z', rfl, hz'⟩ := scalar_cases ho'
  -- Different kinds are done; values of the same kind remain.
  all_goals first
    | rfl
    | (exfalso; revert hkind; simp only [scalarKind]; first | decide | (split <;> decide))
    | skip
  · have hsame : b = b' := by
      revert hkind
      cases b <;> cases b' <;> decide
    rw [hsame]
  · rw [intText_inj (congrArg String.toList ((shown?_int hv).symm.trans (shown?_int hw)))]
  · have htext : floatText a = floatText a' :=
      (Option.some.inj hv).trans (Option.some.inj hw).symm
    have hwrites := writes_floatText a'
    rw [← htext] at hwrites
    have hend : Numeral.Ends [] := by simp [Numeral.Ends]
    rw [(writes_append_inj (writes_floatText a) hwrites hend hend rfl).1]
  · have htext : complexText z = complexText z' :=
      (Option.some.inj hv).trans (Option.some.inj hw).symm
    rw [imaginary_inj hz hz' (congrArg String.toList htext)]

section Items

variable {α : Type} {Shows : α → String → Prop}

/-- The texts of a kind of members end where something closes, and determine the member. -/
def Determines (Shows : α → String → Prop) (a : α) : Prop :=
  ∀ ⦃b : α⦄ ⦃t u : String⦄ ⦃x y : List Char⦄, Shows a t → Shows b u → Closes x → Closes y →
    t.toList ++ x = u.toList ++ y → a = b ∧ x = y

/-- A text goes on with a closing bracket. -/
def Brackets (rest : List Char) : Prop :=
  ∃ c cs, rest = c :: cs ∧ (c = ')' ∨ c = ']' ∨ c = '\x7d')

/-- A closing bracket may follow a value. -/
theorem Brackets.closes {rest : List Char} (h : Brackets rest) : Closes rest := by
  obtain ⟨c, cs, rfl, hc⟩ := h
  intro d hd
  obtain rfl := Option.some.inj hd
  obtain rfl | rfl | rfl := hc <;> rfl

/-- What follows a member is a comma or a closing bracket. -/
theorem closes_tail (ss : List String) {x : List Char} (hx : Brackets x) :
    Closes ((ss.flatMap fun s => ',' :: ' ' :: s.toList) ++ x) := by
  cases ss with
  | nil => exact hx.closes
  | cons s ss =>
    intro d hd
    obtain rfl := Option.some.inj hd
    rfl

/-- The members behind the first one are determined by their texts. -/
theorem tail_append_inj {as bs : List α} {ss ts : List String}
    (hdet : ∀ a ∈ as, Determines Shows a) (hs : List.Forall₂ Shows as ss)
    (ht : List.Forall₂ Shows bs ts) {x y : List Char} (hx : Brackets x) (hy : Brackets y)
    (h : (ss.flatMap fun s => ',' :: ' ' :: s.toList) ++ x =
      (ts.flatMap fun t => ',' :: ' ' :: t.toList) ++ y) : as = bs ∧ x = y := by
  have hcomma : ∀ {x : List Char}, Brackets x → ∀ rest, x ≠ ',' :: rest := by
    rintro x ⟨c, cs, rfl, hc⟩ rest h
    rw [(List.cons.inj h).1] at hc
    simp at hc
  induction hs generalizing bs ts with
  | nil =>
    cases ht with
    | nil => exact ⟨rfl, h⟩
    | cons hb ht => exact absurd h (hcomma hx _)
  | cons ha hs ih =>
    cases ht with
    | nil => exact absurd h.symm (hcomma hy _)
    | cons hb ht =>
      simp only [List.flatMap_cons, List.append_assoc] at h
      have hrest := (List.cons.inj (List.cons.inj h).2).2
      obtain ⟨rfl, htail⟩ := hdet _ List.mem_cons_self ha hb (closes_tail _ hx)
        (closes_tail _ hy) hrest
      obtain ⟨rfl, rfl⟩ := ih (fun a hmem => hdet a (.tail _ hmem)) ht htail
      exact ⟨rfl, rfl⟩

/-- The members of a sequence are determined by its text. -/
theorem items_append_inj {as bs : List α} {ss ts : List String}
    (hdet : ∀ a ∈ as, Determines Shows a)
    (hhead : ∀ ⦃a s⦄, Shows a s → ∃ c rest, s.toList = c :: rest ∧ isClosing c = false)
    (hs : List.Forall₂ Shows as ss) (ht : List.Forall₂ Shows bs ts) {x y : List Char}
    (hx : Brackets x) (hy : Brackets y)
    (h : (commaSeparated ss).toList ++ x = (commaSeparated ts).toList ++ y) : as = bs ∧ x = y := by
  -- A member never begins with what closes the sequence, so that the sequences end together.
  have hempty : ∀ {a : α} {s : String} {x y : List Char}, Shows a s → Brackets x →
      x ≠ s.toList ++ y := by
    rintro a s x y ha hx rfl
    obtain ⟨c, rest, hs, hc⟩ := hhead ha
    have hclosing := hx.closes c (by rw [hs]; rfl)
    rw [hc] at hclosing
    cases hclosing
  cases hs with
  | nil =>
    cases ht with
    | nil => exact ⟨rfl, h⟩
    | cons hb ht =>
      rw [toList_commaSeparated, List.append_assoc] at h
      exact absurd h (hempty hb hx)
  | cons ha hs =>
    cases ht with
    | nil =>
      rw [toList_commaSeparated, List.append_assoc] at h
      exact absurd h.symm (hempty ha hy)
    | cons hb ht =>
      rw [toList_commaSeparated, toList_commaSeparated, List.append_assoc, List.append_assoc] at h
      -- The first members are the same, since both end at a comma or a bracket; the rest follows.
      obtain ⟨rfl, htail⟩ := hdet _ List.mem_cons_self ha hb (closes_tail _ hx)
        (closes_tail _ hy) h
      obtain ⟨rfl, rfl⟩ := tail_append_inj (fun a hmem => hdet a (.tail _ hmem)) hs ht hx hy htail
      exact ⟨rfl, rfl⟩

end Items

/-- The texts of values are those of each of them. -/
theorem shownItems?_eq_some {vs : List Value} {ss : List String} (h : shownItems? vs = some ss) :
    List.Forall₂ (fun v s => v.shown? = some s) vs ss := by
  induction vs generalizing ss with
  | nil =>
    obtain rfl := Option.some.inj h
    exact .nil
  | cons v vs ih =>
    rw [shownItems?] at h
    split at h
    case h_1 s rest hv hvs =>
      obtain rfl := Option.some.inj h
      exact .cons hv (ih hvs)
    case h_2 => cases h

/-- An entry of a dictionary is written as its key and its value. -/
def ShowsEntry (entry : Value × Value) (s : String) : Prop :=
  ∃ key value, entry.1.shown? = some key ∧ entry.2.shown? = some value ∧ s = key ++ ": " ++ value

/-- The texts of entries are those of each of them. -/
theorem shownEntries?_eq_some {entries : List (Value × Value)} {ss : List String}
    (h : shownEntries? entries = some ss) : List.Forall₂ ShowsEntry entries ss := by
  induction entries generalizing ss with
  | nil =>
    obtain rfl := Option.some.inj h
    exact .nil
  | cons entry entries ih =>
    obtain ⟨k, v⟩ := entry
    rw [shownEntries?] at h
    split at h
    case h_1 key value rest hk hv hrest =>
      obtain rfl := Option.some.inj h
      exact .cons ⟨key, value, hk, hv, rfl⟩ (ih hrest)
    case h_2 => cases h

/-- An entry is determined by its text if its key and its value are. -/
theorem determines_entry {entry : Value × Value}
    (hkey : Determines (fun v s => v.shown? = some s) entry.1)
    (hvalue : Determines (fun v s => v.shown? = some s) entry.2) :
    Determines ShowsEntry entry := by
  rintro entry' t u x y ⟨k, v, hk, hv, rfl⟩ ⟨k', v', hk', hv', rfl⟩ hx hy h
  have hcolon : ∀ rest, Closes (':' :: rest) := by
    intro rest c hc
    obtain rfl := Option.some.inj hc
    rfl
  simp only [String.toList_append, List.append_assoc] at h
  obtain ⟨hsame, hrest⟩ := hkey hk hk' (hcolon _) (hcolon _) h
  have hrest := (List.cons.inj (List.cons.inj hrest).2).2
  obtain ⟨hsame', hxy⟩ := hvalue hv hv' hx hy hrest
  exact ⟨Prod.ext hsame hsame', hxy⟩

/-- The text of an entry does not begin with a character that closes something. -/
theorem head_entry {entry : Value × Value} {s : String} (h : ShowsEntry entry s) :
    ∃ c rest, s.toList = c :: rest ∧ isClosing c = false := by
  obtain ⟨k, v, hk, -, rfl⟩ := h
  obtain ⟨c, rest, hc, hclosing⟩ := head_shown hk
  exact ⟨c, rest ++ (':' :: ' ' :: v.toList), by simp [hc], hclosing⟩

/-- A value that opens with a quote is a text. -/
theorem text_of_opening {w : Value} {cs : List Char}
    (h : opening w = some ([], Text.quoteFor cs)) : ∃ s, w = .text s := by
  have hquote : ∀ c, c = '(' ∨ c = '[' ∨ c = '\x7b' → c ≠ Text.quoteFor cs := by
    rintro c hc rfl
    obtain hq | hq := Text.quoteFor_eq cs <;> rw [hq] at hc <;> simp at hc
  cases w with
  | text s => exact ⟨s, rfl⟩
  | complex z =>
    rw [opening] at h
    split at h
    · cases h
    · exact absurd (Prod.mk.inj (Option.some.inj h)).2 (hquote _ (by simp))
  | set items =>
    cases items with
    | nil => cases h
    | cons v items => exact absurd (Prod.mk.inj (Option.some.inj h)).2 (hquote _ (by simp))
  | tuple items => exact absurd (Prod.mk.inj (Option.some.inj h)).2 (hquote _ (by simp))
  | list items => exact absurd (Prod.mk.inj (Option.some.inj h)).2 (hquote _ (by simp))
  | dict entries => exact absurd (Prod.mk.inj (Option.some.inj h)).2 (hquote _ (by simp))
  | _ => cases h

/-- A value that opens with a marked quote is a sequence of bytes. -/
theorem bytes_of_opening {w : Value} {c : Char} (h : opening w = some (['b'], c)) :
    ∃ bs, w = .bytes bs := by
  cases w with
  | bytes bs => exact ⟨bs, rfl⟩
  | complex z =>
    rw [opening] at h
    split at h <;> cases h
  | set items => cases items <;> cases h
  | _ => cases h

/-- A value that opens with a square bracket is a list. -/
theorem list_of_opening {w : Value} (h : opening w = some ([], '[')) :
    ∃ items, w = .list items := by
  cases w with
  | list items => exact ⟨items, rfl⟩
  | complex z =>
    rw [opening] at h
    split at h <;> cases h
  | set items => cases items <;> cases h
  | text s =>
    have hquote := (Prod.mk.inj (Option.some.inj h)).2
    obtain hq | hq := Text.quoteFor_eq s.toList <;> rw [hq] at hquote <;> cases hquote
  | _ => cases h

/-- A value that opens with a name and a parenthesis is the empty set. -/
theorem set_of_opening {w : Value} {c : Char} (h : opening w = some (['s', 'e', 't'], c)) :
    w = .set [] := by
  cases w with
  | set items =>
    cases items with
    | nil => rfl
    | cons v items => cases h
  | complex z =>
    rw [opening] at h
    split at h <;> cases h
  | _ => cases h

/-- A value that opens with a parenthesis is a tuple or a complex number. -/
theorem tuple_of_opening {w : Value} (h : opening w = some ([], '(')) :
    (∃ items, w = .tuple items) ∨ ∃ z, w = .complex z ∧ isImaginary z = false := by
  cases w with
  | tuple items => exact .inl ⟨items, rfl⟩
  | complex z =>
    rw [opening] at h
    split at h
    · cases h
    case isFalse hz => exact .inr ⟨z, rfl, by simpa using hz⟩
  | set items => cases items <;> cases h
  | text s =>
    have hquote := (Prod.mk.inj (Option.some.inj h)).2
    obtain hq | hq := Text.quoteFor_eq s.toList <;> rw [hq] at hquote <;> cases hquote
  | _ => cases h

/-- A value that opens with a brace is a set with members or a dictionary. -/
theorem dict_of_opening {w : Value} (h : opening w = some ([], '\x7b')) :
    (∃ v items, w = .set (v :: items)) ∨ ∃ entries, w = .dict entries := by
  cases w with
  | set items =>
    cases items with
    | nil => cases h
    | cons v items => exact .inl ⟨v, items, rfl⟩
  | dict entries => exact .inr ⟨entries, rfl⟩
  | complex z =>
    rw [opening] at h
    split at h <;> cases h
  | text s =>
    have hquote := (Prod.mk.inj (Option.some.inj h)).2
    obtain hq | hq := Text.quoteFor_eq s.toList <;> rw [hq] at hquote <;> cases hquote
  | _ => cases h

/-- The text of a tuple is not that of a complex number, which has no comma and no bracket between
its parentheses. -/
theorem tuple_ne_complex {items : List Value} {z : Number.Complex} {t : String} {x y : List Char}
    (ht : (Value.tuple items).shown? = some t) (hz : isImaginary z = false) :
    t.toList ++ x ≠ (complexText z).toList ++ y := by
  intro h
  obtain ⟨ss, hss, htext⟩ := shown?_tuple ht
  rw [htext, toList_complexText hz] at h
  have hbare := isBare_parts z
  obtain ⟨c, rest, hparts⟩ : ∃ c rest, (partText z.re).toList ++
      (signedPart (partText z.im).toList ++ ['j']) = c :: rest :=
    List.exists_cons_of_ne_nil (by simp)
  have h : (commaSeparated ss).toList ++ (tupleEnd ss ++ x) =
      ((partText z.re).toList ++ (signedPart (partText z.im).toList ++ ['j'])) ++ ')' :: y := by
    simpa using h
  rw [hparts] at h hbare
  -- Up to the last parenthesis the number is written in bare characters.
  cases ss with
  | nil =>
    have hclose := hbare c List.mem_cons_self
    rw [← (List.cons.inj h).1] at hclose
    cases hclose
  | cons s ss =>
    have hitems := shownItems?_eq_some hss
    obtain ⟨rest', hcomma⟩ : ∃ rest', (ss.flatMap fun r => ',' :: ' ' :: r.toList) ++
        (tupleEnd (s :: ss) ++ x) = ',' :: rest' := by
      cases ss with
      | nil => exact ⟨_, rfl⟩
      | cons r ss => exact ⟨_, rfl⟩
    rw [toList_commaSeparated, List.append_assoc, hcomma] at h
    cases hitems with
    | cons hs _ =>
      have hspec := opening_spec hs
      -- A first member in bare characters is followed by the comma of the tuple, any other opens
      -- something: the number has neither.
      split at hspec
      · obtain ⟨-, hrest⟩ := Text.run_append_inj hspec.1 hbare (by simp; rfl) (by simp; rfl) h
        cases hrest
      · obtain ⟨hbefore, hopening, rest'', hs'⟩ := hspec
        rw [hs', List.append_assoc] at h
        obtain ⟨-, hrest⟩ := Text.run_append_inj hbefore hbare
          (by simpa using not_isBare (.inr hopening)) (by simp; rfl) h
        rw [(List.cons.inj hrest).1] at hopening
        cases hopening

/-- The members of a tuple are determined by its text. -/
theorem tuple_append_inj {vs ws : List Value} {ss ts : List String}
    (hdet : ∀ v ∈ vs, Determines (fun v s => v.shown? = some s) v)
    (hs : List.Forall₂ (fun v s => v.shown? = some s) vs ss)
    (ht : List.Forall₂ (fun v s => v.shown? = some s) ws ts) {x y : List Char}
    (h : (commaSeparated ss).toList ++ (tupleEnd ss ++ x) =
      (commaSeparated ts).toList ++ (tupleEnd ts ++ y)) : vs = ws ∧ x = y := by
  -- Members end at the parenthesis or at a comma, and none begins with the parenthesis.
  have hparen : ∀ x, Brackets (')' :: x) := fun x => ⟨')', x, rfl, .inl rfl⟩
  have hcomma : ∀ x, Closes (',' :: x) := by
    intro x c hc
    obtain rfl := Option.some.inj hc
    rfl
  have hempty : ∀ {v : Value} {s : String} {x y : List Char}, v.shown? = some s →
      ')' :: x ≠ s.toList ++ y := by
    intro v s x y hv h
    obtain ⟨c, rest, hs, hc⟩ := head_shown hv
    rw [hs] at h
    rw [← (List.cons.inj h).1] at hc
    cases hc
  -- A tuple of one member has a comma behind it, which sets it apart from all others.
  match hs, ht with
  | .nil, .nil => exact ⟨rfl, (List.cons.inj h).2⟩
  | .nil, .cons hw ht =>
    rw [toList_commaSeparated, List.append_assoc] at h
    exact absurd h (hempty hw)
  | .cons hv hs, .nil =>
    rw [toList_commaSeparated, List.append_assoc] at h
    exact absurd h.symm (hempty hv)
  | .cons hv .nil, .cons hw .nil =>
    rw [toList_commaSeparated, toList_commaSeparated, List.append_assoc, List.append_assoc] at h
    obtain ⟨rfl, hrest⟩ := hdet _ List.mem_cons_self hv hw (hcomma _) (hcomma _) h
    exact ⟨rfl, (List.cons.inj (List.cons.inj hrest).2).2⟩
  | .cons hv .nil, .cons hw (.cons hw' ht) =>
    rw [toList_commaSeparated, toList_commaSeparated, List.append_assoc, List.append_assoc] at h
    obtain ⟨-, hrest⟩ := hdet _ List.mem_cons_self hv hw (hcomma _) (hcomma _) h
    cases (List.cons.inj (List.cons.inj hrest).2).1
  | .cons hv (.cons hv' hs), .cons hw .nil =>
    rw [toList_commaSeparated, toList_commaSeparated, List.append_assoc, List.append_assoc] at h
    obtain ⟨-, hrest⟩ := hdet _ List.mem_cons_self hv hw (hcomma _) (hcomma _) h
    cases (List.cons.inj (List.cons.inj hrest).2).1
  | .cons hv (.cons hv' hs), .cons hw (.cons hw' ht) =>
    obtain ⟨hsame, hend⟩ := items_append_inj hdet (fun _ _ => head_shown)
      (.cons hv (.cons hv' hs)) (.cons hw (.cons hw' ht)) (hparen _) (hparen _) h
    exact ⟨hsame, (List.cons.inj hend).2⟩

/-- A member of a set is not an entry of a dictionary, which has a colon behind the key. -/
theorem member_ne_entry {s key : String} {ss : List String} {x rest : List Char}
    (hdet : ∀ {x y : List Char}, Closes x → Closes y → s.toList ++ x = key.toList ++ y → x = y)
    (hx : Brackets x) :
    s.toList ++ ((ss.flatMap fun s => ',' :: ' ' :: s.toList) ++ x) ≠ key.toList ++ ':' :: rest := by
  intro h
  have hcolon : Closes (':' :: rest) := by
    intro c hc
    obtain rfl := Option.some.inj hc
    rfl
  have hsame := hdet (closes_tail ss hx) hcolon h
  cases ss with
  | nil =>
    obtain ⟨c, cs, rfl, hc⟩ := hx
    rw [List.flatMap_nil, List.nil_append] at hsame
    rw [(List.cons.inj hsame).1] at hc
    simp at hc
  | cons s ss => cases (List.cons.inj hsame).1

/-- The text of a set with members is not that of a dictionary, if its first member is determined by
its text or the keys of the dictionary are. -/
theorem set_ne_dict {v : Value} {items : List Value} {entries : List (Value × Value)}
    {t u : String} {x y : List Char} (ht : (Value.set (v :: items)).shown? = some t)
    (hu : (Value.dict entries).shown? = some u)
    (hdet : Determines (fun v s => v.shown? = some s) v ∨
      ∀ entry ∈ entries, Determines (fun v s => v.shown? = some s) entry.1) :
    t.toList ++ x ≠ u.toList ++ y := by
  intro h
  have hbrace : ∀ x, Brackets ('\x7d' :: x) := fun x => ⟨'\x7d', x, rfl, .inr (.inr rfl)⟩
  obtain ⟨ss, hss, htext⟩ := shown?_set ht
  obtain ⟨us, hus, hutext⟩ := shown?_dict hu
  rw [htext, hutext] at h
  have h : (commaSeparated ss).toList ++ '\x7d' :: x = (commaSeparated us).toList ++ '\x7d' :: y := by
    simpa using h
  match shownItems?_eq_some hss, shownEntries?_eq_some hus with
  | .cons hv _, .nil =>
    obtain ⟨c, rest, hs, hc⟩ := head_shown hv
    rw [toList_commaSeparated, List.append_assoc, hs] at h
    rw [(List.cons.inj h).1] at hc
    cases hc
  | .cons hv _, .cons ⟨key, value, hk, hvalue, rfl⟩ _ =>
    rw [toList_commaSeparated, toList_commaSeparated, List.append_assoc] at h
    simp only [String.toList_append, List.append_assoc] at h
    refine member_ne_entry ?_ (hbrace x) h
    intro x y hx hy hsame
    obtain hdet | hdet := hdet
    · exact (hdet hv hk hx hy hsame).2
    · exact (hdet _ List.mem_cons_self hk hv hy hx hsame.symm).2.symm

/-- The text of a value ends where something closes, and determines the value. -/
theorem determined (v : Value) : Determines (fun v s => v.shown? = some s) v := by
  induction v using induction_parts with
  | step v ih =>
  intro w t u x y hv hw hx hy h
  obtain ⟨ho, hscalar⟩ := opening_eq hv hw hx hy h
  -- The induction is on the parts of a value; their texts end at a comma, a colon or one of these.
  have hparen : ∀ x, Brackets (')' :: x) := fun x => ⟨')', x, rfl, .inl rfl⟩
  have hsquare : ∀ x, Brackets (']' :: x) := fun x => ⟨']', x, rfl, .inr (.inl rfl)⟩
  have hbrace : ∀ x, Brackets ('\x7d' :: x) := fun x => ⟨'\x7d', x, rfl, .inr (.inr rfl)⟩
  -- Of values without parts, the text is all that there is before something closes.
  have done : opening v = Option.none → v = w ∧ x = y := by
    intro hnone
    obtain ⟨rfl, hxy⟩ := hscalar hnone
    exact ⟨scalar_inj hv hw hnone (ho ▸ hnone), hxy⟩
  cases v with
  | none => exact done rfl
  | ellipsis => exact done rfl
  | bool b => exact done rfl
  | int n => exact done rfl
  | float a => exact done rfl
  | complex z =>
    cases hz : isImaginary z with
    | true => exact done (by rw [opening, if_pos hz])
    | false =>
      have hopen : opening (.complex z) = some ([], '(') := by
        rw [opening, if_neg (by rw [hz]; exact Bool.false_ne_true)]
      obtain rfl := Option.some.inj hv
      -- A parenthesis opens tuples as well as numbers with two parts.
      obtain ⟨items, rfl⟩ | ⟨z', rfl, hz'⟩ := tuple_of_opening (ho ▸ hopen)
      · exact absurd h.symm (tuple_ne_complex hw hz)
      · obtain rfl := Option.some.inj hw
        obtain ⟨rfl, rfl⟩ := complexText_append_inj hz hz' h
        exact ⟨rfl, rfl⟩
  | text s =>
    obtain ⟨s', rfl⟩ := text_of_opening ho.symm
    obtain rfl := Option.some.inj hv
    obtain rfl := Option.some.inj hw
    obtain ⟨rfl, rfl⟩ := Text.quoted_append_inj h
    exact ⟨rfl, rfl⟩
  | bytes bs =>
    obtain ⟨bs', rfl⟩ := bytes_of_opening ho.symm
    obtain rfl := Option.some.inj hv
    obtain rfl := Option.some.inj hw
    obtain ⟨rfl, rfl⟩ := Text.quotedBytes_append_inj h
    exact ⟨rfl, rfl⟩
  | tuple items =>
    obtain ⟨items', rfl⟩ | ⟨z, rfl, hz⟩ := tuple_of_opening ho.symm
    · obtain ⟨ss, hss, ht⟩ := shown?_tuple hv
      obtain ⟨us, hus, hu⟩ := shown?_tuple hw
      rw [ht, hu] at h
      simp only [List.cons_append, List.append_assoc] at h
      obtain ⟨rfl, rfl⟩ := tuple_append_inj ih (shownItems?_eq_some hss)
        (shownItems?_eq_some hus) (List.cons.inj h).2
      exact ⟨rfl, rfl⟩
    · obtain rfl := Option.some.inj hw
      exact absurd h (tuple_ne_complex hv hz)
  | list items =>
    obtain ⟨items', rfl⟩ := list_of_opening ho.symm
    obtain ⟨ss, hss, ht⟩ := shown?_list hv
    obtain ⟨us, hus, hu⟩ := shown?_list hw
    rw [ht, hu] at h
    simp only [List.cons_append, List.append_assoc] at h
    obtain ⟨rfl, hend⟩ := items_append_inj ih (fun _ _ => head_shown) (shownItems?_eq_some hss)
      (shownItems?_eq_some hus) (hsquare _) (hsquare _) (List.cons.inj h).2
    exact ⟨rfl, (List.cons.inj hend).2⟩
  | set items =>
    cases items with
    | nil =>
      obtain rfl := set_of_opening ho.symm
      obtain rfl := (Option.some.inj hv).symm.trans (Option.some.inj hw)
      exact ⟨rfl, List.append_cancel_left h⟩
    | cons p items =>
      -- A brace opens sets as well as dictionaries, which have a colon behind their first key.
      obtain ⟨p', items', rfl⟩ | ⟨entries, rfl⟩ := dict_of_opening ho.symm
      · obtain ⟨ss, hss, ht⟩ := shown?_set hv
        obtain ⟨us, hus, hu⟩ := shown?_set hw
        rw [ht, hu] at h
        simp only [List.cons_append, List.append_assoc] at h
        obtain ⟨hsame, hend⟩ := items_append_inj ih (fun _ _ => head_shown)
          (shownItems?_eq_some hss) (shownItems?_eq_some hus) (hbrace _) (hbrace _)
          (List.cons.inj h).2
        exact ⟨congrArg Value.set hsame, (List.cons.inj hend).2⟩
      · exact absurd h (set_ne_dict hv hw (.inl (ih p List.mem_cons_self)))
  | dict entries =>
    have hkey : ∀ entry ∈ entries, Determines (fun v s => v.shown? = some s) entry.1 :=
      fun entry hentry => ih _ (List.mem_flatMap.2 ⟨entry, hentry, List.mem_cons_self⟩)
    obtain ⟨p, items, rfl⟩ | ⟨entries', rfl⟩ := dict_of_opening ho.symm
    · exact absurd h.symm (set_ne_dict hw hv (.inr hkey))
    · have hvalue : ∀ entry ∈ entries, Determines (fun v s => v.shown? = some s) entry.2 :=
        fun entry hentry => ih _ (List.mem_flatMap.2 ⟨entry, hentry, .tail _ List.mem_cons_self⟩)
      obtain ⟨ss, hss, ht⟩ := shown?_dict hv
      obtain ⟨us, hus, hu⟩ := shown?_dict hw
      rw [ht, hu] at h
      simp only [List.cons_append, List.append_assoc] at h
      obtain ⟨rfl, hend⟩ := items_append_inj
        (fun entry hentry => determines_entry (hkey entry hentry) (hvalue entry hentry))
        (fun _ _ => head_entry) (shownEntries?_eq_some hss) (shownEntries?_eq_some hus) (hbrace _)
        (hbrace _) (List.cons.inj h).2
      exact ⟨rfl, (List.cons.inj hend).2⟩

/-- Values with the same text are equal. -/
theorem shown?_inj {v w : Value} {t : String} (hv : v.shown? = some t) (hw : w.shown? = some t) :
    v = w := by
  have hend : Closes [] := by simp [Closes]
  exact (determined v hv hw hend hend rfl).1

end Hashmark.Value
