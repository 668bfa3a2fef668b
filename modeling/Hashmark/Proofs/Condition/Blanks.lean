import Hashmark.Proofs.Condition.Descent
import Hashmark.Proofs.Condition.Numeral
import Hashmark.Proofs.Condition.Presence
import Hashmark.Proofs.Text.Separate

/-!
# Blanks around an expression

An expression is cut into the same words with blanks around it, but for line ends behind them
(`words?_blanks`). Blanks in front of it may leave it without words, where they indent it or are of a
kind that stands in no line; where they do not, they do not matter. So a text writes the same
expression with the blanks around it and without them, if it writes one either way
(`parse?_strip`).
-/

namespace Hashmark.Condition

open Text (isBlank isDigit)

section Word

/-- The body of a quotation behind its first quote, and the rest: it is on one line, between three
quotes, or empty. -/
def enclosed? (quote : Char) : List Char → Option (List Char × List Char)
  | c :: d :: rest =>
    if c = quote then
      if d = quote then quotationBody? quote true rest else some ([], d :: rest)
    else quotationBody? quote false (c :: d :: rest)
  | [c] => if c = quote then some ([], []) else none
  | [] => none

/-- The quotation with this body. -/
def closedQuotation? (kind : QuotationKind) :
    Option (List Char × List Char) → Option (Quotation × List Char)
  | none => none
  | some (body, rest) => (Quotation.ofBody? kind body).map fun q => (q, rest)

/-- No symbol has a blank in it. -/
theorem symbols_not_isBlank : ∀ s ∈ symbols, ∀ c ∈ s.toList, isBlank c = false := by
  simp [symbols, isBlank]

/-- No reserved word has a blank in it. -/
theorem keywords_not_isBlank : ∀ s ∈ keywords, ∀ c ∈ s.toList, isBlank c = false := by
  simp [keywords, isBlank]

/-- No word that a name writes has a blank in it. -/
theorem not_isBlank_of_wordToken? {cs : List Char} {token : Token}
    (h : wordToken? cs = some token) : ∀ c ∈ cs, isBlank c = false := by
  simp only [wordToken?] at h
  split at h
  case isTrue hkeyword =>
    have hmem := keywords_not_isBlank _ (List.contains_iff_mem.1 hkeyword)
    rwa [String.toList_ofList] at hmem
  case isFalse =>
    split at h
    case isTrue hidentifier => exact Text.not_isBlank_of_mem_identifier hidentifier
    case isFalse => cases h

/-- No blank begins a quotation. -/
theorem quotationStart?_of_isBlank {c : Char} (h : isBlank c = true) (kind : QuotationKind)
    (cs : List Char) : quotationStart? kind (c :: cs) = none := by
  have hne : ∀ d, isBlank d = false → c ≠ d := fun d hd => ne_of_isBlank h hd
  have hletter : kind.withLetter? c = none := by
    simp [QuotationKind.withLetter?, hne 'b' rfl, hne 'B' rfl, hne 'u' rfl, hne 'U' rfl,
      hne 'r' rfl, hne 'R' rfl, hne 'f' rfl, hne 'F' rfl]
  rw [quotationStart?, if_neg (by simp [hne '\'' rfl, hne '"' rfl]), hletter]

/-- No blank is the start of a symbol. -/
theorem isPrefixOf_append {z symbol : List Char} (hz : AreBlank z)
    (hsymbol : ∀ c ∈ symbol, isBlank c = false) (y : List Char) :
    symbol.isPrefixOf (y ++ z) = symbol.isPrefixOf y := by
  induction y generalizing symbol with
  | nil =>
    cases symbol with
    | nil => cases z <;> rfl
    | cons s symbol =>
      cases z with
      | nil => rfl
      | cons c z =>
        have hne := ne_of_isBlank (hz c List.mem_cons_self) (hsymbol s List.mem_cons_self)
        simp [List.isPrefixOf, Ne.symm hne]
  | cons c y ih =>
    cases symbol with
    | nil => rfl
    | cons s symbol =>
      rw [List.cons_append, List.isPrefixOf_cons_cons, List.isPrefixOf_cons_cons,
        ih fun d hd => hsymbol d (.tail _ hd)]

/-- What begins a quotation is no blank. -/
theorem isBlank_of_quotationStart? {kind kind' : QuotationKind} {quote : Char}
    {y rest : List Char} (h : quotationStart? kind y = some (kind', quote, rest)) :
    isBlank quote = false := by
  induction y generalizing kind with
  | nil => cases h
  | cons c y ih =>
    rw [quotationStart?] at h
    split at h
    case isTrue hquote =>
      obtain ⟨rfl, rfl, rfl⟩ := h
      simp only [Bool.or_eq_true, decide_eq_true_eq] at hquote
      obtain rfl | rfl := hquote <;> rfl
    case isFalse =>
      split at h
      · exact ih h
      · cases h

variable {z : List Char} (hz : AreBlank z)

include hz

/-- A quotation begins in front of blanks where it does without them. -/
theorem quotationStart?_append (kind : QuotationKind) (y : List Char) :
    quotationStart? kind (y ++ z) =
      (quotationStart? kind y).map fun (kind, quote, rest) => (kind, quote, rest ++ z) := by
  induction y generalizing kind with
  | nil =>
    cases z with
    | nil => rfl
    | cons c cs => exact quotationStart?_of_isBlank (hz c List.mem_cons_self) kind cs
  | cons c y ih =>
    simp only [List.cons_append, quotationStart?]
    split
    · rfl
    · cases kind.withLetter? c with
      | none => rfl
      | some kind => exact ih kind

omit hz in
/-- A character that no backslash takes along, and the closing quotes. -/
theorem quotationBody?_cons {quote c : Char} {triple : Bool} {cs : List Char}
    (hend : c = '\\' → cs = [] → False) (hescape : ∀ d ds, c = '\\' → cs = d :: ds → False)
    (z : List Char) :
    quotationBody? quote triple (c :: (cs ++ z)) =
      let keep := fun (found : Option (List Char × List Char)) =>
        found.map fun (body, rest) => (c :: body, rest)
      if c = quote then
        if !triple then some ([], cs ++ z)
        else match cs ++ z with
          | d :: e :: rest =>
            if d = quote && e = quote then some ([], rest)
            else keep (quotationBody? quote triple (d :: e :: rest))
          | short => keep (quotationBody? quote triple short)
      else if c = '\n' && !triple then none
      else keep (quotationBody? quote triple (cs ++ z)) := by
  have hc : c ≠ '\\' := by
    rintro rfl
    cases cs with
    | nil => exact hend rfl rfl
    | cons d ds => exact hescape d ds rfl rfl
  rw [quotationBody?.eq_def]
  split
  case h_1 heq => cases heq
  case h_2 heq => exact absurd (List.cons.inj heq).1 hc
  case h_3 heq => exact absurd (List.cons.inj heq).1 hc
  case h_4 heq =>
    obtain ⟨rfl, rfl⟩ := List.cons.inj heq
    rfl

omit hz in
/-- A quotation that ends does so whatever stands behind it. -/
theorem quotationBody?_append {quote : Char} {triple : Bool} {y body rest : List Char}
    (h : quotationBody? quote triple y = some (body, rest)) :
    quotationBody? quote triple (y ++ z) = some (body, rest ++ z) := by
  fun_induction quotationBody? quote triple y generalizing body rest with
  | case1 => cases h
  | case2 => cases h
  -- A character behind a backslash is part of the body, whatever it is.
  | case3 c cs ih =>
    obtain ⟨⟨body', rest'⟩, hfound, heq⟩ := Option.map_eq_some_iff.1 h
    obtain ⟨rfl, rfl⟩ := Prod.mk.inj heq
    simp only [List.cons_append, quotationBody?, ih hfound, Option.map_some]
  -- One quote ends a quotation that began with one.
  | case4 cs hsingle hend hescape =>
    obtain ⟨rfl, rfl⟩ := Prod.mk.inj (Option.some.inj h)
    rw [List.cons_append, quotationBody?_cons hend hescape]
    simp only [if_true, if_pos hsingle]
  -- Three quotes end one that began with three, and fewer are part of its body.
  | case5 htriple d e cs hclose hend hescape =>
    obtain ⟨rfl, rfl⟩ := Prod.mk.inj (Option.some.inj h)
    rw [List.cons_append, quotationBody?_cons hend hescape]
    simp only [if_true, if_neg htriple, List.cons_append, if_pos hclose]
  | case6 htriple d e cs hclose keep hend hescape =>
    rename_i ih
    obtain ⟨⟨body', rest'⟩, hfound, heq⟩ := Option.map_eq_some_iff.1 h
    obtain ⟨rfl, rfl⟩ := Prod.mk.inj heq
    have hnext := ih hfound
    rw [List.cons_append, quotationBody?_cons hend hescape]
    simp only [List.cons_append] at hnext
    simp only [if_true, if_neg htriple, List.cons_append, if_neg hclose, hnext, Option.map_some]
  | case7 htriple short hshort keep hend hescape =>
    -- No three quotes are left to end it.
    obtain ⟨⟨body', rest'⟩, hfound, -⟩ := Option.map_eq_some_iff.1 h
    rcases short with _ | ⟨c, _ | ⟨d, more⟩⟩
    · cases hfound
    · have hnone : quotationBody? quote true [c] = none := by
        rw [quotationBody?.eq_def]
        split
        case h_4 heq =>
          obtain ⟨rfl, rfl⟩ := List.cons.inj heq
          simp [quotationBody?]
        all_goals simp_all
      simp only [Bool.not_eq_true', Bool.not_eq_false] at htriple
      rw [htriple, hnone] at hfound
      cases hfound
    · exact (hshort c d more rfl).elim
  | case8 => cases h
  | case9 c cs hend hescape keep hquote hline =>
    rename_i ih
    obtain ⟨⟨body', rest'⟩, hfound, heq⟩ := Option.map_eq_some_iff.1 h
    obtain ⟨rfl, rfl⟩ := Prod.mk.inj heq
    rw [List.cons_append, quotationBody?_cons hend hescape]
    simp only [if_neg hquote, if_neg hline, ih hfound, Option.map_some]

omit hz in
/-- A quotation is what its body makes it. -/
theorem quotation?_eq (kind : QuotationKind) (quote : Char) (cs : List Char) :
    quotation? kind quote cs = closedQuotation? kind (enclosed? quote cs) := by
  rcases cs with _ | ⟨c, _ | ⟨d, rest⟩⟩ <;> rfl

/-- The body of a quotation in front of blanks is the one without them. -/
theorem enclosed?_append {quote : Char} (hquote : isBlank quote = false) {y body rest : List Char}
    (h : enclosed? quote y = some (body, rest)) :
    enclosed? quote (y ++ z) = some (body, rest ++ z) := by
  rcases y with _ | ⟨c, _ | ⟨d, behind⟩⟩
  · cases h
  · simp only [enclosed?] at h
    split at h
    case isTrue hc =>
      obtain ⟨rfl, rfl⟩ := Prod.mk.inj (Option.some.inj h)
      subst hc
      cases z with
      | nil => simp [enclosed?]
      | cons d ds =>
        have hd : d ≠ c := ne_of_isBlank (hz d List.mem_cons_self) hquote
        simp [enclosed?, hd]
    case isFalse => cases h
  · simp only [enclosed?, List.cons_append] at h ⊢
    split at h
    case isTrue hc =>
      rw [if_pos hc]
      split at h
      case isTrue hd =>
        rw [if_pos hd]
        exact quotationBody?_append h
      case isFalse hd =>
        obtain ⟨rfl, rfl⟩ := Prod.mk.inj (Option.some.inj h)
        rw [if_neg hd]
        rfl
    case isFalse hc =>
      rw [if_neg hc]
      exact quotationBody?_append h

/-- A quotation in front of blanks is the one without them. -/
theorem quotation?_append {kind : QuotationKind} {quote : Char} (hquote : isBlank quote = false)
    {y rest : List Char} {q : Quotation} (h : quotation? kind quote y = some (q, rest)) :
    quotation? kind quote (y ++ z) = some (q, rest ++ z) := by
  rw [quotation?_eq] at h ⊢
  cases hfound : enclosed? quote y with
  | none =>
    rw [hfound] at h
    cases h
  | some found =>
    rw [hfound] at h
    obtain ⟨q', hq, heq⟩ := Option.map_eq_some_iff.1 h
    obtain ⟨rfl, rfl⟩ := Prod.mk.inj heq
    rw [enclosed?_append hz hquote hfound]
    exact Option.map_eq_some_iff.2 ⟨q', hq, rfl⟩

omit hz in
/-- The symbol at the start is the first one in order that begins the characters. -/
theorem symbol?_eq (cs : List Char) :
    symbol? cs = (symbols.find? fun s => s.toList.isPrefixOf cs).map fun s =>
      (s, cs.drop s.toList.length) := by
  have hsymbol : symbol? cs =
      ((symbols.map fun s => (s.toList, s)).find? fun entry => entry.1.isPrefixOf cs).map
        fun entry => (entry.2, cs.drop entry.1.length) := rfl
  rw [hsymbol, List.find?_map, Option.map_map]
  rfl

/-- The symbol in front of blanks is the one without them. -/
theorem symbol?_append (y : List Char) :
    symbol? (y ++ z) = (symbol? y).map fun (s, rest) => (s, rest ++ z) := by
  have hfind : (symbols.find? fun s => s.toList.isPrefixOf (y ++ z)) =
      symbols.find? fun s => s.toList.isPrefixOf y := by
    rw [← List.head?_filter, ← List.head?_filter]
    refine congrArg List.head? (List.filter_congr fun s hs => ?_)
    exact isPrefixOf_append hz (symbols_not_isBlank s hs) y
  rw [symbol?_eq, symbol?_eq, hfind, Option.map_map]
  cases hfound : symbols.find? fun s => s.toList.isPrefixOf y with
  | none => rfl
  | some s =>
    have hprefix := List.find?_some (p := fun s : String => s.toList.isPrefixOf y) hfound
    have hlength := (List.isPrefixOf_iff_prefix.1 hprefix).length_le
    simp only [Option.map_some, Function.comp_apply, List.drop_append_of_le_length hlength]

end Word

section Line

/-- What stands between words on a line. -/
def isLayout (c : Char) : Bool :=
  c = ' ' || c = '\t' || c = '\x0c'

/-- What a line begins with. -/
theorem beginLine?_cons (column : Nat) (indented comment : Bool) (c : Char) (cs : List Char) :
    beginLine? column indented comment (c :: cs) =
      if c = '\n' then beginLine? 0 false false cs
      else if comment then beginLine? column indented true cs
      else if c = ' ' then beginLine? (column + 1) indented false cs
      else if c = '\t' then beginLine? ((column / 8 + 1) * 8) indented false cs
      else if c = '\x0c' then beginLine? 0 indented false cs
      else if c = '#' then beginLine? column indented true cs
      else if c = '\\' then
        match cs with
        | '\n' :: d :: rest => beginLine? column (indented || column != 0) false (d :: rest)
        | _ => none
      else if column = 0 && !indented then some (c :: cs)
      else none :=
  beginLine?.eq_def column indented comment (c :: cs)

/-- Behind a backslash a line begins where its continuation does. -/
theorem beginLine?_join (column : Nat) (indented : Bool) (cs : List Char) :
    beginLine? column indented false ('\\' :: cs) =
      match cs with
      | '\n' :: d :: rest => beginLine? column (indented || column != 0) false (d :: rest)
      | _ => none := by
  rw [beginLine?_cons]
  rfl

/-- A character in front of a line is passed over, whatever the line is indented by, joins two lines,
or begins the line. -/
theorem beginLine?_cases (comment : Bool) (c : Char) :
    (∃ comment', ∀ column indented, ∃ column' indented', ∀ cs,
      beginLine? column indented comment (c :: cs) = beginLine? column' indented' comment' cs) ∨
    (comment = false ∧ c = '\\') ∨
    ∀ column indented cs, beginLine? column indented comment (c :: cs) =
      if column = 0 && !indented then some (c :: cs) else none := by
  by_cases hline : c = '\n'
  · refine .inl ⟨false, fun column indented => ⟨0, false, fun cs => ?_⟩⟩
    rw [beginLine?_cons, if_pos hline]
  by_cases hcomment : comment = true
  · refine .inl ⟨true, fun column indented => ⟨column, indented, fun cs => ?_⟩⟩
    rw [beginLine?_cons, if_neg hline, if_pos hcomment]
  by_cases hspace : c = ' '
  · refine .inl ⟨false, fun column indented => ⟨column + 1, indented, fun cs => ?_⟩⟩
    rw [beginLine?_cons, if_neg hline, if_neg hcomment, if_pos hspace]
  by_cases htab : c = '\t'
  · refine .inl ⟨false, fun column indented => ⟨(column / 8 + 1) * 8, indented, fun cs => ?_⟩⟩
    rw [beginLine?_cons, if_neg hline, if_neg hcomment, if_neg hspace, if_pos htab]
  by_cases hfeed : c = '\x0c'
  · refine .inl ⟨false, fun column indented => ⟨0, indented, fun cs => ?_⟩⟩
    rw [beginLine?_cons, if_neg hline, if_neg hcomment, if_neg hspace, if_neg htab, if_pos hfeed]
  by_cases hmark : c = '#'
  · refine .inl ⟨true, fun column indented => ⟨column, indented, fun cs => ?_⟩⟩
    rw [beginLine?_cons, if_neg hline, if_neg hcomment, if_neg hspace, if_neg htab, if_neg hfeed,
      if_pos hmark]
  by_cases hjoin : c = '\\'
  · exact .inr (.inl ⟨Bool.eq_false_iff.2 hcomment, hjoin⟩)
  · refine .inr (.inr fun column indented cs => ?_)
    rw [beginLine?_cons, if_neg hline, if_neg hcomment, if_neg hspace, if_neg htab, if_neg hfeed,
      if_neg hmark, if_neg hjoin]

/-- A line begins somewhere in its text. -/
theorem beginLine?_suffix {column : Nat} {indented comment : Bool} {cs rest : List Char}
    (h : beginLine? column indented comment cs = some rest) : rest <:+ cs := by
  induction hsize : cs.length using Nat.strongRecOn
    generalizing cs column indented comment with
  | ind size ih =>
    subst hsize
    cases cs with
    | nil =>
      rw [beginLine?] at h
      split at h
      · obtain rfl := Option.some.inj h
        exact List.suffix_rfl
      · cases h
    | cons c cs =>
      obtain ⟨comment', hpassed⟩ | ⟨rfl, rfl⟩ | hbegins := beginLine?_cases comment c
      · obtain ⟨column', indented', hnext⟩ := hpassed column indented
        rw [hnext] at h
        exact (ih _ (Nat.lt_succ_self _) h rfl).trans (List.suffix_cons c cs)
      · rw [beginLine?_join] at h
        split at h
        case h_1 d more =>
          have hless : (d :: more).length < ('\\' :: '\n' :: d :: more).length := by
            simp only [List.length_cons]
            omega
          exact (ih _ hless h rfl).trans ⟨['\\', '\n'], rfl⟩
        case h_2 => cases h
      · rw [hbegins] at h
        split at h
        · obtain rfl := Option.some.inj h
          exact List.suffix_rfl
        · cases h

/-- Blanks at the end of a text. -/
theorem AreBlank.of_suffix {y z : List Char} (hz : AreBlank z) (h : y <:+ z) : AreBlank y :=
  fun c hc => hz c (h.subset hc)

/-- A line begins in front of blanks where it does without them, wherever its first character
stands. -/
theorem beginLine?_blanks {column column' : Nat} {indented indented' comment : Bool}
    {y z r r' : List Char} (hz : AreBlank z)
    (h : beginLine? column indented comment (y ++ z) = some r)
    (h' : beginLine? column' indented' comment y = some r') :
    ∃ more, AreBlank more ∧ r = r' ++ more := by
  induction hsize : y.length using Nat.strongRecOn
    generalizing y column column' indented indented' comment with
  | ind size ih =>
    subst hsize
    cases y with
    | nil =>
      obtain rfl := List.suffix_nil.1 (beginLine?_suffix h')
      exact ⟨r, hz.of_suffix (beginLine?_suffix h), rfl⟩
    | cons c cs =>
      rw [List.cons_append] at h
      -- The character is passed over, joins the line to the next one, or begins the line.
      obtain ⟨comment', hpassed⟩ | ⟨rfl, rfl⟩ | hbegins := beginLine?_cases comment c
      · obtain ⟨_, _, hnext⟩ := hpassed column indented
        obtain ⟨_, _, hnext'⟩ := hpassed column' indented'
        rw [hnext] at h
        rw [hnext'] at h'
        exact ih _ (Nat.lt_succ_self _) h h' rfl
      · rw [beginLine?_join] at h h'
        split at h'
        case h_1 d more =>
          have hless : (d :: more).length < ('\\' :: '\n' :: d :: more).length := by
            simp only [List.length_cons]
            omega
          have hnext : beginLine? column (indented || column != 0) false (d :: more ++ z) =
              some r := h
          exact ih _ hless hnext h' rfl
        case h_2 => cases h'
      · rw [hbegins] at h h'
        split at h'
        · obtain rfl := Option.some.inj h'
          split at h
          · obtain rfl := Option.some.inj h
            exact ⟨z, hz, rfl⟩
          · cases h
        · cases h'

/-- Behind blanks a line begins at the first of them that is no layout, or else where it does without
them. -/
theorem beginLine?_lead {column : Nat} {indented : Bool} {lead s r : List Char}
    (hlead : AreBlank lead) (h : beginLine? column indented false (lead ++ s) = some r) :
    (∃ c rest, r = c :: rest ∧ isBlank c = true ∧ isLayout c = false ∧ c ≠ '\n') ∨
      (∀ c ∈ lead, c ≠ '\n' → isLayout c = true) ∧
        ∃ column' indented', beginLine? column' indented' false s = some r := by
  induction lead generalizing column indented with
  | nil => exact .inr ⟨nofun, column, indented, h⟩
  | cons c lead ih =>
    have hc := hlead c List.mem_cons_self
    have hrest : AreBlank lead := fun d hd => hlead d (.tail _ hd)
    rw [List.cons_append, beginLine?_cons] at h
    -- A line end, a space, a tab and a form feed are passed over.
    have hpassed : ∀ {column : Nat} {indented : Bool}, (c ≠ '\n' → isLayout c = true) →
        beginLine? column indented false (lead ++ s) = some r → _ := fun hc h =>
      (ih hrest h).imp_right (And.imp_left fun hlead => List.forall_mem_cons.2 ⟨hc, hlead⟩)
    by_cases hline : c = '\n'
    · rw [if_pos hline] at h
      exact hpassed (absurd hline) h
    rw [if_neg hline, if_neg Bool.false_ne_true] at h
    by_cases hlayout : isLayout c = true
    · have hc := hlayout
      simp only [isLayout, Bool.or_eq_true, decide_eq_true_eq] at hlayout
      obtain (rfl | rfl) | rfl := hlayout
      all_goals exact hpassed (fun _ => hc) h
    · have hnone := Bool.eq_false_iff.2 hlayout
      simp only [isLayout, Bool.or_eq_false_iff, decide_eq_false_iff_not] at hnone
      rw [if_neg hnone.1.1, if_neg hnone.1.2, if_neg hnone.2, if_neg (ne_of_isBlank hc rfl),
        if_neg (ne_of_isBlank hc rfl)] at h
      split at h
      · obtain rfl := Option.some.inj h
        exact .inl ⟨c, _, rfl, hc, Bool.eq_false_iff.2 hlayout, hline⟩
      · cases h

end Line

section Words

/-- The first word of a text that begins with no layout, if it is one, the brackets that have to be
closed behind it, and the rest. -/
def nextWord? (brackets : List Char) (c : Char) (cs : List Char) :
    Option (Option Token × List Char × List Char) :=
  if c = '#' then some (none, brackets, cs.dropWhile (· != '\n'))
  else if c = '\n' then
    if !brackets.isEmpty then some (none, brackets, cs)
    else (beginLine? 0 false false cs).map fun rest => (some .newline, brackets, rest)
  else if c = '\\' then
    match cs with
    | '\n' :: d :: rest => some (none, brackets, d :: rest)
    | _ => none
  else if let some (kind, quote, rest) :=
      quotationStart? ⟨false, false, false, false⟩ (c :: cs) then
    (quotation? kind quote rest).map fun (q, rest) => (some (.quotation q), brackets, rest)
  else if isDigit c then
    (number? (c :: cs)).map fun (n, rest) => (some (.number n), brackets, rest)
  else if isNamePart c then
    (wordToken? ((c :: cs).takeWhile isNamePart)).map fun token =>
      (some token, brackets, (c :: cs).dropWhile isNamePart)
  else if c = '.' && (cs.head?.map isDigit).getD false then
    (fractionEnd [] cs).map fun (n, rest) => (some (.number n), brackets, rest)
  else (symbol? (c :: cs)).bind fun (s, rest) =>
    (bracketsAfter? brackets s).map fun brackets => (some (.symbol s), brackets, rest)

/-- The words of a text that begins with no layout are the first one and those behind it. -/
theorem wordsFrom?_cons {c : Char} (h : isLayout c = false) (n : Nat) (brackets cs : List Char) :
    wordsFrom? (n + 1) brackets (c :: cs) =
      (nextWord? brackets c cs).bind fun (token, brackets, rest) =>
        (wordsFrom? n brackets rest).map (token.toList ++ ·) := by
  have hdrop : ((c :: cs).dropWhile fun c => c = ' ' || c = '\t' || c = '\x0c') = c :: cs :=
    List.dropWhile_cons_of_neg (by simpa [isLayout] using h)
  have hword : (c :: cs).drop ((c :: cs).takeWhile isNamePart).length =
      (c :: cs).dropWhile isNamePart := by
    have hsplit := List.takeWhile_append_dropWhile (p := isNamePart) (l := c :: cs)
    exact (congrArg (List.drop _) hsplit.symm).trans List.drop_left
  rw [wordsFrom?, hdrop]
  simp only [nextWord?, hword]
  -- Each kind of word is cut off in the same way on both sides.
  by_cases hmark : c = '#'
  · simp [hmark]
  rw [if_neg hmark, if_neg hmark]
  by_cases hline : c = '\n'
  · rw [if_pos hline, if_pos hline]
    split
    · simp
    · cases beginLine? 0 false false cs <;> rfl
  rw [if_neg hline, if_neg hline]
  by_cases hjoin : c = '\\'
  · rw [if_pos hjoin, if_pos hjoin]
    cases cs with
    | nil => rfl
    | cons d rest =>
      by_cases hfeed : d = '\n'
      · subst hfeed
        cases rest <;> simp
      · simp [hfeed]
  rw [if_neg hjoin, if_neg hjoin]
  cases quotationStart? ⟨false, false, false, false⟩ (c :: cs) with
  | some started =>
    obtain ⟨kind, quote, rest⟩ := started
    simp only
    cases quotation? kind quote rest <;> rfl
  | none =>
    simp only
    split
    · cases number? (c :: cs) <;> rfl
    · split
      · cases wordToken? ((c :: cs).takeWhile isNamePart) <;> rfl
      · split
        · cases fractionEnd [] cs <;> rfl
        · cases symbol? (c :: cs) with
          | none => rfl
          | some found => cases hbrackets : bracketsAfter? brackets found.1 <;> simp [hbrackets]

/-- A word without blanks ends before blanks. -/
theorem takeWhile_blanks {p : Char → Bool} {y z : List Char} (hz : AreBlank z)
    (h : ∀ c ∈ (y ++ z).takeWhile p, isBlank c = false) :
    (y ++ z).takeWhile p = y.takeWhile p ∧ (y ++ z).dropWhile p = y.dropWhile p ++ z := by
  induction y with
  | nil =>
    cases z with
    | nil => exact ⟨rfl, rfl⟩
    | cons c z =>
      have hc : p c = false := by
        refine Bool.eq_false_iff.2 fun hpart => ?_
        have hfirst := h c (by simp [hpart])
        rw [hz c List.mem_cons_self] at hfirst
        cases hfirst
      simp [hc]
  | cons c y ih =>
    rw [List.cons_append] at h ⊢
    by_cases hc : p c = true
    · rw [List.takeWhile_cons_of_pos hc] at h
      obtain ⟨htake, hdrop⟩ := ih fun d hd => h d (.tail _ hd)
      simp [hc, htake, hdrop]
    · simp [hc]

/-- What is read with blanks behind a text and what is read without them, if both can be read, is the
same word, with the same brackets open behind it, and leaves blanks in addition. -/
def WordsAlike (one other : Option (Option Token × List Char × List Char)) : Prop :=
  ∀ token outer rest token' outer' rest', one = some (token, outer, rest) →
    other = some (token', outer', rest') →
      token = token' ∧ outer = outer' ∧ ∃ more, AreBlank more ∧ rest = rest' ++ more

section Alike

variable {z : List Char} (hz : AreBlank z) {brackets : List Char}

include hz

/-- A word in front of blanks is the one without them. -/
theorem wordsAlike_some (token : Option Token) (outer rest : List Char) :
    WordsAlike (some (token, outer, rest ++ z)) (some (token, outer, rest)) := by
  intro _ _ _ _ _ _ h h'
  cases h
  cases h'
  exact ⟨rfl, rfl, z, hz, rfl⟩

/-- A word that is told by a part that agrees. -/
theorem WordsAlike.map {α : Type} {one other : Option (α × List Char)} (f : α → Token)
    (h : Agrees z one other) :
    WordsAlike (other.map fun (a, rest) => (some (f a), brackets, rest))
      (one.map fun (a, rest) => (some (f a), brackets, rest)) := by
  intro token outer rest token' outer' rest' hone hother
  obtain ⟨⟨a, behind⟩, ha, heq⟩ := Option.map_eq_some_iff.1 hone
  obtain ⟨⟨a', behind'⟩, ha', heq'⟩ := Option.map_eq_some_iff.1 hother
  obtain ⟨rfl, rfl⟩ := h _ _ _ _ ha' ha
  cases heq
  cases heq'
  exact ⟨rfl, rfl, z, hz, rfl⟩

/-- A comment takes the blanks up to the line end along. -/
theorem comment_alike (cs : List Char) :
    WordsAlike (some (none, brackets, (cs ++ z).dropWhile (· != '\n')))
      (some (none, brackets, cs.dropWhile (· != '\n'))) := by
  intro _ _ _ _ _ _ h h'
  cases h
  cases h'
  refine ⟨rfl, rfl, ?_⟩
  rw [List.dropWhile_append]
  split
  case isTrue hempty =>
    rw [List.isEmpty_iff] at hempty
    exact ⟨_, hz.of_suffix (List.dropWhile_suffix _), by rw [hempty, List.nil_append]⟩
  case isFalse => exact ⟨z, hz, rfl⟩

/-- A line begins behind a line end, with blanks at its end or without them. -/
theorem newline_alike (cs : List Char) :
    WordsAlike ((beginLine? 0 false false (cs ++ z)).map fun rest => (some .newline, brackets, rest))
      ((beginLine? 0 false false cs).map fun rest => (some .newline, brackets, rest)) := by
  intro _ _ _ _ _ _ h h'
  obtain ⟨begun, hbegun, heq⟩ := Option.map_eq_some_iff.1 h
  obtain ⟨begun', hbegun', heq'⟩ := Option.map_eq_some_iff.1 h'
  cases heq
  cases heq'
  exact ⟨rfl, rfl, beginLine?_blanks hz hbegun hbegun'⟩

/-- A line is joined to one that has something on it. -/
theorem join_alike (cs : List Char) :
    WordsAlike
      (match cs ++ z with
        | '\n' :: d :: rest => some (none, brackets, d :: rest)
        | _ => none)
      (match cs with
        | '\n' :: d :: rest => some (none, brackets, d :: rest)
        | _ => none) := by
  intro _ _ _ _ _ _ h h'
  split at h'
  · cases h
    cases h'
    exact ⟨rfl, rfl, z, hz, rfl⟩
  · cases h'

/-- A quotation agrees with the one in front of blanks. -/
theorem quotation?_agrees {kind : QuotationKind} {quote : Char} (hquote : isBlank quote = false)
    (cs : List Char) : Agrees z (quotation? kind quote cs) (quotation? kind quote (cs ++ z)) := by
  intro q rest q' rest' hq hq'
  rw [quotation?_append hz hquote hq] at hq'
  cases hq'
  exact ⟨rfl, rfl⟩

/-- A name or a reserved word ends in front of blanks. -/
theorem name_alike (cs : List Char) :
    WordsAlike
      ((wordToken? ((cs ++ z).takeWhile isNamePart)).map fun token =>
        (some token, brackets, (cs ++ z).dropWhile isNamePart))
      ((wordToken? (cs.takeWhile isNamePart)).map fun token =>
        (some token, brackets, cs.dropWhile isNamePart)) := by
  intro _ _ _ _ _ _ h h'
  obtain ⟨word, hword, heq⟩ := Option.map_eq_some_iff.1 h
  obtain ⟨word', hword', heq'⟩ := Option.map_eq_some_iff.1 h'
  obtain ⟨htake, hdrop⟩ := takeWhile_blanks hz (not_isBlank_of_wordToken? hword)
  rw [htake, hword'] at hword
  rw [hdrop] at heq
  cases hword
  cases heq
  cases heq'
  exact ⟨rfl, rfl, z, hz, rfl⟩

/-- A symbol ends in front of blanks. -/
theorem symbol_alike (cs : List Char) :
    WordsAlike
      ((symbol? (cs ++ z)).bind fun (s, rest) =>
        (bracketsAfter? brackets s).map fun brackets => (some (.symbol s), brackets, rest))
      ((symbol? cs).bind fun (s, rest) =>
        (bracketsAfter? brackets s).map fun brackets => (some (.symbol s), brackets, rest)) := by
  intro _ _ _ _ _ _ h h'
  rw [symbol?_append hz, Option.bind_map] at h
  obtain ⟨⟨s, behind⟩, hs, hbrackets⟩ := Option.bind_eq_some_iff.1 h
  obtain ⟨⟨s', behind'⟩, hs', hbrackets'⟩ := Option.bind_eq_some_iff.1 h'
  cases hs.symm.trans hs'
  obtain ⟨outer, houter, heq⟩ := Option.map_eq_some_iff.1 hbrackets
  obtain ⟨outer', houter', heq'⟩ := Option.map_eq_some_iff.1 hbrackets'
  cases houter.symm.trans houter'
  cases heq
  cases heq'
  exact ⟨rfl, rfl, z, hz, rfl⟩

/-- The first word of a text with blanks behind it is the one without them. -/
theorem nextWord?_blanks (brackets : List Char) (c : Char) (cs : List Char) :
    WordsAlike (nextWord? brackets c (cs ++ z)) (nextWord? brackets c cs) := by
  have hstart := quotationStart?_append hz ⟨false, false, false, false⟩ (c :: cs)
  rw [List.cons_append] at hstart
  unfold nextWord?
  rw [hstart, head?_isDigit_append hz]
  -- The kinds of words are told apart by characters in front of the blanks, one kind after another.
  by_cases hmark : c = '#'
  · rw [if_pos hmark, if_pos hmark]
    exact comment_alike hz cs
  rw [if_neg hmark, if_neg hmark]
  by_cases hline : c = '\n'
  · rw [if_pos hline, if_pos hline]
    by_cases hopen : (!brackets.isEmpty) = true
    · rw [if_pos hopen, if_pos hopen]
      exact wordsAlike_some hz _ _ _
    · rw [if_neg hopen, if_neg hopen]
      exact newline_alike hz cs
  rw [if_neg hline, if_neg hline]
  by_cases hjoin : c = '\\'
  · rw [if_pos hjoin, if_pos hjoin]
    exact join_alike hz cs
  rw [if_neg hjoin, if_neg hjoin]
  cases hquotation : quotationStart? ⟨false, false, false, false⟩ (c :: cs) with
  | some started =>
    obtain ⟨kind, quote, behind⟩ := started
    exact .map hz _ (quotation?_agrees hz (isBlank_of_quotationStart? hquotation) behind)
  | none =>
    simp only [Option.map_none]
    by_cases hdigit : isDigit c = true
    · rw [if_pos hdigit, if_pos hdigit]
      exact .map hz _ (number?_agrees hz c cs)
    rw [if_neg hdigit, if_neg hdigit]
    by_cases hpart : isNamePart c = true
    · rw [if_pos hpart, if_pos hpart]
      exact name_alike hz (c :: cs)
    rw [if_neg hpart, if_neg hpart]
    by_cases hpoint : (c = '.' && (cs.head?.map isDigit).getD false) = true
    · rw [if_pos hpoint, if_pos hpoint]
      exact .map hz _ (fractionEnd_agrees hz [] cs)
    rw [if_neg hpoint, if_neg hpoint]
    exact symbol_alike hz (c :: cs)

end Alike

/-- Layout in front of words is passed over. -/
theorem wordsFrom?_layout {lead : List Char} (hlead : ∀ c ∈ lead, isLayout c = true)
    (n : Nat) (brackets cs : List Char) :
    wordsFrom? n brackets (lead ++ cs) = wordsFrom? n brackets cs := by
  cases n with
  | zero => rfl
  | succ n =>
    have hdrop : (lead ++ cs).dropWhile (fun c => c = ' ' || c = '\t' || c = '\x0c') =
        cs.dropWhile fun c => c = ' ' || c = '\t' || c = '\x0c' :=
      List.dropWhile_append_of_pos hlead
    rw [wordsFrom?, wordsFrom?, hdrop]

/-- A text is layout and what begins with none. -/
theorem exists_layout (y : List Char) :
    ∃ lead rest, y = lead ++ rest ∧ (∀ c ∈ lead, isLayout c = true) ∧
      ∀ c ∈ rest.head?, isLayout c = false := by
  refine ⟨y.takeWhile isLayout, y.dropWhile isLayout, List.takeWhile_append_dropWhile.symm,
    List.all_eq_true.1 List.all_takeWhile, fun c hc => ?_⟩
  have hfirst := List.head?_dropWhile_not isLayout y
  rw [Option.mem_def.1 hc] at hfirst
  exact hfirst

/-- No symbol begins with a blank. -/
theorem symbol?_of_isBlank {c : Char} (h : isBlank c = true) (cs : List Char) :
    symbol? (c :: cs) = none := by
  have hnonempty : ∀ s ∈ symbols, s.toList ≠ [] := by decide
  rw [symbol?_eq, List.find?_eq_none.2, Option.map_none]
  intro s hs
  cases hchars : s.toList with
  | nil => exact absurd hchars (hnonempty s hs)
  | cons d ds =>
    have hd : isBlank d = false :=
      symbols_not_isBlank s hs d (by rw [hchars]; exact List.mem_cons_self)
    simp [List.isPrefixOf, Ne.symm (ne_of_isBlank h hd)]

/-- A blank that ends no line is the beginning of no word. -/
theorem nextWord?_of_isBlank {c : Char} (h : isBlank c = true) (hline : c ≠ '\n')
    (brackets cs : List Char) : nextWord? brackets c cs = none := by
  have hne : ∀ d, isBlank d = false → c ≠ d := fun d hd => ne_of_isBlank h hd
  have hword : isNamePart c = true → wordToken? ((c :: cs).takeWhile isNamePart) = none := by
    intro hpart
    refine Option.eq_none_iff_forall_ne_some.2 fun token htoken => ?_
    have hfirst := not_isBlank_of_wordToken? htoken c (by simp [hpart])
    rw [h] at hfirst
    cases hfirst
  simp only [nextWord?, hne '#' rfl, hline, hne '\\' rfl, hne '.' rfl,
    quotationStart?_of_isBlank h, not_isDigit_of_isBlank h, symbol?_of_isBlank h, reduceIte,
    Bool.false_eq_true, decide_false, Bool.false_and, Option.bind_none]
  split
  case isTrue hpart => rw [hword hpart, Option.map_none]
  case isFalse => rfl

/-- No text has no words. -/
theorem eq_nil_of_wordsFrom?_nil {n : Nat} {brackets : List Char} {ts : List Token}
    (h : wordsFrom? n brackets [] = some ts) : ts = [] := by
  cases n with
  | zero => cases h
  | succ n =>
    simp only [wordsFrom?, List.dropWhile_nil] at h
    split at h
    · exact (Option.some.inj h).symm
    · cases h

/-- Blanks write no words but line ends. -/
theorem wordsFrom?_of_areBlank {n : Nat} {brackets z : List Char} {ts : List Token}
    (hz : AreBlank z) (h : wordsFrom? n brackets z = some ts) :
    ∃ k, ts = List.replicate k .newline := by
  induction n generalizing brackets z ts with
  | zero => cases h
  | succ n ih =>
    obtain ⟨lead, rest, rfl, hlead, hrest⟩ := exists_layout z
    have hblank : AreBlank rest := hz.of_suffix (List.suffix_append _ _)
    rw [wordsFrom?_layout hlead] at h
    cases rest with
    | nil =>
      exact ⟨0, eq_nil_of_wordsFrom?_nil h⟩
    | cons c cs =>
      rw [wordsFrom?_cons (hrest c rfl)] at h
      obtain ⟨⟨token, outer, behind⟩, hnext, hwords⟩ := Option.bind_eq_some_iff.1 h
      obtain ⟨us, hus, rfl⟩ := Option.map_eq_some_iff.1 hwords
      by_cases hline : c = '\n'
      · subst hline
        have hcs : AreBlank cs := hblank.of_suffix (List.suffix_cons _ _)
        simp only [nextWord?, Char.reduceEq, reduceIte] at hnext
        split at hnext
        · obtain ⟨rfl, rfl, rfl⟩ := hnext
          exact ih hcs hus
        · obtain ⟨begun, hbegun, heq⟩ := Option.map_eq_some_iff.1 hnext
          obtain ⟨rfl, rfl, rfl⟩ := heq
          obtain ⟨k, rfl⟩ := ih (hcs.of_suffix (beginLine?_suffix hbegun)) hus
          exact ⟨k + 1, rfl⟩
      · rw [nextWord?_of_isBlank (hblank c List.mem_cons_self) hline] at hnext
        cases hnext

/-- The words of a text with blanks behind it are those without them, and line ends. -/
theorem wordsFrom?_blanks {n m : Nat} {brackets y z : List Char} {ts ts' : List Token}
    (hz : AreBlank z) (h : wordsFrom? n brackets (y ++ z) = some ts)
    (h' : wordsFrom? m brackets y = some ts') :
    ∃ k, ts = ts' ++ List.replicate k .newline := by
  induction n generalizing m brackets y z ts ts' with
  | zero => cases h
  | succ n ih =>
    cases m with
    | zero => cases h'
    | succ m =>
      obtain ⟨lead, rest, rfl, hlead, hrest⟩ := exists_layout y
      rw [List.append_assoc, wordsFrom?_layout hlead] at h
      rw [wordsFrom?_layout hlead] at h'
      cases rest with
      | nil =>
        obtain rfl := eq_nil_of_wordsFrom?_nil h'
        exact wordsFrom?_of_areBlank hz h
      | cons c cs =>
        rw [List.cons_append, wordsFrom?_cons (hrest c rfl)] at h
        rw [wordsFrom?_cons (hrest c rfl)] at h'
        obtain ⟨⟨token, outer, behind⟩, hnext, hwords⟩ := Option.bind_eq_some_iff.1 h
        obtain ⟨⟨token', outer', behind'⟩, hnext', hwords'⟩ := Option.bind_eq_some_iff.1 h'
        obtain ⟨rfl, rfl, more, hmore, rfl⟩ :=
          nextWord?_blanks hz brackets c cs _ _ _ _ _ _ hnext hnext'
        obtain ⟨us, hus, rfl⟩ := Option.map_eq_some_iff.1 hwords
        obtain ⟨us', hus', rfl⟩ := Option.map_eq_some_iff.1 hwords'
        obtain ⟨k, rfl⟩ := ih hmore hus hus'
        exact ⟨k, (List.append_assoc ..).symm⟩

/-- The line ends of a text are those of its parts, unless the parts divide one. -/
theorem unifyLineEnds_append {y z : List Char} (h : '\r' ∈ y.getLast? → '\n' ∉ z.head?) :
    unifyLineEnds (y ++ z) = unifyLineEnds y ++ unifyLineEnds z := by
  fun_induction unifyLineEnds y with
  | case1 => rfl
  | case2 cs ih =>
    have hcs : '\r' ∈ cs.getLast? → '\n' ∉ z.head? := by
      intro hlast
      cases cs with
      | nil => cases hlast
      | cons c cs => exact h (by simpa using hlast)
    rw [List.cons_append, List.cons_append, unifyLineEnds, ih hcs, List.cons_append]
  | case3 c cs hpair ih =>
    have hpair' : ∀ rest, c = '\r' → cs ++ z = '\n' :: rest → False := by
      intro rest hc hrest
      cases cs with
      | nil => exact h (by simp [hc]) (by rw [show z = '\n' :: rest from hrest]; rfl)
      | cons d ds => exact hpair ds hc (by rw [(List.cons.inj hrest).1])
    have hcs : '\r' ∈ cs.getLast? → '\n' ∉ z.head? := by
      intro hlast
      cases cs with
      | nil => cases hlast
      | cons d ds => exact h (by simpa using hlast)
    rw [List.cons_append, unifyLineEnds.eq_3 _ _ hpair', ih hcs, List.cons_append]

/-- Line ends of blanks are blanks. -/
theorem AreBlank.unifyLineEnds {z : List Char} (hz : AreBlank z) :
    AreBlank (unifyLineEnds z) := by
  fun_induction Condition.unifyLineEnds z with
  | case1 => exact hz
  | case2 cs ih =>
    intro d hd
    obtain rfl | hd := List.mem_cons.1 hd
    · rfl
    · exact ih (hz.of_suffix ⟨['\r', '\n'], rfl⟩) d hd
  | case3 c cs _ ih =>
    intro d hd
    obtain rfl | hd := List.mem_cons.1 hd
    · split
      · rfl
      · exact hz c List.mem_cons_self
    · exact ih (hz.of_suffix (List.suffix_cons _ _)) d hd

/-- Blanks in front of a text with words are layout, if they end no line, and the words are those of
the text from where a line begins. -/
theorem words?_lead {lead text : List Char} {ts : List Token} (hlead : AreBlank lead)
    (hfirst : ∀ c ∈ text.head?, isBlank c = false) (h : words? (lead ++ text) = some ts) :
    (∀ c ∈ unifyLineEnds lead, c ≠ '\n' → isLayout c = true) ∧
      ∃ column indented begun,
        beginLine? column indented false (unifyLineEnds text) = some begun ∧
          wordsFrom? (begun.length + 1) [] begun = some ts := by
  have hunify : unifyLineEnds (lead ++ text) = unifyLineEnds lead ++ unifyLineEnds text := by
    refine unifyLineEnds_append fun _ hline => ?_
    have hblank := hfirst _ hline
    cases hblank
  unfold words? at h
  split at h
  · cases h
  · split at h
    · cases h
    case h_2 begun hbegun =>
      rw [hunify] at hbegun
      obtain ⟨c, rest, rfl, hc, hlayout, hline⟩ | ⟨hlayout, column, indented, hbegun⟩ :=
        beginLine?_lead hlead.unifyLineEnds hbegun
      · rw [List.length_cons, wordsFrom?_cons hlayout, nextWord?_of_isBlank hc hline] at h
        cases h
      · exact ⟨hlayout, column, indented, begun, hbegun, h⟩

/-- Blanks around a text add no words to it but line ends behind it. -/
theorem words?_blanks {lead text trail : List Char} {ts ts' : List Token}
    (hlead : AreBlank lead) (htrail : AreBlank trail)
    (hfirst : ∀ c ∈ text.head?, isBlank c = false) (hlast : ∀ c ∈ text.getLast?, isBlank c = false)
    (h : words? (lead ++ (text ++ trail)) = some ts) (h' : words? text = some ts')
    (hne : text ≠ []) :
    ∃ k, ts = ts' ++ List.replicate k .newline := by
  have hfirst' : ∀ c ∈ (text ++ trail).head?, isBlank c = false := by
    obtain ⟨c, cs, rfl⟩ := List.exists_cons_of_ne_nil hne
    exact hfirst
  have hunify : unifyLineEnds (text ++ trail) = unifyLineEnds text ++ unifyLineEnds trail := by
    refine unifyLineEnds_append fun hreturn => ?_
    have hblank := hlast _ hreturn
    cases hblank
  obtain ⟨-, column, indented, begun, hbegun, hwords⟩ := words?_lead hlead hfirst' h
  obtain ⟨-, column', indented', begun', hbegun', hwords'⟩ :=
    words?_lead (show AreBlank [] from nofun) hfirst h'
  rw [hunify] at hbegun
  obtain ⟨more, hmore, rfl⟩ := beginLine?_blanks htrail.unifyLineEnds hbegun hbegun'
  exact wordsFrom?_blanks hmore hwords hwords'

/-- A text is what stripping leaves of it and blanks around that. -/
theorem exists_strip (text : String) :
    ∃ lead trail, AreBlank lead ∧ AreBlank trail ∧
      text.toList = lead ++ ((Text.strip text).toList ++ trail) ∧
      (∀ c ∈ (Text.strip text).toList.head?, isBlank c = false) ∧
      ∀ c ∈ (Text.strip text).toList.getLast?, isBlank c = false := by
  obtain ⟨trail, htrail, hblank⟩ := Text.dropTrailing_append isBlank (text.toList.dropWhile isBlank)
  have hstrip : (Text.strip text).toList =
      Text.dropTrailing isBlank (text.toList.dropWhile isBlank) := String.toList_ofList
  rw [← hstrip] at htrail
  refine ⟨text.toList.takeWhile isBlank, trail, List.all_eq_true.1 List.all_takeWhile, hblank, ?_,
    fun c hc => ?_, ?_⟩
  · rw [← htrail, List.takeWhile_append_dropWhile]
  · have hhead := List.head?_dropWhile_not isBlank text.toList
    rw [htrail, List.head?_append, Option.mem_def.1 hc] at hhead
    exact hhead
  · rw [hstrip]
    exact Text.getLast?_dropTrailing _ _

/-- Stripping leaves nothing to strip. -/
theorem strip_strip (text : String) : Text.strip (Text.strip text) = Text.strip text := by
  obtain ⟨-, -, -, -, -, hfirst, hlast⟩ := exists_strip text
  exact Text.strip_eq_self (fun c hc => hfirst c hc) fun c hc => hlast c hc

/-- No text writes no expression. -/
theorem strip_ne_nil {text : String} {e : Expr} (h : parse? (Text.strip text).toList = some e) :
    (Text.strip text).toList ≠ [] := by
  intro hnil
  rw [hnil] at h
  cases h

/-- Spaces and tabs at the start of a text are blanks in front of what stripping leaves of it. -/
theorem exists_dropWhile {text : String} (hne : (Text.strip text).toList ≠ []) :
    ∃ before lead trail, (∀ c ∈ before, isLayout c = true) ∧ AreBlank lead ∧ AreBlank trail ∧
      text.toList = before ++ (lead ++ ((Text.strip text).toList ++ trail)) ∧
      (text.toList.dropWhile fun c => c = ' ' || c = '\t') =
        lead ++ ((Text.strip text).toList ++ trail) := by
  obtain ⟨lead, trail, hlead, htrail, htext, hfirst, -⟩ := exists_strip text
  obtain ⟨c, cs, hcs⟩ := List.exists_cons_of_ne_nil hne
  have hc := hfirst c (by rw [hcs]; rfl)
  have hkept : (decide (c = ' ') || decide (c = '\t')) = false := by
    refine Bool.eq_false_iff.2 fun hlayout => ?_
    simp only [Bool.or_eq_true, decide_eq_true_eq] at hlayout
    obtain rfl | rfl := hlayout <;> cases hc
  have hbefore : ∀ d ∈ lead.takeWhile fun c => c = ' ' || c = '\t', isLayout d = true := by
    intro d hd
    have hall := List.all_eq_true.1 List.all_takeWhile d hd
    rw [isLayout, hall, Bool.true_or]
  refine ⟨_, _, trail, hbefore, hlead.of_suffix (List.dropWhile_suffix fun c => c = ' ' || c = '\t'),
    htrail, ?_, ?_⟩
  · rw [← List.append_assoc, List.takeWhile_append_dropWhile, htext]
  · rw [htext, List.dropWhile_append]
    split
    case isTrue hempty =>
      rw [List.isEmpty_iff.1 hempty, List.nil_append, hcs, List.cons_append, List.dropWhile_cons,
        hkept]
      rfl
    case isFalse => rfl

/-- A text writes the same expression with the blanks around it and without them. -/
theorem parse?_strip {text : String} {e e' : Expr}
    (h : parse? (text.toList.dropWhile fun c => c = ' ' || c = '\t') = some e)
    (h' : parse? (Text.strip text).toList = some e') : e = e' := by
  have hne := strip_ne_nil h'
  obtain ⟨-, -, -, -, -, hfirst, hlast⟩ := exists_strip text
  obtain ⟨-, lead, trail, -, hlead, htrail, -, hdrop⟩ := exists_dropWhile hne
  rw [hdrop] at h
  obtain ⟨ts, hwords, -⟩ := ofWords?_of_parse? h
  obtain ⟨ts', hwords', -⟩ := ofWords?_of_parse? h'
  obtain ⟨k, rfl⟩ := words?_blanks hlead htrail hfirst hlast hwords hwords' hne
  exact (parse?_unique hwords' hwords h' h).symm

end Words

end Hashmark.Condition
