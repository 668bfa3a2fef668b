import Hashmark.Macro
import Hashmark.Proofs.Condition.Literal

/-!
# Asking whether a name equals a literal

The condition that a name is equal to a literal, with the literal written out. On one line, its words
are the name, the sign of equality and the words of the literal (`words?_equality`), and they make
up the comparison of the name with the literal (`ofWords?_equality`), where members without
parentheses are left behind the comparison. So the condition is true if the name leads to the value
of the literal and that has no list in it (`isTruthy_equality`).
-/

namespace Hashmark.Condition

open Text (isBlank isDigit)

/-- The text that asks whether a name and a text have equal values. -/
def equalityText (name text : String) : String :=
  name ++ " == " ++ text

section Words

/-- The words of a text are found with any larger bound. -/
theorem wordsFrom?_mono {n m : Nat} (hle : n ≤ m) {brackets text : List Char} {ts : List Token}
    (h : wordsFrom? n brackets text = some ts) : wordsFrom? m brackets text = some ts := by
  induction n generalizing m brackets text ts with
  | zero => cases h
  | succ n ih =>
    obtain ⟨m, rfl⟩ : ∃ k, m = k + 1 := ⟨m - 1, by omega⟩
    obtain ⟨lead, rest, rfl, hlead, hrest⟩ := exists_layout text
    rw [wordsFrom?_layout hlead] at h ⊢
    cases rest with
    | nil => exact h
    | cons c cs =>
      rw [wordsFrom?_cons (hrest c rfl)] at h ⊢
      obtain ⟨⟨token, outer, behind⟩, hnext, hwords⟩ := Option.bind_eq_some_iff.1 h
      obtain ⟨us, hus, rfl⟩ := Option.map_eq_some_iff.1 hwords
      rw [hnext, Option.bind_some]
      exact Option.map_eq_some_iff.2 ⟨us, ih (Nat.le_of_succ_le_succ hle) hus, rfl⟩

/-- A comment on the last line leaves nothing behind it. -/
theorem beginLine?_comment {cs rest : List Char} (hline : '\n' ∉ cs) {column : Nat}
    {indented : Bool} (h : beginLine? column indented true cs = some rest) : rest = [] := by
  induction cs with
  | nil => exact (Option.some.inj h).symm
  | cons c cs ih =>
    simp only [List.mem_cons, not_or] at hline
    rw [beginLine?_cons, if_neg (Ne.symm hline.1), if_pos rfl] at h
    exact ih hline.2 h

/-- A line that has words and begins with no blank begins there. -/
theorem eq_of_beginLine? {c : Char} {cs rest : List Char} {n : Nat} {ts : List Token}
    (hc : isBlank c = false) (hline : '\n' ∉ c :: cs) {column : Nat} {indented : Bool}
    (h : beginLine? column indented false (c :: cs) = some rest)
    (hwords : wordsFrom? n [] rest = some ts) (hts : ts ≠ []) : rest = c :: cs := by
  have hne : ∀ d, isBlank d = true → c ≠ d := fun d hd => (ne_of_isBlank hd hc).symm
  rw [List.mem_cons, not_or] at hline
  rw [beginLine?_cons, if_neg (hne '\n' rfl), if_neg Bool.false_ne_true, if_neg (hne ' ' rfl),
    if_neg (hne '\t' rfl), if_neg (hne '\x0c' rfl)] at h
  split at h
  · obtain rfl := beginLine?_comment hline.2 h
    exact absurd (eq_nil_of_wordsFrom?_nil hwords) hts
  split at h
  · split at h
    · simp at hline
    · cases h
  split at h
  · exact (Option.some.inj h).symm
  · cases h

/-- The characters of a literal on one line are layout, those of its words, and blanks. -/
theorem wordsFrom?_of_line {lead text trail : List Char} {ts : List Token} (hlead : AreBlank lead)
    (hfirst : ∀ c ∈ text.head?, isBlank c = false) (hne : text ≠ [])
    (hline : '\n' ∉ lead ++ (text ++ trail)) (hreturn : '\r' ∉ lead ++ (text ++ trail))
    (h : words? (lead ++ (text ++ trail)) = some ts) :
    ∀ c ∈ lead, isLayout c = true := by
  have hfirst' : ∀ c ∈ (text ++ trail).head?, isBlank c = false := by
    obtain ⟨c, cs, rfl⟩ := List.exists_cons_of_ne_nil hne
    exact hfirst
  obtain ⟨hlayout, -⟩ := words?_lead hlead hfirst' h
  rw [unifyLineEnds_eq_self fun hmem => hreturn (List.mem_append_left _ hmem)] at hlayout
  exact fun c hc => hlayout c hc fun heq => hline (List.mem_append_left _ (heq ▸ hc))

/-- The words of a text on one line that begins with no blank. -/
theorem wordsFrom?_of_words? {text : List Char} {ts : List Token}
    (hfirst : ∀ c ∈ text.head?, isBlank c = false) (hne : text ≠ []) (hline : '\n' ∉ text)
    (hreturn : '\r' ∉ text) (h : words? text = some ts) (hts : ts ≠ []) :
    wordsFrom? (text.length + 1) [] text = some ts := by
  obtain ⟨-, column, indented, begun, hbegun, hwords⟩ :=
    words?_lead (show AreBlank [] from nofun) hfirst h
  rw [unifyLineEnds_eq_self hreturn] at hbegun
  obtain ⟨c, cs, rfl⟩ := List.exists_cons_of_ne_nil hne
  obtain rfl := eq_of_beginLine? (hfirst c rfl) hline hbegun hwords hts
  exact hwords

/-- A text of words has no null character. -/
theorem notMem_null_of_words? {text : List Char} {ts : List Token} (h : words? text = some ts) :
    '\x00' ∉ text := by
  unfold words? at h
  split at h
  · cases h
  case isFalse hnull => exact fun hmem => hnull (List.contains_iff_mem.2 hmem)

/-- No quotation begins with a word before a space. -/
theorem quotationStart?_word {word : List Char} (hquote : '\'' ∉ word ∧ '"' ∉ word)
    (kind : QuotationKind) (rest : List Char) :
    quotationStart? kind (word ++ ' ' :: rest) = none := by
  induction word generalizing kind with
  | nil => exact quotationStart?_of_isBlank rfl kind rest
  | cons c word ih =>
    simp only [List.mem_cons, not_or] at hquote
    rw [List.cons_append, quotationStart?,
      if_neg (by simp [Ne.symm hquote.1.1, Ne.symm hquote.2.1])]
    cases kind.withLetter? c with
    | none => rfl
    | some kind => exact ih ⟨hquote.1.2, hquote.2.2⟩ kind

variable {name : String} (hname : Text.isIdentifier name.toList = true)
  (hkeyword : name ∉ keywords)

include hname

/-- No character of a name is one of another kind. -/
theorem notMem_name {c : Char} (hc : isNamePart c = false) : c ∉ name.toList :=
  fun hmem => ne_of_isNamePart (isNamePart_of_identifier hname c hmem) hc rfl

/-- A name before a space is a word. -/
theorem wordsFrom?_name (hkeyword : name ∉ keywords) (n : Nat) (rest : List Char) :
    wordsFrom? (n + 1) [] (name.toList ++ ' ' :: rest) =
      (wordsFrom? n [] (' ' :: rest)).map (.name (Text.normalize name) :: ·) := by
  have hquote := quotationStart?_word
    ⟨notMem_name hname (c := '\'') rfl, notMem_name hname (c := '"') rfl⟩
    ⟨false, false, false, false⟩ rest
  have htoken : wordToken? name.toList = some (.name (Text.normalize name)) := by
    simp [wordToken?, hname, hkeyword]
  cases hcs : name.toList with
  | nil =>
    rw [hcs] at hname
    cases hname
  | cons c cs =>
    have hparts := isNamePart_of_identifier hname
    rw [hcs] at hname hquote htoken hparts
    have hc := hparts c List.mem_cons_self
    -- What begins with a character of a name is no other kind of word.
    have hne : ∀ d, isNamePart d = false → c ≠ d := fun d hd => ne_of_isNamePart hc hd
    have htake : (c :: (cs ++ ' ' :: rest)).takeWhile isNamePart = c :: cs := by
      rw [← List.cons_append, List.takeWhile_append_of_pos hparts]
      simp [show isNamePart ' ' = false from rfl]
    have hdrop : (c :: (cs ++ ' ' :: rest)).dropWhile isNamePart = ' ' :: rest := by
      rw [← List.cons_append, List.dropWhile_append_of_pos hparts]
      simp [show isNamePart ' ' = false from rfl]
    have hlayout : isLayout c = false := by
      simp [isLayout, hne ' ' rfl, hne '\t' rfl, hne '\x0c' rfl]
    have hnext : nextWord? [] c (cs ++ ' ' :: rest) =
        some (some (.name (Text.normalize name)), [], ' ' :: rest) := by
      rw [List.cons_append] at hquote
      simp [nextWord?, hne '#' rfl, hne '\n' rfl, hne '\\' rfl, hquote,
        not_isDigit_of_identifier hname, hc, htake, htoken, hdrop]
    rw [List.cons_append, wordsFrom?_cons hlayout, hnext]
    rfl

omit hname in
/-- The sign of equality before a space is a word. -/
theorem wordsFrom?_equal (n : Nat) (rest : List Char) :
    wordsFrom? (n + 1) [] ('=' :: '=' :: ' ' :: rest) =
      (wordsFrom? n [] (' ' :: rest)).map (.symbol "==" :: ·) := rfl

/-- The words of a name, the sign of equality and a text of words. -/
theorem words?_equality (hkeyword : name ∉ keywords) {text : List Char} {ts : List Token} {n : Nat}
    (hnull : '\x00' ∉ text) (hreturn : '\r' ∉ text) (hn : n ≤ text.length + 1)
    (h : wordsFrom? n [] text = some ts) :
    words? (name.toList ++ ' ' :: '=' :: '=' :: ' ' :: text) =
      some (.name (Text.normalize name) :: .symbol "==" :: ts) := by
  have hnot : ∀ {c : Char}, isNamePart c = false → c ≠ ' ' → c ≠ '=' → c ∉ text →
      c ∉ name.toList ++ ' ' :: '=' :: '=' :: ' ' :: text := by
    intro c hc hspace hequal htext
    simp only [List.mem_append, List.mem_cons, not_or]
    exact ⟨notMem_name hname hc, hspace, hequal, hequal, hspace, htext⟩
  have hwords : wordsFrom? (n + 2) [] (name.toList ++ ' ' :: '=' :: '=' :: ' ' :: text) =
      some (.name (Text.normalize name) :: .symbol "==" :: ts) := by
    rw [wordsFrom?_name hname hkeyword, wordsFrom?_blank, wordsFrom?_equal, wordsFrom?_blank, h]
    rfl
  have hnull' := hnot (c := '\x00') rfl (by decide) (by decide) hnull
  have hreturn' := hnot (c := '\r') rfl (by decide) (by decide) hreturn
  have hlength : n + 2 ≤ (name.toList ++ ' ' :: '=' :: '=' :: ' ' :: text).length + 1 := by
    simp only [List.length_append, List.length_cons]
    omega
  have hmono := wordsFrom?_mono hlength hwords
  cases hcs : name.toList with
  | nil =>
    rw [hcs] at hname
    cases hname
  | cons c cs =>
    have hc := isNamePart_of_identifier hname c (by rw [hcs]; exact List.mem_cons_self)
    rw [hcs, List.cons_append] at hnull' hreturn' hmono
    rw [List.cons_append, words?_of_word hc hnull' hreturn', hmono]

end Words

section Expression

variable {ts : List Token}

/-- A name before the sign of equality is an operand. -/
theorem operation_name (n : Nat) (name : String) (ts : List Token) :
    operation (n + 10) 0 (.name name :: .symbol "==" :: ts) =
      some (.name name, .symbol "==" :: ts) := rfl

/-- The comparison of a name with an operation. -/
theorem inversion_equality {n : Nat} {name : String} {e : Expr} {rest : Words}
    (h : operation (n + 9) 0 ts = some (e, rest)) (hrest : comparison? rest = none) :
    inversion (n + 11) (.name name :: .symbol "==" :: ts) =
      some (.comparison (.name name) [(.equal, e)], rest) := by
  have hend : links (n + 9) rest = some ([], rest) := by rw [links, hrest]
  have hlinks : links (n + 10) (.symbol "==" :: ts) = some ([(.equal, e)], rest) :=
    Option.bind_eq_some_iff.2 ⟨_, h, Option.bind_eq_some_iff.2 ⟨_, hend, rfl⟩⟩
  have hnot : ¬atKeyword "not" (.name name :: .symbol "==" :: ts) = true := Bool.false_ne_true
  rw [inversion, if_neg hnot, operation_name]
  exact Option.bind_eq_some_iff.2 ⟨_, rfl, Option.bind_eq_some_iff.2 ⟨_, hlinks, rfl⟩⟩

/-- The comparison of a name with what is read as an operation is an expression. -/
theorem expression_equality {n : Nat} {name : String} {e : Expr} {rest : Words}
    (h : operation (n + 9) 0 ts = some (e, rest)) (hrest : Quiet rest) :
    expression (n + 14) (.name name :: .symbol "==" :: ts) =
      some (.comparison (.name name) [(.equal, e)], rest) := by
  have hinversion : inversion (n + 11) (.name name :: .symbol "==" :: ts) =
      some (.comparison (.name name) [(.equal, e)], rest) :=
    inversion_equality h hrest.comparison
  have hand : conjunctionRest (n + 11) rest = some ([], rest) := by
    rw [conjunctionRest, hrest.conjunction]
    rfl
  have hconjunction : conjunction (n + 12) (.name name :: .symbol "==" :: ts) =
      some (.comparison (.name name) [(.equal, e)], rest) :=
    Option.bind_eq_some_iff.2 ⟨_, hinversion, Option.bind_eq_some_iff.2 ⟨_, hand, rfl⟩⟩
  have hor : disjunctionRest (n + 12) rest = some ([], rest) := by
    rw [disjunctionRest, hrest.disjunction]
    rfl
  have hdisjunction : disjunction (n + 13) (.name name :: .symbol "==" :: ts) =
      some (.comparison (.name name) [(.equal, e)], rest) :=
    Option.bind_eq_some_iff.2 ⟨_, hconjunction, Option.bind_eq_some_iff.2 ⟨_, hor, rfl⟩⟩
  refine Option.bind_eq_some_iff.2 ⟨_, hdisjunction, ?_⟩
  simp only [hrest.choice, Bool.false_eq_true, if_false]

/-- The expression of a name, the sign of equality and words that make up one put together from
values: the comparison of the name with the first of its parts. -/
theorem ofWords?_equality {name : String} {first : Expr} {behind : Words} {es : List Expr}
    {rest : Words} (h : MadeUp ts first behind es rest) (hfirst : IsComposed first) :
    ofWords? (.name name :: .symbol "==" :: ts) =
      some (madeOf (.comparison (.name name) [(.equal, first)]) behind es) := by
  obtain ⟨k, hk, hoperation, hquiet⟩ := operation_of_expression h.first hfirst
  -- Two words more leave the descent as many more steps.
  have hsteps : stepsPerWord * ((Token.name name :: .symbol "==" :: ts).length + 1) = k + 54 + 14 := by
    simp only [stepsPerWord, List.length_cons] at hk ⊢
    omega
  have hz : AreNewlines [] := .inl rfl
  have hbehind : ∀ {α : Type} (answer : α × Words), Condition.behind [] answer = answer :=
    fun answer => by rw [Condition.behind, List.append_nil]
  have hoperation' : operation (k + 54 + 9) 0 ts = some (first, behind) := by
    have hmore := (descends hz (show k ≤ k + 54 + 9 by omega)).operation 0 _ _ hoperation
    rwa [List.append_nil, hbehind] at hmore
  have hothers : expressionsRest (k + 54 + 14) (k + 54 + 14) behind = some (es, rest) := by
    have hle : stepsPerWord * (ts.length + 1) ≤ k + 54 + 14 := by omega
    have hmore := expressionsRest_follows hz hle hle _ _ h.others
    rwa [List.append_nil, hbehind] at hmore
  unfold ofWords?
  rw [hsteps]
  refine Option.bind_eq_some_iff.2 ⟨_, expression_equality hoperation' hquiet, ?_⟩
  refine Option.bind_eq_some_iff.2 ⟨_, hothers, ?_⟩
  exact if_pos h.ends

end Expression

section Truth

/-- Words that hold no other formatted texts than those of a shorter text write the expression that
they make up. -/
theorem parse?_of_words? {one other : List Char} {ts us : List Token} {e e' : Expr}
    (h : parse? one = some e) (hwords : words? one = some ts) (hwords' : words? other = some us)
    (hfields : fieldsOf us = fieldsOf ts) (hlength : one.length ≤ other.length)
    (hexpr : ofWords? us = some e') : parse? other = some e' := by
  have hdepth : parseWithin (other.length + 1) one = some e :=
    parseWithin_mono (Nat.succ_le_succ hlength) h
  rw [parseWithin, hwords] at hdepth
  obtain ⟨_, ⟨rfl⟩, hdepth⟩ := Option.bind_eq_some_iff.1 hdepth
  obtain ⟨_, -, hall⟩ := Option.bind_eq_some_iff.1 hdepth
  split at hall
  case isTrue hfound =>
    rw [parse?, parseWithin, hwords']
    refine Option.bind_eq_some_iff.2 ⟨us, rfl, Option.bind_eq_some_iff.2 ⟨e', hexpr, ?_⟩⟩
    rw [hfields]
    exact if_pos hfound
  case isFalse => cases hall

variable {resolve : Resolver} {name : String} {v : Value} {shared : Sharing}

/-- A name is compared with an operand for equality. -/
theorem evalOperand_equality (hresolve : resolve name = .found v shared) {e : Expr} {o : Operand}
    (ho : evalOperand resolve e = .ok o) :
    evalOperand resolve (.comparison (.name name) [(.equal, e)]) =
      .ok (.fresh (.bool (v.equal o.value))) := by
  rw [evalOperand, evalOperand, lookupName, hresolve]
  simp only
  rw [evalLinks, ho]
  simp only [compareOperands]
  cases v.equal o.value with
  | true =>
    simp only
    rw [evalLinks]
  | false => rfl

/-- The comparison of a name with a literal is true if the name leads to its value; where further
expressions stand behind the literal, all of them are the members of a tuple, which is true for
having members. -/
theorem eval_equality {first : Expr} {behind : Words} {es : List Expr} {o : Operand}
    (hresolve : resolve name = .found v shared)
    (he : IsComposed (madeOf first behind es))
    (ho : evalOperand (fun _ => .undefined) (madeOf first behind es) = .ok o)
    (hequal : v.equal o.value = true) :
    ∃ u, eval resolve (madeOf (.comparison (.name name) [(.equal, first)]) behind es) = .ok u ∧
      u.isTrue = true := by
  rw [Literal.evalOperand_congr he _ resolve] at ho
  unfold madeOf at ho ⊢
  split at ho
  case isTrue hcomma =>
    rw [evalOperand, evalItems] at ho
    rw [if_pos hcomma]
    split at ho
    · cases ho
    case h_2 us hitems =>
      split at hitems
      · cases hitems
      case h_2 a ha =>
        split at hitems
        · cases hitems
        case h_2 vs hvs =>
          refine ⟨.tuple (.bool (v.equal a.value) :: vs), ?_, rfl⟩
          rw [eval, evalOperand, evalItems, evalOperand_equality hresolve ha, hvs]
          rfl
  case isFalse hcomma =>
    rw [if_neg hcomma, eval, evalOperand_equality hresolve ho, hequal]
    exact ⟨_, rfl, rfl⟩

/-- The text that asks whether a name and a literal are equal, without the blanks at its end. -/
theorem strip_equality {name text : String} (hname : Text.isIdentifier name.toList = true)
    {lead trail : List Char} (htrail : AreBlank trail)
    (htext : text.toList = lead ++ ((Text.strip text).toList ++ trail))
    (hlast : ∀ c ∈ (Text.strip text).toList.getLast?, isBlank c = false)
    (hne : (Text.strip text).toList ≠ []) :
    (Text.strip (equalityText name text)).toList =
      name.toList ++ ' ' :: '=' :: '=' :: ' ' :: (lead ++ (Text.strip text).toList) := by
  have hchars : (equalityText name text).toList =
      name.toList ++ ' ' :: '=' :: '=' :: ' ' :: (lead ++ (Text.strip text).toList) ++ trail := by
    rw [equalityText, String.toList_append, String.toList_append, htext]
    simp
  have hkept : ∀ c ∈ (name.toList ++ ' ' :: '=' :: '=' :: ' ' ::
      (lead ++ (Text.strip text).toList)).getLast?, isBlank c = false := by
    have hsplit : name.toList ++ ' ' :: '=' :: '=' :: ' ' :: (lead ++ (Text.strip text).toList) =
        name.toList ++ ' ' :: '=' :: '=' :: ' ' :: lead ++ (Text.strip text).toList := by simp
    rw [hsplit, List.getLast?_append_of_ne_nil _ hne]
    exact hlast
  rw [Text.strip, Text.trimBoth, hchars, String.toList_ofList]
  cases hcs : name.toList with
  | nil =>
    rw [hcs] at hname
    cases hname
  | cons c cs =>
    have hc : isBlank c = false :=
      Text.not_isBlank_of_mem_identifier hname c (by rw [hcs]; exact List.mem_cons_self)
    rw [hcs] at hkept
    rw [List.cons_append, List.cons_append, List.dropWhile_cons, if_neg (by simp [hc]),
      ← List.cons_append, ← List.cons_append, Text.dropTrailing_append_of_last htrail hkept]

/-- On one line, a text that is a literal and an expression is layout, the expression, and blanks. -/
theorem exists_layout_of_literal {text : String} {v : Value} (hparse : Literal.parse text = .ok v)
    (hne : (Text.strip text).toList ≠ []) (hline : '\n' ∉ text.toList)
    (hreturn : '\r' ∉ text.toList) :
    ∃ lead trail, (∀ c ∈ lead, isLayout c = true) ∧ AreBlank trail ∧
      text.toList = lead ++ ((Text.strip text).toList ++ trail) := by
  obtain ⟨before, lead, trail, hbefore, hlead, htrail, htext, hdrop⟩ := exists_dropWhile hne
  obtain ⟨-, -, -, -, -, hfirst, -⟩ := exists_strip text
  have hwhole : ∀ {c : Char}, c ∉ text.toList → c ∉ lead ++ ((Text.strip text).toList ++ trail) :=
    fun hc hmem => hc (by rw [htext]; exact List.mem_append_right _ hmem)
  -- A literal begins behind spaces and tabs, so that what else is in front of it would indent it.
  obtain ⟨e, hexpr⟩ : ∃ e, parse? (lead ++ ((Text.strip text).toList ++ trail)) = some e := by
    rw [← hdrop]
    unfold Literal.parse at hparse
    split at hparse
    · cases hparse
    case h_2 e hexpr => exact ⟨e, hexpr⟩
  obtain ⟨ts, hwords, -⟩ := ofWords?_of_parse? hexpr
  have hlayout := wordsFrom?_of_line hlead hfirst hne (hwhole hline) (hwhole hreturn) hwords
  refine ⟨before ++ lead, trail, fun c hc => ?_, htrail, by rw [htext, List.append_assoc]⟩
  exact (List.mem_append.1 hc).elim (hbefore c) (hlayout c)

/-- The words of the condition that a name equals a literal on one line are the name, the sign and the
words of the literal; the condition is longer than the literal. -/
theorem words?_equalityText {name text : String} {v : Value}
    (hname : Text.isIdentifier name.toList = true) (hkeyword : name ∉ keywords)
    (hnormal : Text.normalize name = name) (hparse : Literal.parse text = .ok v)
    (hline : '\n' ∉ text.toList) (hreturn : '\r' ∉ text.toList) {ts : List Token}
    (hwords : words? (Text.strip text).toList = some ts) (hts : ts ≠ [])
    (hne : (Text.strip text).toList ≠ []) :
    words? (Text.strip (equalityText name text)).toList = some (.name name :: .symbol "==" :: ts) ∧
      (Text.strip text).toList.length ≤ (Text.strip (equalityText name text)).toList.length := by
  obtain ⟨lead, trail, hlayout, htrail, htext⟩ :=
    exists_layout_of_literal hparse hne hline hreturn
  obtain ⟨-, -, -, -, -, hfirst, hlast⟩ := exists_strip text
  have hinner : ∀ {c : Char}, c ∉ text.toList → c ∉ lead ++ (Text.strip text).toList := by
    intro c hc hmem
    rw [htext, ← List.append_assoc] at hc
    exact hc (List.mem_append_left _ hmem)
  have hstripped : ∀ {c : Char}, c ∉ text.toList → c ∉ (Text.strip text).toList :=
    fun hc hmem => hinner hc (List.mem_append_right _ hmem)
  have hfrom := wordsFrom?_of_words? hfirst hne (hstripped hline) (hstripped hreturn) hwords hts
  rw [← wordsFrom?_layout hlayout] at hfrom
  have hnull : '\x00' ∉ lead ++ (Text.strip text).toList := by
    intro hmem
    obtain hmem | hmem := List.mem_append.1 hmem
    · cases hlayout _ hmem
    · exact notMem_null_of_words? hwords hmem
  have hlength : (Text.strip text).toList.length + 1 ≤
      (lead ++ (Text.strip text).toList).length + 1 := by
    rw [List.length_append]
    omega
  rw [strip_equality hname htrail htext hlast hne]
  refine ⟨?_, ?_⟩
  · rw [words?_equality hname hkeyword hnull (hinner hreturn) hlength hfrom, hnormal]
  · simp only [List.length_append, List.length_cons]
    omega

/-- After a name that leads to a literal, the condition that it equals the literal is true. -/
theorem isTruthy_equality {name text : String} {v w : Value}
    (hname : Text.isIdentifier name.toList = true) (hkeyword : name ∉ keywords)
    (hnormal : Text.normalize name = name) (hparse : Literal.parse text = .ok v)
    (hw : evaluate (fun _ => .undefined) text = .ok w)
    (hline : '\n' ∉ text.toList) (hreturn : '\r' ∉ text.toList) (hnan : v.hasNaN = false)
    (hfrozen : v.frozen = v) {shared : Sharing} (hresolve : resolve name = .found v shared) :
    isTruthy resolve (Text.strip (equalityText name text)) = .ok true := by
  obtain ⟨e, o, hexpr, hcomposed, hv, ho, rfl⟩ := Literal.exists_composed hparse hw
  obtain ⟨ts, hwords, hmade⟩ := ofWords?_of_parse? hexpr
  have hts : ts ≠ [] := by
    rintro rfl
    cases hmade
  obtain ⟨hcondition, hlonger⟩ := words?_equalityText hname hkeyword hnormal hparse hline hreturn
    hwords hts (strip_ne_nil hexpr)
  obtain ⟨first, behind, es, rest, hparts, rfl⟩ := exists_madeUp hmade
  have hshape : IsComposed (madeOf first behind es) := hcomposed.imp fun _ _ => trivial
  have hequality : ofWords? (.name name :: .symbol "==" :: ts) =
      some (madeOf (.comparison (.name name) [(.equal, first)]) behind es) :=
    ofWords?_equality hparts (isComposed_first hshape)
  have hexpr' := parse?_of_words? hexpr hwords hcondition rfl hlonger hequality
  have hequal : v.equal o.value = true := by
    rw [Literal.evalOperand_of_ofExpr hcomposed hv ho, hfrozen]
    exact Value.equal_self v hnan
  obtain ⟨u, hu, htrue⟩ := eval_equality hresolve hshape ho hequal
  simp only [isTruthy, evaluate, strip_strip, hexpr', hu]
  exact congrArg Except.ok htrue

end Truth

end Hashmark.Condition
