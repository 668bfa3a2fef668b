import Hashmark.Condition.Evaluate
import Hashmark.Proofs.Text.Identifier

/-!
# Asking whether a name is defined

The condition that asks whether a name is defined, read character by character: its words
(`words?_presence`), the expression that they make up, and its value, which depends on nothing but
what the name leads to in its normal form (`isTruthy_presence`, `isTruthy_not_presence`).
-/

namespace Hashmark.Condition

/-- The text that asks whether a name is defined. -/
def presenceText (name : String) : String :=
  "defined(" ++ name ++ ")"

/-- A character that is part of a name differs from one that is not. -/
theorem ne_of_isNamePart {c d : Char} (h : isNamePart c = true) (hd : isNamePart d = false) :
    c ≠ d := by
  rintro rfl
  rw [h] at hd
  cases hd

/-- A letter, the low line, or a digit is part of a name, and so is a character beyond ASCII. -/
theorem isNamePart_of_identifier {cs : List Char} (h : Text.isIdentifier cs = true) :
    ∀ c ∈ cs, isNamePart c = true := by
  refine Text.forall_mem_identifier (fun c hc => ?_) (fun c hc => ?_) h
  · unfold Text.isIdentifierStart at hc
    split at hc
    · simp [isNamePart, hc]
    · simp only [isNamePart, Bool.or_eq_true, decide_eq_true_eq]
      omega
  · unfold Text.isIdentifierContinue at hc
    split at hc
    · simp only [isNamePart, Bool.or_assoc, hc, Bool.or_true]
    · simp only [isNamePart, Bool.or_eq_true, decide_eq_true_eq]
      omega

/-- An identifier begins with no digit. -/
theorem not_isDigit_of_identifier {c : Char} {cs : List Char}
    (h : Text.isIdentifier (c :: cs) = true) : Text.isDigit c = false := by
  rw [Text.isIdentifier, Bool.and_eq_true] at h
  refine Bool.eq_false_iff.2 fun hdigit => ?_
  have hstart := h.1
  simp only [Text.isIdentifierStart, Text.isPlainStart, Text.isLetter] at hstart
  simp only [Text.isDigit, Bool.and_eq_true, decide_eq_true_eq] at hdigit
  rw [if_pos (by omega)] at hstart
  simp only [Bool.or_eq_true, Bool.and_eq_true, decide_eq_true_eq, beq_iff_eq] at hstart
  obtain h | rfl := hstart
  · omega
  · exact absurd hdigit (by decide)

/-- Where there is no quote, no quotation begins. -/
theorem quotationStart?_eq_none {cs : List Char} (h : '\'' ∉ cs ∧ '"' ∉ cs)
    (kind : QuotationKind) : quotationStart? kind cs = none := by
  induction cs generalizing kind with
  | nil => rfl
  | cons c cs ih =>
    simp only [List.mem_cons, not_or] at h
    rw [quotationStart?, if_neg (by simp [Ne.symm h.1.1, Ne.symm h.2.1])]
    cases kind.withLetter? c with
    | none => rfl
    | some kind => exact ih ⟨h.1.2, h.2.2⟩ kind

/-- A word stands before what is no part of it. -/
theorem wordsFrom?_word (bound : Nat) (brackets : List Char) {word rest : List Char}
    (hword : Text.isIdentifier word = true)
    (hrest : ∀ c, rest.head? = some c → isNamePart c = false)
    (hquote : '\'' ∉ word ++ rest ∧ '"' ∉ word ++ rest) {token : Token}
    (htoken : wordToken? word = some token) :
    wordsFrom? (bound + 1) brackets (word ++ rest) =
      (wordsFrom? bound brackets rest).map (token :: ·) := by
  cases word with
  | nil => cases hword
  | cons c cs =>
    have hparts := isNamePart_of_identifier hword
    have hc := hparts c List.mem_cons_self
    have hne : ∀ d, isNamePart d = false → c ≠ d := fun d hd => ne_of_isNamePart hc hd
    have htake : (c :: (cs ++ rest)).takeWhile isNamePart = c :: cs := by
      rw [← List.cons_append, List.takeWhile_append_of_pos hparts]
      cases rest with
      | nil => simp
      | cons d rest => simp [hrest d rfl]
    rw [List.cons_append] at hquote ⊢
    -- The first character is no blank and begins nothing else that is looked for before a name.
    rw [wordsFrom?, List.dropWhile_cons,
      if_neg (by simp [hne ' ' rfl, hne '\t' rfl, hne '\x0c' rfl])]
    simp only [if_neg (hne '#' rfl), if_neg (hne '\n' rfl), if_neg (hne '\\' rfl),
      quotationStart?_eq_none hquote, not_isDigit_of_identifier hword, hc, htake, htoken]
    simp

/-- A blank in front of a word is passed over. -/
theorem wordsFrom?_blank (bound : Nat) (brackets cs : List Char) :
    wordsFrom? bound brackets (' ' :: cs) = wordsFrom? bound brackets cs := by
  cases bound with
  | zero => rfl
  | succ bound => rw [wordsFrom?, wordsFrom?]; rfl

/-- An opening parenthesis is a word. -/
theorem wordsFrom?_open (bound : Nat) (cs : List Char) :
    wordsFrom? (bound + 1) [] ('(' :: cs) =
      (wordsFrom? bound [')'] cs).map (.symbol "(" :: ·) := rfl

/-- The closing parenthesis of the only open one is a word. -/
theorem wordsFrom?_close (bound : Nat) (cs : List Char) :
    wordsFrom? (bound + 1) [')'] (')' :: cs) =
      (wordsFrom? bound [] cs).map (.symbol ")" :: ·) := rfl

/-- A text without carriage returns has its line ends written as they are to be. -/
theorem unifyLineEnds_eq_self {cs : List Char} (h : '\r' ∉ cs) : unifyLineEnds cs = cs := by
  fun_induction unifyLineEnds cs with
  | case1 => rfl
  | case2 cs ih => simp at h
  | case3 c cs _ ih =>
    simp only [List.mem_cons, not_or] at h
    rw [ih h.2, if_neg (Ne.symm h.1)]

/-- A line that begins with a word begins there. -/
theorem beginLine?_word {c : Char} (h : isNamePart c = true) (cs : List Char) :
    beginLine? 0 false false (c :: cs) = some (c :: cs) := by
  have hne : ∀ d, isNamePart d = false → c ≠ d := fun d hd => ne_of_isNamePart h hd
  unfold beginLine?
  simp [hne '\n' rfl, hne ' ' rfl, hne '\t' rfl, hne '\x0c' rfl, hne '#' rfl, hne '\\' rfl]

/-- The words of a text of one line that begins with a word are those from there on. -/
theorem words?_of_word {c : Char} {cs : List Char} (hc : isNamePart c = true)
    (hnull : '\x00' ∉ c :: cs) (hreturn : '\r' ∉ c :: cs) :
    words? (c :: cs) = wordsFrom? ((c :: cs).length + 1) [] (c :: cs) := by
  have hcontains : ¬(c :: cs).contains '\x00' = true := fun h => hnull (List.contains_iff_mem.1 h)
  rw [words?, if_neg hcontains, unifyLineEnds_eq_self hreturn, beginLine?_word hc]

/-- The words of the text that asks whether a name is defined. -/
def presenceWords (name : String) : List Token :=
  [.name "defined", .symbol "(", .name (Text.normalize name), .symbol ")"]

/-- The characters of the text that asks whether a name is defined. -/
theorem presenceText_toList (name : String) :
    (presenceText name).toList = "defined".toList ++ '(' :: (name.toList ++ [')']) := by
  simp [presenceText]

section Name

variable {name : String} (hname : Text.isIdentifier name.toList = true)

include hname

/-- Besides the parentheses the text that asks for a name holds parts of names only. -/
theorem notMem_presenceText {c : Char} (hc : isNamePart c = false) (hopen : c ≠ '(')
    (hclose : c ≠ ')') : c ∉ (presenceText name).toList := by
  rw [presenceText_toList]
  simp only [List.mem_append, List.mem_cons, List.not_mem_nil, or_false, not_or]
  have hdefined : ∀ d ∈ "defined".toList, isNamePart d = true := isNamePart_of_identifier (by rfl)
  refine ⟨fun hmem => ?_, hopen, fun hmem => ?_, hclose⟩
  · exact ne_of_isNamePart (hdefined c hmem) hc rfl
  · exact ne_of_isNamePart (isNamePart_of_identifier hname c hmem) hc rfl

/-- The words of the text that asks whether a name is defined, the name being in its normal form. -/
theorem wordsFrom?_presence (hkeyword : name ∉ keywords) (bound : Nat) :
    wordsFrom? (bound + 5) [] (presenceText name).toList = some (presenceWords name) := by
  have hquote : '\'' ∉ (presenceText name).toList ∧ '"' ∉ (presenceText name).toList :=
    ⟨notMem_presenceText hname rfl (by decide) (by decide),
      notMem_presenceText hname rfl (by decide) (by decide)⟩
  have hdefined : wordToken? "defined".toList = some (.name "defined") := by rfl
  have htoken : wordToken? name.toList = some (.name (Text.normalize name)) := by
    simp [wordToken?, hname, hkeyword]
  have hlast : wordsFrom? (bound + 1) [] [] = some [] := rfl
  rw [presenceText_toList] at hquote ⊢
  have hbehind : '\'' ∉ name.toList ++ [')'] ∧ '"' ∉ name.toList ++ [')'] :=
    hquote.imp (fun h hmem => h (List.mem_append_right _ (.tail _ hmem)))
      fun h hmem => h (List.mem_append_right _ (.tail _ hmem))
  rw [wordsFrom?_word _ _ (by rfl) (by simp; rfl) hquote hdefined, wordsFrom?_open,
    wordsFrom?_word _ _ hname (by simp; rfl) hbehind htoken, wordsFrom?_close, hlast]
  rfl

/-- The text that asks whether a name is defined has the words of its characters. -/
theorem words?_presence (hkeyword : name ∉ keywords) :
    words? (presenceText name).toList = some (presenceWords name) := by
  have hnull := notMem_presenceText hname (c := '\x00') rfl (by decide) (by decide)
  have hreturn := notMem_presenceText hname (c := '\r') rfl (by decide) (by decide)
  have hwords := wordsFrom?_presence hname hkeyword
  rw [presenceText_toList] at hnull hreturn hwords ⊢
  -- There are more characters than words.
  obtain ⟨bound, hbound⟩ : ∃ bound, ("defined".toList ++ '(' :: (name.toList ++ [')'])).length + 1 =
      bound + 5 := ⟨name.toList.length + 5, by simp⟩
  rw [← hwords bound, ← hbound]
  exact words?_of_word rfl hnull hreturn

/-- The text that asks whether a name is not defined has one word more. -/
theorem words?_not_presence (hkeyword : name ∉ keywords) :
    words? ("not " ++ presenceText name).toList = some (.keyword "not" :: presenceWords name) := by
  have htext : ("not " ++ presenceText name).toList =
      "not".toList ++ ' ' :: (presenceText name).toList := by simp
  have hnot : ∀ {c : Char}, isNamePart c = false → c ≠ '(' → c ≠ ')' → c ≠ ' ' →
      c ∉ "not".toList ++ ' ' :: (presenceText name).toList := by
    intro c hc hopen hclose hblank hmem
    have hword : ∀ d ∈ "not".toList, isNamePart d = true := isNamePart_of_identifier (by rfl)
    obtain hmem | hmem := List.mem_append.1 hmem
    · exact ne_of_isNamePart (hword c hmem) hc rfl
    · obtain rfl | hmem := List.mem_cons.1 hmem
      · exact hblank rfl
      · exact notMem_presenceText hname hc hopen hclose hmem
  have hquote := And.intro (hnot (c := '\'') rfl (by decide) (by decide) (by decide))
    (hnot (c := '"') rfl (by decide) (by decide) (by decide))
  have hnull := hnot (c := '\x00') rfl (by decide) (by decide) (by decide)
  have hreturn := hnot (c := '\r') rfl (by decide) (by decide) (by decide)
  obtain ⟨bound, hbound⟩ : ∃ bound, ("not".toList ++ ' ' :: (presenceText name).toList).length + 1 =
      bound + 5 + 1 := ⟨name.toList.length + 8, by simp [presenceText_toList]⟩
  have hidentifier : Text.isIdentifier "not".toList = true := by rfl
  have htoken : wordToken? "not".toList = some (.keyword "not") := by rfl
  have hwords := wordsFrom?_word (bound + 5) [] hidentifier (by simp; rfl) hquote htoken
  rw [wordsFrom?_blank, wordsFrom?_presence hname hkeyword, ← hbound] at hwords
  rw [htext]
  exact (words?_of_word rfl hnull hreturn).trans hwords

end Name

/-- The expression that asks whether a name is defined. -/
def presenceExpr (name : String) : Expr :=
  .call (.name "defined") [.name (Text.normalize name)] false

/-- The words that ask for a name make up the call that does. -/
theorem ofWords?_presence (name : String) :
    ofWords? (presenceWords name) = some (presenceExpr name) := rfl

/-- One word more makes up the negation of the call. -/
theorem ofWords?_not_presence (name : String) :
    ofWords? (.keyword "not" :: presenceWords name) = some (.unary .not (presenceExpr name)) := rfl

/-- Words without formatted texts are read as the expression that they make up. -/
theorem evaluate_of_words (resolve : Resolver) {text : String} {ts : List Token} {e : Expr}
    (hstrip : Text.strip text = text) (hwords : words? text.toList = some ts)
    (hexpr : ofWords? ts = some e) (hfields : fieldsOf ts = []) :
    evaluate resolve text =
      match eval resolve e with
      | .ok v => .ok v
      | .error reason => .error (.noValue text reason) := by
  have hparse : parse? text.toList = some e := by
    simp [parse?, parseWithin, hwords, hexpr, hfields]
  cases heval : eval resolve e with
  | ok v => simp only [evaluate, hstrip, hparse, heval]
  | error reason => simp only [evaluate, hstrip, hparse, heval]

/-- No blank surrounds the text that asks for a name. -/
theorem strip_presence (name : String) : Text.strip (presenceText name) = presenceText name :=
  Text.strip_append (by simp; rfl) rfl

/-- No blank surrounds its negation. -/
theorem strip_not_presence (name : String) :
    Text.strip ("not " ++ presenceText name) = "not " ++ presenceText name := by
  refine Text.strip_append rfl ?_
  rw [presenceText, String.toList_append, List.getLast?_append]
  rfl

/-- What the text that asks for a name has to say of what the name leads to. -/
def presence (text : String) : Lookup → Except ConditionError Bool
  | .undefined => .ok false
  | .found _ _ => .ok true
  | .overflow => .error (.noValue text (.operation .overflow))

section Name

variable {name : String} (hname : Text.isIdentifier name.toList = true)
  (hkeyword : name ∉ keywords) (resolve : Resolver)

include hname hkeyword

/-- Whether a name is defined is asked of what the name leads to in its normal form. -/
theorem isTruthy_presence :
    isTruthy resolve (presenceText name) =
      presence (presenceText name) (resolve (Text.normalize name)) := by
  rw [isTruthy, evaluate_of_words resolve (strip_presence name) (words?_presence hname hkeyword)
    (ofWords?_presence name) rfl]
  -- A value that is found has no part in the answer, but one beyond computation leaves none.
  simp only [eval, presenceExpr, evalOperand, definedName?, isDefined]
  cases resolve (Text.normalize name) <;> rfl

/-- The negation has the opposite truth value, or none either. -/
theorem isTruthy_not_presence :
    isTruthy resolve ("not " ++ presenceText name) =
      (presence ("not " ++ presenceText name) (resolve (Text.normalize name))).map (!·) := by
  have hwords := words?_not_presence hname hkeyword
  rw [isTruthy,
    evaluate_of_words resolve (strip_not_presence name) hwords (ofWords?_not_presence name) rfl]
  simp only [eval, presenceExpr, evalOperand, definedName?, isDefined]
  cases resolve (Text.normalize name) <;> rfl

end Name

end Hashmark.Condition
