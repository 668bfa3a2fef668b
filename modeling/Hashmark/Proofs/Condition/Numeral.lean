import Hashmark.Condition.Token

/-!
# Numbers in expressions

A number that is read with blanks behind it is the one that is read without them (`Agrees`), as no
blank is a digit, a mark or a sign. One part of a number after the other is followed
(`number?_agrees`, `fractionEnd_agrees`). Whatever is read is an integer, a number in floating
point, or a complex one (`givesNumber_number?`).
-/

namespace Hashmark.Condition

open Text (isBlank isDigit isHexDigit)

/-- Nothing but blanks. -/
def AreBlank (z : List Char) : Prop :=
  ∀ c ∈ z, isBlank c = true

/-- A blank differs from what is none. -/
theorem ne_of_isBlank {c d : Char} (h : isBlank c = true) (hd : isBlank d = false) : c ≠ d := by
  rintro rfl
  rw [h] at hd
  cases hd

/-- A blank is no digit. -/
theorem not_isHexDigit_of_isBlank {c : Char} (h : isBlank c = true) : isHexDigit c = false := by
  refine Bool.eq_false_iff.2 fun hdigit => ?_
  simp only [isHexDigit, isDigit, Bool.or_eq_true, Bool.and_eq_true, decide_eq_true_eq] at hdigit
  simp only [isBlank, Bool.or_eq_true, Bool.and_eq_true, decide_eq_true_eq, beq_iff_eq] at h
  omega

/-- A blank is no digit of a decimal number. -/
theorem not_isDigit_of_isBlank {c : Char} (h : isBlank c = true) : isDigit c = false := by
  have hhex := not_isHexDigit_of_isBlank h
  simp only [isHexDigit, Bool.or_eq_false_iff] at hhex
  exact hhex.1.1

/-- A blank is no octal digit. -/
theorem not_isOctalDigit_of_isBlank {c : Char} (h : isBlank c = true) : isOctalDigit c = false := by
  refine Bool.eq_false_iff.2 fun hdigit => ?_
  simp only [isOctalDigit, Bool.and_eq_true, decide_eq_true_eq] at hdigit
  simp only [isBlank, Bool.or_eq_true, Bool.and_eq_true, decide_eq_true_eq, beq_iff_eq] at h
  omega

/-- A blank has no case. -/
theorem toLower_of_isBlank {c : Char} (h : isBlank c = true) : c.toLower = c := by
  have hletter : ¬(c.val ≥ 'A'.val ∧ c.val ≤ 'Z'.val) := by
    rintro ⟨hfirst, hlast⟩
    have hfirst' : 65 ≤ c.toNat := hfirst
    have hlast' : c.toNat ≤ 90 := hlast
    simp only [isBlank, Bool.or_eq_true, Bool.and_eq_true, decide_eq_true_eq, beq_iff_eq] at h
    omega
  exact dif_neg hletter

/-- What is read of a text and of the text with more behind it, if both can be read, is the same, and
leaves the same behind it. -/
def Agrees {α : Type} (z : List Char) (one other : Option (α × List Char)) : Prop :=
  ∀ v rest v' rest', one = some (v, rest) → other = some (v', rest') → v' = v ∧ rest' = rest ++ z

/-- Nothing is read. -/
theorem Agrees.none {α : Type} {z : List Char} (other : Option (α × List Char)) :
    Agrees z none other := by
  intro _ _ _ _ h
  cases h

/-- No characters are blank. -/
theorem areBlank_nil : AreBlank [] :=
  List.forall_mem_nil _

/-- An integer with its base, by the letter that marks it, or else a decimal number. -/
def baseOf? : List Char → Option (Char × List Char)
  | '0' :: mark :: rest => some (mark.toLower, rest)
  | _ => none

/-- An integer of these digits, if a zero at its start stands before zeros only. -/
def integerBefore (ds rest : List Char) : Option (Value × List Char) :=
  let leadingZero := ds.head? = some '0'
  if leadingZero && ds.any (· != '0') then none
  else if !leadingZero && Number.maxDigits < ds.length then none
  else numberBefore (.int (Number.ofDigits ds)) rest

/-- What follows the digits at the start of a decimal number. -/
def digitsEnd (ds rest : List Char) : Option (Value × List Char) :=
  match rest with
  | '.' :: behind => fractionEnd ds behind
  | c :: behind =>
    if c = 'j' || c = 'J' then
      numberBefore (.complex ⟨0.0, Number.ofDecimalText ds⟩) behind
    else exponentEnd ds (integerBefore ds) rest
  | [] => integerBefore ds []

/-- A decimal number. -/
def decimalNumber? (cs : List Char) : Option (Value × List Char) :=
  match digits? isDigit cs with
  | none => none
  | some (ds, rest) => digitsEnd ds rest

/-- The digits of an exponent and what follows them, behind the part `mantissa` of a number up to its
letter and its sign. -/
def exponentDigits (mantissa behind : List Char) : Option (Value × List Char) :=
  match digits? isDigit behind with
  | some (ds, rest) => decimalEnd (mantissa ++ ds) rest
  | none => none

/-- What an exponent begins with. -/
theorem exponentEnd_cons (mantissa : List Char) (whole : List Char → Option (Value × List Char))
    (e c : Char) (more : List Char) :
    exponentEnd mantissa whole (e :: c :: more) =
      if e = 'e' || e = 'E' then
        if c = '+' || c = '-' then
          if (more.head?.map isDigit).getD false then exponentDigits (mantissa ++ [e, c]) more
          else none
        else if isDigit c then exponentDigits (mantissa ++ [e]) (c :: more)
        else whole (e :: c :: more)
      else whole (e :: c :: more) := by
  simp only [exponentEnd]
  by_cases hsign : (decide (c = '+') || decide (c = '-')) = true
  · rw [if_pos hsign, if_pos hsign]
    rfl
  · rw [if_neg hsign, if_neg hsign]
    rfl

/-- A number is an integer with its base or a decimal number. -/
theorem number?_eq (cs : List Char) :
    number? cs =
      match baseOf? cs with
      | some ('x', rest) => basedNumber? 4 isHexDigit rest
      | some ('o', rest) => basedNumber? 3 isOctalDigit rest
      | some ('b', rest) => basedNumber? 1 (fun c => c = '0' || c = '1') rest
      | _ => decimalNumber? cs := rfl

section Number

variable {z : List Char} (hz : AreBlank z)

include hz

/-- No digit begins blanks. -/
theorem head?_isDigit_append (rest : List Char) :
    ((rest ++ z).head?.map isDigit).getD false = (rest.head?.map isDigit).getD false := by
  cases rest with
  | cons c cs => rfl
  | nil =>
    cases z with
    | nil => rfl
    | cons c cs => exact not_isDigit_of_isBlank (hz c List.mem_cons_self)

/-- Digits end before blanks. -/
theorem digits?_append {digit : Char → Bool} (hdigit : ∀ c, isBlank c = true → digit c = false)
    (y : List Char) :
    digits? digit (y ++ z) = (digits? digit y).map fun (ds, rest) => (ds, rest ++ z) := by
  fun_induction digits? digit y with
  | case1 =>
    cases z with
    | nil => rfl
    | cons c cs =>
      have hc := hz c List.mem_cons_self
      simp [digits?, hdigit c hc, ne_of_isBlank hc (show isBlank '_' = false from rfl)]
  | case2 c cs hc ih =>
    simp only [List.cons_append, digits?, hc, if_true, ih, Option.map_map]
    rfl
  | case3 d ds hd hlow ih =>
    simp only [List.cons_append, digits?.eq_2, hlow, hd, if_true, Bool.false_eq_true, if_false]
    exact ih
  | case4 d ds hd hlow => simp [digits?, hlow, hd]
  | case5 hlow =>
    cases z with
    | nil => simp [digits?, hlow]
    | cons c cs => simp [digits?, hlow, hdigit c (hz c List.mem_cons_self)]
  | case6 c cs hc hlow => simp [digits?, hc, hlow]

omit hz in
/-- Numbers that may end where they do are the same. -/
theorem numberBefore_agrees (v : Value) (rest : List Char) :
    Agrees z (numberBefore v rest) (numberBefore v (rest ++ z)) := by
  intro u more u' more' h h'
  unfold numberBefore at h h'
  split at h
  · split at h'
    · obtain ⟨rfl, rfl⟩ := Prod.mk.inj (Option.some.inj h)
      obtain ⟨rfl, rfl⟩ := Prod.mk.inj (Option.some.inj h')
      exact ⟨rfl, rfl⟩
    · cases h'
  · cases h

/-- The end of a decimal before blanks. -/
theorem decimalEnd_agrees (decimal rest : List Char) :
    Agrees z (decimalEnd decimal rest) (decimalEnd decimal (rest ++ z)) := by
  cases rest with
  | nil =>
    cases z with
    | nil =>
      intro u more u' more' h h'
      obtain ⟨rfl, rfl⟩ := Prod.mk.inj (Option.some.inj h)
      obtain ⟨rfl, rfl⟩ := Prod.mk.inj (Option.some.inj h')
      exact ⟨rfl, rfl⟩
    | cons c cs =>
      have hc := hz c List.mem_cons_self
      have hplain : decimalEnd decimal (c :: cs) =
          numberBefore (.float (Number.ofDecimalText decimal)) (c :: cs) := by
        unfold decimalEnd
        simp only [ne_of_isBlank hc (show isBlank 'j' = false from rfl),
          ne_of_isBlank hc (show isBlank 'J' = false from rfl), decide_false, Bool.or_self,
          Bool.false_eq_true, if_false]
      have hbefore : decimalEnd decimal [] =
          numberBefore (.float (Number.ofDecimalText decimal)) [] := rfl
      rw [List.nil_append, hplain, hbefore]
      exact numberBefore_agrees _ []
  | cons c cs =>
    simp only [List.cons_append, decimalEnd]
    split
    · exact numberBefore_agrees _ _
    · exact numberBefore_agrees _ (c :: cs)

/-- An exponent before blanks, behind its letter and its sign. -/
theorem exponentDigits_agrees (mantissa cs : List Char) :
    Agrees z (exponentDigits mantissa cs) (exponentDigits mantissa (cs ++ z)) := by
  unfold exponentDigits
  rw [digits?_append hz fun c => not_isDigit_of_isBlank]
  cases digits? isDigit cs with
  | none => exact .none _
  | some found => exact decimalEnd_agrees hz _ found.2

/-- An exponent before blanks. -/
theorem exponentEnd_agrees (mantissa : List Char)
    {whole : List Char → Option (Value × List Char)}
    (hwhole : ∀ cs, Agrees z (whole cs) (whole (cs ++ z))) (cs : List Char) :
    Agrees z (exponentEnd mantissa whole cs) (exponentEnd mantissa whole (cs ++ z)) := by
  have hhead := head?_isDigit_append hz
  -- An exponent takes a letter and a digit at least, or a letter, a sign and a digit.
  rcases cs with _ | ⟨e, _ | ⟨c, more⟩⟩
  · cases z with
    | nil => exact hwhole []
    | cons c cs =>
      have hc := hz c List.mem_cons_self
      have hplain : exponentEnd mantissa whole (c :: cs) = whole (c :: cs) := by
        unfold exponentEnd
        simp only [ne_of_isBlank hc (show isBlank 'e' = false from rfl),
          ne_of_isBlank hc (show isBlank 'E' = false from rfl), decide_false, Bool.or_self,
          Bool.false_eq_true, if_false]
      rw [List.nil_append, hplain]
      exact hwhole []
  · -- No sign and no digit follows the letter.
    have hplain : ∀ rest : List Char, AreBlank rest →
        exponentEnd mantissa whole (e :: rest) = whole (e :: rest) := by
      intro rest hrest
      cases rest with
      | nil => simp [exponentEnd]
      | cons c cs =>
        have hc := hrest c List.mem_cons_self
        have hdigit := not_isDigit_of_isBlank hc
        simp [exponentEnd, ne_of_isBlank hc (show isBlank '+' = false from rfl),
          ne_of_isBlank hc (show isBlank '-' = false from rfl), hdigit]
    rw [List.singleton_append, hplain [] areBlank_nil, hplain z hz]
    exact hwhole [e]
  · rw [List.cons_append, List.cons_append, exponentEnd_cons, exponentEnd_cons]
    split
    · split
      · rw [hhead]
        split
        · exact exponentDigits_agrees hz _ more
        · exact .none _
      · split
        · exact exponentDigits_agrees hz _ (c :: more)
        · exact hwhole (e :: c :: more)
    · exact hwhole (e :: c :: more)

/-- A fraction before blanks. -/
theorem fractionEnd_agrees (whole cs : List Char) :
    Agrees z (fractionEnd whole cs) (fractionEnd whole (cs ++ z)) := by
  have hdigits := digits?_append hz fun c => not_isDigit_of_isBlank
  have hfound : (if ((cs ++ z).head?.map isDigit).getD false then digits? isDigit (cs ++ z)
        else some ([], cs ++ z)) =
      (if (cs.head?.map isDigit).getD false then digits? isDigit cs else some ([], cs)).map
        fun (ds, rest) => (ds, rest ++ z) := by
    rw [head?_isDigit_append hz]
    split
    · exact hdigits cs
    · rfl
  simp only [fractionEnd, hfound]
  cases (if (cs.head?.map isDigit).getD false then digits? isDigit cs else some ([], cs)) with
  | none => exact .none _
  | some found =>
    exact exponentEnd_agrees hz _ (fun rest => decimalEnd_agrees hz _ rest) found.2

/-- An integer with its base before blanks. -/
theorem basedNumber?_agrees (bits : Nat) {digit : Char → Bool}
    (hdigit : ∀ c, isBlank c = true → digit c = false) (cs : List Char) :
    Agrees z (basedNumber? bits digit cs) (basedNumber? bits digit (cs ++ z)) := by
  simp only [basedNumber?, digits?_append hz hdigit]
  cases digits? digit cs with
  | none => exact .none _
  | some found =>
    obtain ⟨ds, rest⟩ := found
    cases ds with
    | nil => exact .none _
    | cons d ds =>
      simp only [Option.map_some, head?_isDigit_append hz]
      split
      · exact .none _
      · exact numberBefore_agrees _ rest

/-- What follows the digits of a decimal number before blanks. -/
theorem digitsEnd_agrees (ds rest : List Char) :
    Agrees z (digitsEnd ds rest) (digitsEnd ds (rest ++ z)) := by
  have hinteger : ∀ rest, Agrees z (integerBefore ds rest) (integerBefore ds (rest ++ z)) := by
    intro rest
    unfold integerBefore
    simp only
    split
    · exact .none _
    · split
      · exact .none _
      · exact numberBefore_agrees _ rest
  have hexponent := exponentEnd_agrees hz ds hinteger
  -- Without a point, the letter of an imaginary number or an exponent may follow.
  have hletter : ∀ c rest, c ≠ '.' → digitsEnd ds (c :: rest) =
      if c = 'j' || c = 'J' then numberBefore (.complex ⟨0.0, Number.ofDecimalText ds⟩) rest
      else exponentEnd ds (integerBefore ds) (c :: rest) := by
    intro c rest hc
    unfold digitsEnd
    split
    case h_1 heq => exact absurd (List.cons.inj heq).1 hc
    case h_2 heq =>
      obtain ⟨rfl, rfl⟩ := List.cons.inj heq
      rfl
    case h_3 heq => cases heq
  cases rest with
  | nil =>
    cases z with
    | nil => exact hinteger []
    | cons c cs =>
      have hc := hz c List.mem_cons_self
      rw [List.nil_append, hletter c cs (ne_of_isBlank hc rfl),
        if_neg (by simp [ne_of_isBlank hc (show isBlank 'j' = false from rfl),
          ne_of_isBlank hc (show isBlank 'J' = false from rfl)])]
      exact hexponent []
  | cons c cs =>
    by_cases hc : c = '.'
    · subst hc
      exact fractionEnd_agrees hz ds cs
    · rw [List.cons_append, hletter c cs hc, hletter c _ hc]
      split
      · exact numberBefore_agrees _ cs
      · exact hexponent (c :: cs)

/-- A decimal number before blanks. -/
theorem decimalNumber?_agrees (cs : List Char) :
    Agrees z (decimalNumber? cs) (decimalNumber? (cs ++ z)) := by
  simp only [decimalNumber?, digits?_append hz fun c => not_isDigit_of_isBlank]
  cases digits? isDigit cs with
  | none => exact .none _
  | some found => exact digitsEnd_agrees hz found.1 found.2

/-- A number before blanks. -/
theorem number?_agrees (c : Char) (cs : List Char) :
    Agrees z (number? (c :: cs)) (number? (c :: cs ++ z)) := by
  have hdecimal := decimalNumber?_agrees hz (c :: cs)
  rw [number?_eq, number?_eq]
  -- Only behind a zero there may be the mark of a base.
  by_cases hc : c = '0'
  · subst hc
    cases cs with
    | nil =>
      have hplain : ∀ rest, AreBlank rest →
          (match baseOf? ('0' :: rest) with
            | some ('x', rest) => basedNumber? 4 isHexDigit rest
            | some ('o', rest) => basedNumber? 3 isOctalDigit rest
            | some ('b', rest) => basedNumber? 1 (fun c => c = '0' || c = '1') rest
            | _ => decimalNumber? ('0' :: rest)) = decimalNumber? ('0' :: rest) := by
        intro rest hrest
        cases rest with
        | nil => rfl
        | cons d ds =>
          -- A blank is the mark of no base.
          have hd := hrest d List.mem_cons_self
          have hbase : baseOf? ('0' :: d :: ds) = some (d, ds) :=
            congrArg (fun mark => some (mark, ds)) (toLower_of_isBlank hd)
          rw [hbase]
          split
          case h_4 => rfl
          all_goals
            rename_i heq
            obtain ⟨rfl, -⟩ := Prod.mk.inj (Option.some.inj heq)
            cases hd
      rw [List.singleton_append, hplain z hz, hplain [] areBlank_nil]
      exact hdecimal
    | cons d ds =>
      have hbase : ∀ rest, baseOf? ('0' :: d :: rest) = some (d.toLower, rest) := fun rest => rfl
      -- No blank is a digit of any base.
      have hoctal : ∀ c, isBlank c = true → isOctalDigit c = false :=
        fun c hc => not_isOctalDigit_of_isBlank hc
      have hbinary : ∀ c, isBlank c = true → (decide (c = '0') || decide (c = '1')) = false := by
        intro c hc
        simp [ne_of_isBlank hc (show isBlank '0' = false from rfl),
          ne_of_isBlank hc (show isBlank '1' = false from rfl)]
      rw [List.cons_append, List.cons_append, hbase, hbase]
      generalize d.toLower = mark
      by_cases hx : mark = 'x'
      · subst hx
        exact basedNumber?_agrees hz 4 (fun c hc => not_isHexDigit_of_isBlank hc) ds
      by_cases ho : mark = 'o'
      · subst ho
        exact basedNumber?_agrees hz 3 hoctal ds
      by_cases hb : mark = 'b'
      · subst hb
        exact basedNumber?_agrees hz 1 hbinary ds
      simpa [hx, ho, hb] using hdecimal
  · have hbase : ∀ rest, baseOf? (c :: rest) = none := by
      intro rest
      cases rest <;> simp [baseOf?, hc]
    rw [List.cons_append, hbase, hbase]
    exact hdecimal

end Number

/-- Whatever is answered, if anything is, has a property. -/
def Gives {α : Type} (property : α → Prop) (one : Option α) : Prop :=
  ∀ answer, one = some answer → property answer

section Gives

variable {α β : Type} {property : α → Prop}

/-- Nothing is answered. -/
theorem Gives.none : Gives property none := nofun

/-- An answer that has the property. -/
theorem Gives.some {answer : α} (h : property answer) : Gives property (some answer) := by
  rintro _ ⟨rfl⟩
  exact h

/-- An answer that goes on from another. -/
theorem Gives.bind {one : Option β} {next : β → Option α} (h : ∀ b, Gives property (next b)) :
    Gives property (one >>= next) := by
  intro answer hanswer
  obtain ⟨b, -, hnext⟩ := Option.bind_eq_some_iff.1 hanswer
  exact h b answer hnext

/-- An answer of either kind. -/
theorem Gives.ite {condition : Prop} [Decidable condition] {one other : Option α}
    (hthen : Gives property one) (helse : Gives property other) :
    Gives property (if condition then one else other) := by
  split
  · exact hthen
  · exact helse

end Gives

section Kind

/-- A value is a number that may be written out: an integer, one in floating point, or a complex
one. -/
inductive IsNumber : Value → Prop
  /-- An integer. -/
  | int (n : Int) : IsNumber (.int n)
  /-- A number in floating point. -/
  | float (x : Float) : IsNumber (.float x)
  /-- A complex number. -/
  | complex (z : Number.Complex) : IsNumber (.complex z)

/-- A number that may end where it does is that number. -/
theorem givesNumber_numberBefore {v : Value} (hv : IsNumber v) (rest : List Char) :
    Gives (IsNumber ·.1) (numberBefore v rest) := by
  unfold numberBefore
  split
  · exact .some hv
  · exact .none

/-- The end of a decimal makes it a number. -/
theorem givesNumber_decimalEnd (decimal rest : List Char) :
    Gives (IsNumber ·.1) (decimalEnd decimal rest) := by
  unfold decimalEnd
  split
  · split
    · exact givesNumber_numberBefore (.complex _) _
    · exact givesNumber_numberBefore (.float _) _
  · exact givesNumber_numberBefore (.float _) []

/-- The digits of an exponent leave a number one. -/
theorem givesNumber_exponentDigits (mantissa cs : List Char) :
    Gives (IsNumber ·.1) (exponentDigits mantissa cs) := by
  unfold exponentDigits
  split
  · exact givesNumber_decimalEnd _ _
  · exact .none

/-- An exponent leaves a number one. -/
theorem givesNumber_exponentEnd (mantissa : List Char)
    {whole : List Char → Option (Value × List Char)}
    (hwhole : ∀ cs, Gives (IsNumber ·.1) (whole cs)) (cs : List Char) :
    Gives (IsNumber ·.1) (exponentEnd mantissa whole cs) := by
  rcases cs with _ | ⟨e, _ | ⟨c, more⟩⟩
  · exact hwhole []
  · simp only [exponentEnd]
    exact .ite (hwhole [e]) (hwhole [e])
  · rw [exponentEnd_cons]
    refine .ite (.ite ?_ (.ite ?_ ?_)) (hwhole _)
    · exact .ite (givesNumber_exponentDigits _ _) .none
    · exact givesNumber_exponentDigits _ _
    · exact hwhole _

/-- A fraction leaves a number one. -/
theorem givesNumber_fractionEnd (whole cs : List Char) :
    Gives (IsNumber ·.1) (fractionEnd whole cs) := by
  simp only [fractionEnd]
  split
  · exact .none
  · exact givesNumber_exponentEnd _ (fun rest => givesNumber_decimalEnd _ rest) _

/-- An integer with its base is a number. -/
theorem givesNumber_basedNumber? (bits : Nat) (digit : Char → Bool) (cs : List Char) :
    Gives (IsNumber ·.1) (basedNumber? bits digit cs) := by
  unfold basedNumber?
  split
  · split
    · exact .none
    · exact givesNumber_numberBefore (.int _) _
  · exact .none

/-- A decimal number is a number. -/
theorem givesNumber_decimalNumber? (cs : List Char) : Gives (IsNumber ·.1) (decimalNumber? cs) := by
  have hinteger : ∀ ds rest, Gives (IsNumber ·.1) (integerBefore ds rest) := by
    intro ds rest
    simp only [integerBefore]
    split
    · exact .none
    · split
      · exact .none
      · exact givesNumber_numberBefore (.int _) rest
  unfold decimalNumber?
  split
  · exact .none
  · unfold digitsEnd
    split
    · exact givesNumber_fractionEnd _ _
    · split
      · exact givesNumber_numberBefore (.complex _) _
      · exact givesNumber_exponentEnd _ (hinteger _) _
    · exact hinteger _ []

/-- A number that is written out is a number. -/
theorem givesNumber_number? (cs : List Char) : Gives (IsNumber ·.1) (number? cs) := by
  rw [number?_eq]
  split
  · exact givesNumber_basedNumber? _ _ _
  · exact givesNumber_basedNumber? _ _ _
  · exact givesNumber_basedNumber? _ _ _
  · exact givesNumber_decimalNumber? cs

end Kind

end Hashmark.Condition
