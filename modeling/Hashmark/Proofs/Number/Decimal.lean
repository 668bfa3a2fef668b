import Hashmark.Proofs.Number.Shortest
import Hashmark.Proofs.Text.Separate

/-!
# Reading decimal notation back

Decimal notation is a numeral: digits, a point and more digits or neither, and an exponent or none
(`Numeral`). A numeral is determined by its text and ends where that goes on in no way a numeral
could (`Numeral.text_append_inj`). The text of a number is a numeral whose value is that of the
shortest digits (`exists_numeral`). Since these are rounded to one number only, a text that writes a
number determines it (`writes_append_inj`).
-/

namespace Hashmark.Number

/-- The parts of a number in decimal notation. -/
@[ext]
structure Numeral where
  /-- The digits before the point. -/
  whole : List Char
  /-- The digits behind it; there is no point if there are none. -/
  fraction : List Char
  /-- Whether the sign of the exponent is minus, and its digits. -/
  exponent : Option (Bool × List Char)

namespace Numeral

/-- All characters are digits. -/
def AllDigits (cs : List Char) : Prop :=
  ∀ c ∈ cs, c.isDigit = true

/-- A numeral has digits only, and at least one before the point and in the exponent. -/
structure Valid (n : Numeral) : Prop where
  /-- What stands before the point are digits. -/
  whole : AllDigits n.whole
  /-- There is a digit before the point. -/
  whole_ne : n.whole ≠ []
  /-- What stands behind the point are digits. -/
  fraction : AllDigits n.fraction
  /-- The exponent consists of digits. -/
  exponent : ∀ e ∈ n.exponent, AllDigits e.2
  /-- There is a digit in the exponent. -/
  exponent_ne : ∀ e ∈ n.exponent, e.2 ≠ []

/-- A fraction behind its point. -/
def pointed : List Char → List Char
  | [] => []
  | digits => '.' :: digits

/-- A fraction with digits has a point before it. -/
theorem pointed_of_ne_nil {digits : List Char} (h : digits ≠ []) :
    pointed digits = '.' :: digits := by
  cases digits with
  | nil => exact absurd rfl h
  | cons c digits => rfl

/-- An exponent behind its mark and its sign. -/
def marked : Option (Bool × List Char) → List Char
  | none => []
  | some (negative, digits) => 'e' :: (if negative then '-' else '+') :: digits

/-- The text of a numeral. -/
def text (n : Numeral) : List Char :=
  n.whole ++ (pointed n.fraction ++ marked n.exponent)

/-- The power of ten that an exponent stands for. -/
def power : Option (Bool × List Char) → ℤ
  | none => 0
  | some (negative, digits) =>
    if negative then -Nat.ofDigitChars 10 digits 0 else Nat.ofDigitChars 10 digits 0

/-- The number that a numeral writes. -/
def value (n : Numeral) : ℚ :=
  Nat.ofDigitChars 10 (n.whole ++ n.fraction) 0 * 10 ^ (power n.exponent - n.fraction.length)

/-- A text goes on in no way that a numeral could. -/
def Ends (rest : List Char) : Prop :=
  ∀ c ∈ rest.head?, c.isDigit = false ∧ c ≠ '.' ∧ c ≠ 'e'

/-- What stands behind a fraction begins with no digit. -/
theorem head?_marked (exponent : Option (Bool × List Char)) {rest : List Char} (h : Ends rest) :
    ∀ c ∈ (marked exponent ++ rest).head?, c.isDigit = false := by
  cases exponent with
  | none => exact fun c hc => (h c hc).1
  | some e => simp [marked]

/-- What stands behind the digits before the point begins with no digit. -/
theorem head?_rest (fraction : List Char) (exponent : Option (Bool × List Char))
    {rest : List Char} (h : Ends rest) :
    ∀ c ∈ (pointed fraction ++ (marked exponent ++ rest)).head?, c.isDigit = false := by
  cases fraction with
  | nil => exact head?_marked exponent h
  | cons c fraction => simp [pointed]

/-- An exponent is determined by its text. -/
theorem marked_append_inj {e e' : Option (Bool × List Char)} (he : ∀ p ∈ e, AllDigits p.2)
    (he' : ∀ p ∈ e', AllDigits p.2) {x y : List Char} (hx : Ends x) (hy : Ends y)
    (h : marked e ++ x = marked e' ++ y) : e = e' ∧ x = y := by
  cases e with
  | none =>
    cases e' with
    | none => exact ⟨rfl, h⟩
    | some e' =>
      -- One text would end where the letter of an exponent stands.
      obtain rfl : x = marked (some e') ++ y := h
      exact absurd rfl (hx 'e' rfl).2.2
  | some e =>
    cases e' with
    | none =>
      obtain rfl : marked (some e) ++ x = y := h
      exact absurd rfl (hy 'e' rfl).2.2
    | some e' =>
      obtain ⟨negative, digits⟩ := e
      obtain ⟨negative', digits'⟩ := e'
      obtain ⟨hsign, hrest⟩ := List.cons.inj (List.cons.inj h).2
      obtain ⟨rfl, rfl⟩ := Text.run_append_inj (he _ rfl) (he' _ rfl) (fun c hc => (hx c hc).1)
        (fun c hc => (hy c hc).1) hrest
      obtain rfl : negative = negative' := by
        cases negative <;> cases negative' <;> first | rfl | cases hsign
      exact ⟨rfl, rfl⟩

/-- A text with a point does not begin with an exponent or with what follows a numeral. -/
theorem point_ne {exponent : Option (Bool × List Char)} {x y : List Char} (hx : Ends x) :
    marked exponent ++ x ≠ '.' :: y := by
  intro h
  cases exponent with
  | none =>
    obtain rfl : x = '.' :: y := h
    exact absurd rfl (hx '.' rfl).2.1
  | some e => cases h

/-- A numeral is determined by its text, and ends where that goes on in no way a numeral could. -/
theorem text_append_inj {n m : Numeral} (hn : n.Valid) (hm : m.Valid) {x y : List Char}
    (hx : Ends x) (hy : Ends y) (h : n.text ++ x = m.text ++ y) : n = m ∧ x = y := by
  simp only [text, List.append_assoc] at h
  -- The digits in front end at a point, at the letter of an exponent, or at the end of the numeral.
  obtain ⟨hwhole, hrest⟩ := Text.run_append_inj hn.whole hm.whole (head?_rest _ _ hx)
    (head?_rest _ _ hy) h
  cases hf : n.fraction with
  | nil =>
    cases hf' : m.fraction with
    | nil =>
      rw [hf, hf'] at hrest
      obtain ⟨hexponent, hxy⟩ := marked_append_inj hn.exponent hm.exponent hx hy hrest
      exact ⟨Numeral.ext hwhole (hf.trans hf'.symm) hexponent, hxy⟩
    | cons c digits =>
      rw [hf, hf'] at hrest
      -- One numeral has a point where the other ends or has an exponent.
      exact absurd hrest (point_ne hx)
  | cons c digits =>
    cases hf' : m.fraction with
    | nil =>
      rw [hf, hf'] at hrest
      exact absurd hrest.symm (point_ne hy)
    | cons c' digits' =>
      rw [hf, hf'] at hrest
      obtain ⟨hdigits, hmarked⟩ := Text.run_append_inj (hf ▸ hn.fraction) (hf' ▸ hm.fraction)
        (head?_marked _ hx) (head?_marked _ hy) (List.cons.inj hrest).2
      obtain ⟨hexponent, hxy⟩ := marked_append_inj hn.exponent hm.exponent hx hy hmarked
      exact ⟨Numeral.ext hwhole (hf.trans (hdigits.trans hf'.symm)) hexponent, hxy⟩

/-- The text of a numeral has no second point, and none behind the mark of an exponent. -/
theorem point_notMem {n : Numeral} (hn : n.Valid) : '.' ∉ n.fraction ++ marked n.exponent := by
  intro hmem
  obtain hmem | hmem := List.mem_append.1 hmem
  · exact absurd (hn.fraction _ hmem) (by decide)
  · cases he : n.exponent with
    | none =>
      rw [he] at hmem
      cases hmem
    | some e =>
      rw [he] at hmem
      obtain h | hmem := List.mem_cons.1 hmem
      · cases h
      · obtain h | hmem := List.mem_cons.1 hmem
        · split at h <;> cases h
        · exact absurd (hn.exponent _ he _ hmem) (by decide)

/-- A numeral whose text ends in a point and a zero has that fraction and no exponent. -/
theorem fraction_of_text {n : Numeral} (hn : n.Valid) {sign before : List Char}
    (h : sign ++ n.text = before ++ ['.', '0']) (hsign : '.' ∉ sign) :
    n.fraction = ['0'] ∧ n.exponent = none ∧ before = sign ++ n.whole := by
  have hpoint := point_notMem hn
  cases hf : n.fraction with
  | nil =>
    -- Without a fraction there is no point in the text.
    have hmem : '.' ∈ sign ++ n.text := by rw [h]; simp
    rw [text, hf] at hmem
    rw [hf] at hpoint
    simp only [pointed, List.nil_append, List.mem_append] at hmem hpoint
    obtain hmem | hmem | hmem := hmem
    · exact absurd hmem hsign
    · exact absurd (hn.whole _ hmem) (by decide)
    · exact absurd hmem hpoint
  | cons c digits =>
    rw [text, hf] at h
    rw [hf] at hpoint
    have hsplit : (sign ++ n.whole) ++ '.' :: (c :: digits ++ marked n.exponent) =
        before ++ '.' :: ['0'] := by simpa [pointed] using h
    -- The text has only one point, so that what is in front of it is the same, and what is behind.
    obtain ⟨hbefore, hrest⟩ := Text.append_run_inj hpoint (by decide) hsplit
    obtain ⟨rfl, hnil⟩ := List.cons.inj hrest
    obtain ⟨rfl, hmarked⟩ := List.append_eq_nil_iff.1 hnil
    refine ⟨rfl, ?_, hbefore.symm⟩
    cases he : n.exponent with
    | none => rfl
    | some e =>
      rw [he] at hmarked
      cases hmarked

end Numeral

/-- Zeros behind digits multiply the number that they write. -/
theorem ofDigitChars_append_zeros (digits : List Char) (k : ℕ) :
    Nat.ofDigitChars 10 (digits ++ List.replicate k '0') 0 =
      10 ^ k * Nat.ofDigitChars 10 digits 0 := by
  rw [Nat.ofDigitChars_append, Nat.ofDigitChars_replicate_zero]

/-- Zeros before digits do not change the number that they write. -/
theorem ofDigitChars_zeros_append (k : ℕ) (digits : List Char) :
    Nat.ofDigitChars 10 (List.replicate k '0' ++ digits) 0 = Nat.ofDigitChars 10 digits 0 := by
  rw [Nat.ofDigitChars_append, Nat.ofDigitChars_replicate_zero, Nat.mul_zero]

/-- The digits without zeros at the end, with the number of those before the point, write what the
digits do. -/
theorem Digits.normal_spec {d : Digits} (hne : d.digits ≠ 0) :
    Numeral.AllDigits d.normal.1 ∧ d.normal.1 ≠ [] ∧
      (Nat.ofDigitChars 10 d.normal.1 0 : ℚ) * 10 ^ (d.normal.2 - d.normal.1.length) = d.value := by
  obtain ⟨rest, hall, hzero⟩ := Text.dropTrailing_append (· == '0') (Nat.toDigits 10 d.digits)
  have hrest : rest = List.replicate rest.length '0' :=
    List.eq_replicate_iff.2 ⟨rfl, fun c hc => by simpa using hzero c hc⟩
  have hdigits := Nat.ofDigitChars_ten_toDigits (n := d.digits)
  have hnormal : d.normal = (Text.dropTrailing (· == '0') (Nat.toDigits 10 d.digits),
    d.power + (Nat.toDigits 10 d.digits).length) := rfl
  simp only [hnormal, Digits.value]
  generalize Text.dropTrailing (· == '0') (Nat.toDigits 10 d.digits) = digits at hall ⊢
  -- Zeros at the end multiply the digits in front of them by a power of ten,
  have hvalue : d.digits = 10 ^ rest.length * Nat.ofDigitChars 10 digits 0 := by
    rw [← ofDigitChars_append_zeros, ← hrest, ← hall, hdigits]
  refine ⟨?_, ?_, ?_⟩
  · intro c hc
    apply Nat.isDigit_of_mem_toDigits (b := 10) (n := d.digits) (by decide) (by decide)
    rw [hall]
    exact List.mem_append_left _ hc
  · rintro rfl
    exact hne (by rw [hvalue, Nat.ofDigitChars_nil, Nat.mul_zero])
  -- which the number of places makes up for.
  · have hlength : d.power + (Nat.toDigits 10 d.digits).length - digits.length =
        rest.length + d.power := by
      rw [hall, List.length_append]
      push_cast
      ring
    rw [hlength, hvalue, zpow_add₀ (by norm_num), zpow_natCast]
    push_cast
    ring

/-- Digits with their point are a numeral of the same value. -/
theorem positional_numeral {digits : List Char} (hdigits : Numeral.AllDigits digits)
    (hne : digits ≠ []) (places : ℤ) :
    ∃ n : Numeral, n.Valid ∧ n.text = positional digits places ∧ n.fraction ≠ [] ∧
      n.value = Nat.ofDigitChars 10 digits 0 * 10 ^ (places - digits.length) := by
  have hzeros : ∀ k, Numeral.AllDigits (List.replicate k '0') := by
    intro k c hc
    rw [List.eq_of_mem_replicate hc]
    rfl
  have hzero : Numeral.AllDigits ['0'] := hzeros 1
  have happend : ∀ {a b : List Char}, Numeral.AllDigits a → Numeral.AllDigits b →
      Numeral.AllDigits (a ++ b) := fun ha hb c hc => (List.mem_append.1 hc).elim (ha c) (hb c)
  have hpositive := List.length_pos_iff.2 hne
  unfold positional
  split
  -- The point is in front of all digits: zeros fill up the places behind it.
  case isTrue hsmall =>
    have hfraction : List.replicate (-places).toNat '0' ++ digits ≠ [] := by simp [hne]
    refine ⟨⟨['0'], List.replicate (-places).toNat '0' ++ digits, none⟩,
      ⟨hzero, by simp, happend (hzeros _) hdigits, by simp, by simp⟩, ?_, hfraction, ?_⟩
    · simp only [Numeral.text, Numeral.marked, List.append_nil]
      rw [Numeral.pointed_of_ne_nil hfraction]
      rfl
    · have hlength : (0 : ℤ) - (List.replicate (-places).toNat '0' ++ digits).length =
          places - digits.length := by
        rw [List.length_append, List.length_replicate]
        omega
      simp only [Numeral.value, Numeral.power]
      rw [hlength, ← List.append_assoc, ← List.replicate_one, List.replicate_append_replicate,
        ofDigitChars_zeros_append]
  case isFalse hlarge =>
    simp only
    split
    -- The point is behind all digits: zeros fill up the places in front of it.
    case isTrue hwhole =>
      refine ⟨⟨digits ++ List.replicate (places.toNat - digits.length) '0', ['0'], none⟩,
        ⟨happend hdigits (hzeros _), by simp [hne], hzero, by simp, by simp⟩, ?_, by simp, ?_⟩
      · simp [Numeral.text, Numeral.pointed, Numeral.marked]
      · have hexponent : places - digits.length =
            ((places.toNat - digits.length + 1 : ℕ) : ℤ) + (0 - (1 : ℕ)) := by omega
        simp only [Numeral.value, Numeral.power, List.length_singleton]
        rw [List.append_assoc, ← List.replicate_one, List.replicate_append_replicate,
          ofDigitChars_append_zeros, hexponent, zpow_add₀ (by norm_num), zpow_natCast]
        push_cast
        ring
    -- The point is between digits.
    case isFalse hwhole =>
      refine ⟨⟨digits.take places.toNat, digits.drop places.toNat, none⟩,
        ⟨fun c hc => hdigits c (List.mem_of_mem_take hc), ?_,
          fun c hc => hdigits c (List.mem_of_mem_drop hc), by simp, by simp⟩, ?_, ?_, ?_⟩
      · simp [hne]
        omega
      · have hfraction : digits.drop places.toNat ≠ [] := by simp; omega
        simp only [Numeral.text, Numeral.marked, List.append_nil]
        rw [Numeral.pointed_of_ne_nil hfraction]
      · simp
        omega
      · have hlength : (0 : ℤ) - (digits.drop places.toNat).length = places - digits.length := by
          rw [List.length_drop]
          omega
        simp only [Numeral.value, Numeral.power]
        rw [hlength, List.take_append_drop]

/-- Digits with an exponent are a numeral of the same value. -/
theorem exponential_numeral {digits : List Char} (hdigits : Numeral.AllDigits digits)
    (hne : digits ≠ []) (places : ℤ) :
    ∃ n : Numeral, n.Valid ∧ n.text = exponential digits places ∧ n.exponent ≠ none ∧
      n.value = Nat.ofDigitChars 10 digits 0 * 10 ^ (places - digits.length) := by
  obtain ⟨d, rest, rfl⟩ := List.exists_cons_of_ne_nil hne
  have hpower : Numeral.AllDigits (Nat.toDigits 10 (places - 1).natAbs) := fun c hc =>
    Nat.isDigit_of_mem_toDigits (by decide) (by decide) hc
  have hread := Nat.ofDigitChars_ten_toDigits (n := (places - 1).natAbs)
  generalize hgen : Nat.toDigits 10 (places - 1).natAbs = power at hpower hread
  -- An exponent of one digit gets a zero in front, which does not change it.
  have hpadded : Numeral.AllDigits (if power.length < 2 then '0' :: power else power) ∧
      Nat.ofDigitChars 10 (if power.length < 2 then '0' :: power else power) 0 =
        (places - 1).natAbs ∧ (if power.length < 2 then '0' :: power else power) ≠ [] := by
    split
    · refine ⟨?_, ?_, by simp⟩
      · intro c hc
        obtain rfl | hc := List.mem_cons.1 hc
        · rfl
        · exact hpower c hc
      · rw [← hread]
        exact ofDigitChars_zeros_append 1 power
    case isFalse hlong => exact ⟨hpower, hread, by rintro rfl; simp at hlong⟩
  refine ⟨⟨[d], rest, some (decide (places - 1 < 0),
    if power.length < 2 then '0' :: power else power)⟩, ⟨?_, by simp, ?_, ?_, ?_⟩, ?_, by simp, ?_⟩
  · exact fun c hc => hdigits c (by simp at hc; simp [hc])
  · exact fun c hc => hdigits c (.tail _ hc)
  · rintro e he
    obtain rfl := Option.some.inj he
    exact hpadded.1
  · rintro e he
    obtain rfl := Option.some.inj he
    exact hpadded.2.2
  · simp only [exponential, hgen, Numeral.text, Numeral.marked, decide_eq_true_eq]
    cases rest <;> rfl
  -- There is one digit in front of the point, so that the exponent is one less than the places.
  · have hexponent : Numeral.power (some (decide (places - 1 < 0),
        if power.length < 2 then '0' :: power else power)) = places - 1 := by
      simp only [Numeral.power, hpadded.2.1]
      by_cases hless : places - 1 < 0
      · simp only [hless, decide_true, if_true]
        omega
      · simp only [hless, decide_false, Bool.false_eq_true, if_false]
        omega
    simp only [Numeral.value, hexponent, List.singleton_append, List.length_cons]
    congr 2
    push_cast
    ring

/-- What is rounded to a number other than zero is positive. -/
theorem Binary.Rounds.pos {b : Binary} (hne : b.mantissa ≠ 0) {q : ℚ} (h : b.Rounds q) : 0 < q := by
  have hmantissa : (1 : ℚ) ≤ b.mantissa := by exact_mod_cast Nat.one_le_iff_ne_zero.2 hne
  have hreach : (b.reach : ℚ) ≤ 2 := by exact_mod_cast b.reach_le
  have hlow : 0 < b.low := by
    apply mul_pos
    · linarith
    · positivity
  exact hlow.trans_le h.le.1

/-- A numeral reads back as the size of a number. -/
structure Binary.Reads (b : Binary) (n : Numeral) : Prop where
  /-- It consists of digits. -/
  valid : n.Valid
  /-- It is zero for zero. -/
  zero : b.mantissa = 0 → n.value = 0
  /-- It is rounded to the number otherwise. -/
  rounds : b.mantissa ≠ 0 → b.Rounds n.value

/-- The size of a finite number in decimal notation. -/
def Binary.sizeText (b : Binary) : List Char :=
  if b.mantissa = 0 then ['0', '.', '0']
  else if -4 < (shortest b).normal.2 && (shortest b).normal.2 ≤ 16 then
    positional (shortest b).normal.1 (shortest b).normal.2
  else exponential (shortest b).normal.1 (shortest b).normal.2

/-- The size of a finite number is written as a numeral that reads back as it, and with a point or
an exponent. -/
theorem exists_numeral {b : Binary} (hb : b.Canonical) :
    ∃ n : Numeral, b.Reads n ∧ n.text = b.sizeText ∧ (n.fraction ≠ [] ∨ n.exponent ≠ none) := by
  have hzero : Numeral.AllDigits ['0'] := by simp [Numeral.AllDigits]
  unfold Binary.sizeText
  -- Where the point is close to the digits it is written with them, and otherwise with an exponent.
  split
  case isTrue hmantissa =>
    refine ⟨⟨['0'], ['0'], none⟩, ⟨⟨hzero, by simp, hzero, by simp, by simp⟩, fun _ => ?_,
      fun hne => absurd hmantissa hne⟩, rfl, .inl (by simp)⟩
    simp [Numeral.value, Nat.ofDigitChars]
  case isFalse hmantissa =>
    have hrounds := shortest_rounds hb hmantissa
    -- A number that is not zero is not written with zeros only.
    have hdigits : (shortest b).digits ≠ 0 := by
      intro hzero
      have hpos := hrounds.pos hmantissa
      rw [Digits.value, hzero, Nat.cast_zero, zero_mul] at hpos
      exact lt_irrefl _ hpos
    obtain ⟨hall, hne, hvalue⟩ := Digits.normal_spec hdigits
    rw [← hvalue] at hrounds
    split
    · obtain ⟨n, hn, htext, hfraction, hsame⟩ := positional_numeral hall hne (shortest b).normal.2
      exact ⟨n, ⟨hn, fun h => absurd h hmantissa, fun _ => hsame ▸ hrounds⟩, htext, .inl hfraction⟩
    · obtain ⟨n, hn, htext, hexponent, hsame⟩ :=
        exponential_numeral hall hne (shortest b).normal.2
      exact ⟨n, ⟨hn, fun h => absurd h hmantissa, fun _ => hsame ▸ hrounds⟩, htext, .inr hexponent⟩

/-- A numeral reads back as the size of one number only. -/
theorem Binary.Reads.inj {b b' : Binary} (hb : b.Canonical) (hb' : b'.Canonical) {n : Numeral}
    (h : b.Reads n) (h' : b'.Reads n) : b.mantissa = b'.mantissa ∧ b.exponent = b'.exponent := by
  have hleast : ∀ {c : Binary}, c.Canonical → c.mantissa = 0 → c.exponent = -1074 := by
    intro c hc hzero
    by_contra hne
    have hlead := hc.leading hne
    omega
  by_cases hzero : b.mantissa = 0
  · by_cases hzero' : b'.mantissa = 0
    · exact ⟨hzero.trans hzero'.symm, (hleast hb hzero).trans (hleast hb' hzero').symm⟩
    · have hpos := (h'.rounds hzero').pos hzero'
      rw [h.zero hzero] at hpos
      exact absurd hpos (lt_irrefl _)
  · by_cases hzero' : b'.mantissa = 0
    · have hpos := (h.rounds hzero).pos hzero
      rw [h'.zero hzero'] at hpos
      exact absurd hpos (lt_irrefl _)
    · exact rounds_inj hb hb' (h.rounds hzero) (h'.rounds hzero')

/-- The sign before a numeral. -/
def signText (negative : Bool) : List Char :=
  if negative then ['-'] else []

/-- What an infinite number is written as, or one that is none. -/
def specialText (x : Float) : List Char :=
  if x.isNaN then ['n', 'a', 'n'] else if isNegative x then ['-', 'i', 'n', 'f'] else ['i', 'n', 'f']

/-- A text writes a number: a sign and a numeral that reads back as its size, or the name of what is
not finite. -/
def Writes (cs : List Char) (x : Float) : Prop :=
  match Binary.ofFloat? x with
  | none => cs = specialText x
  | some b => ∃ n, b.Reads n ∧ cs = signText b.negative ++ n.text

/-- A numeral begins with a digit. -/
theorem Numeral.Valid.text_eq_cons {n : Numeral} (hn : n.Valid) :
    ∃ d rest, n.text = d :: rest ∧ d.isDigit = true := by
  obtain ⟨d, rest, hwhole⟩ := List.exists_cons_of_ne_nil hn.whole_ne
  refine ⟨d, rest ++ (Numeral.pointed n.fraction ++ Numeral.marked n.exponent), ?_, ?_⟩
  · rw [Numeral.text, hwhole, List.cons_append]
  · exact hn.whole d (by rw [hwhole]; exact List.mem_cons_self)

/-- The text of what is not finite is not the beginning of a signed numeral. -/
theorem signed_ne_special {n : Numeral} (hn : n.Valid) (negative : Bool) (z : Float)
    (x y : List Char) : signText negative ++ n.text ++ x ≠ specialText z ++ y := by
  obtain ⟨d, rest, htext, hd⟩ := hn.text_eq_cons
  have hletter : d ≠ 'n' ∧ d ≠ 'i' ∧ d ≠ '-' := by
    refine ⟨?_, ?_, ?_⟩ <;> rintro rfl <;> cases hd
  rw [htext]
  unfold signText specialText
  split <;> split <;> try split
  all_goals simp [hletter]

/-- A sign and a numeral are determined by their text. -/
theorem signed_append_inj {n m : Numeral} (hn : n.Valid) (hm : m.Valid) {negative negative' : Bool}
    {x y : List Char} (hx : Numeral.Ends x) (hy : Numeral.Ends y)
    (h : signText negative ++ n.text ++ x = signText negative' ++ m.text ++ y) :
    negative = negative' ∧ n = m ∧ x = y := by
  obtain ⟨d, rest, htext, hd⟩ := hn.text_eq_cons
  obtain ⟨d', rest', htext', hd'⟩ := hm.text_eq_cons
  cases negative with
  | false =>
    cases negative' with
    | false => exact ⟨rfl, Numeral.text_append_inj hn hm hx hy h⟩
    | true =>
      rw [htext] at h
      obtain ⟨rfl, -⟩ := List.cons.inj h
      cases hd
  | true =>
    cases negative' with
    | false =>
      rw [htext'] at h
      obtain ⟨rfl, -⟩ := List.cons.inj h
      cases hd'
    | true => exact ⟨rfl, Numeral.text_append_inj hn hm hx hy (List.cons.inj h).2⟩

/-- What is not finite is determined by its name. -/
theorem specialText_append_inj {a b : Float} (ha : Binary.ofFloat? a = none)
    (hb : Binary.ofFloat? b = none) {x y : List Char}
    (h : specialText a ++ x = specialText b ++ y) : a = b ∧ x = y := by
  have hsame : (a.isNaN = b.isNaN ∧ (a.isNaN = false → isNegative a = isNegative b)) ∧ x = y := by
    unfold specialText at h
    split at h <;> split at h <;> try split at h <;> try split at h
    all_goals simp_all
  exact ⟨eq_of_ofFloat?_none ha hb hsame.1.1 hsame.1.2, hsame.2⟩

/-- A text writes one number only, and ends where it goes on in no way that a numeral could. -/
theorem writes_append_inj {cs cs' : List Char} {a b : Float} (ha : Writes cs a)
    (hb : Writes cs' b) {x y : List Char} (hx : Numeral.Ends x) (hy : Numeral.Ends y)
    (h : cs ++ x = cs' ++ y) : a = b ∧ x = y := by
  unfold Writes at ha hb
  cases hba : Binary.ofFloat? a with
  | none =>
    cases hbb : Binary.ofFloat? b with
    | none =>
      simp only [hba, hbb] at ha hb
      subst ha hb
      exact specialText_append_inj hba hbb h
    | some b' =>
      simp only [hba, hbb] at ha hb
      obtain ⟨m, hm, rfl⟩ := hb
      subst ha
      -- A special value is written in letters, and a numeral begins with a digit.
      exact absurd h.symm (signed_ne_special hm.valid _ _ _ _)
  | some a' =>
    cases hbb : Binary.ofFloat? b with
    | none =>
      simp only [hba, hbb] at ha hb
      obtain ⟨n, hn, rfl⟩ := ha
      subst hb
      exact absurd h (signed_ne_special hn.valid _ _ _ _)
    | some b' =>
      simp only [hba, hbb] at ha hb
      obtain ⟨n, hn, rfl⟩ := ha
      obtain ⟨m, hm, rfl⟩ := hb
      obtain ⟨hnegative, rfl, rfl⟩ := signed_append_inj hn.valid hm.valid hx hy h
      -- One numeral is rounded to one number only.
      obtain ⟨hmantissa, hexponent⟩ := hn.inj (Binary.canonical_of_ofFloat? hba)
        (Binary.canonical_of_ofFloat? hbb) hm
      have hsame : a' = b' := by
        cases a'
        cases b'
        simp_all
      exact ⟨Binary.ofFloat?_inj hba (hsame ▸ hbb), rfl⟩

/-- The characters of a finite number are its sign and its size. -/
theorem toList_floatText {x : Float} {b : Binary} (h : Binary.ofFloat? x = some b) :
    (floatText x).toList = signText b.negative ++ b.sizeText := by
  rw [floatText, h]
  cases hsign : b.negative <;> simp [signText, Binary.sizeText, hsign]

/-- The characters of what is not finite are its name. -/
theorem toList_floatText_special {x : Float} (h : Binary.ofFloat? x = none) :
    (floatText x).toList = specialText x := by
  rw [floatText, h, specialText]
  simp only
  split
  · rfl
  · split <;> rfl

/-- The text of a number writes it. -/
theorem writes_floatText (x : Float) : Writes (floatText x).toList x := by
  unfold Writes
  cases h : Binary.ofFloat? x with
  | none => exact toList_floatText_special h
  | some b =>
    obtain ⟨n, hn, htext, -⟩ := exists_numeral (Binary.canonical_of_ofFloat? h)
    exact ⟨n, hn, by rw [toList_floatText h, htext]⟩

/-- The text of a number is not that of an integer: it holds a point, the mark of an exponent, or a
letter. -/
theorem exists_mark_floatText (x : Float) :
    ∃ c ∈ (floatText x).toList, c = '.' ∨ c = 'e' ∨ c = 'n' := by
  cases h : Binary.ofFloat? x with
  | none =>
    refine ⟨'n', ?_, .inr (.inr rfl)⟩
    rw [toList_floatText_special h, specialText]
    split
    · simp
    · split <;> simp
  | some b =>
    obtain ⟨n, -, htext, hmark⟩ := exists_numeral (Binary.canonical_of_ofFloat? h)
    rw [toList_floatText h, ← htext, Numeral.text]
    obtain hfraction | hexponent := hmark
    · refine ⟨'.', ?_, .inl rfl⟩
      rw [Numeral.pointed_of_ne_nil hfraction]
      simp
    · obtain ⟨e, he⟩ := Option.ne_none_iff_exists'.1 hexponent
      refine ⟨'e', ?_, .inr (.inl rfl)⟩
      rw [he]
      simp [Numeral.marked]

/-- The characters that numbers are written with. -/
def isNumberChar (c : Char) : Bool :=
  c.isDigit || ['.', 'e', '+', '-', 'n', 'a', 'i', 'f'].contains c

/-- Digits are characters of numbers. -/
theorem isNumberChar_of_isDigit {c : Char} (h : c.isDigit = true) : isNumberChar c = true := by
  rw [isNumberChar, h, Bool.true_or]

/-- A numeral has no other characters than those of numbers. -/
theorem Numeral.Valid.isNumberChar {n : Numeral} (hn : n.Valid) {c : Char} (hc : c ∈ n.text) :
    Number.isNumberChar c = true := by
  rw [Numeral.text] at hc
  -- Digits in front, then a point and further digits, then an exponent.
  obtain hc | hc := List.mem_append.1 hc
  · exact isNumberChar_of_isDigit (hn.whole c hc)
  · obtain hc | hc := List.mem_append.1 hc
    · cases hf : n.fraction with
      | nil =>
        rw [hf] at hc
        cases hc
      | cons d digits =>
        rw [hf] at hc
        obtain rfl | hc := List.mem_cons.1 hc
        · rfl
        · exact isNumberChar_of_isDigit (hn.fraction c (hf ▸ hc))
    · cases he : n.exponent with
      | none =>
        rw [he] at hc
        cases hc
      | some e =>
        rw [he] at hc
        obtain rfl | hc := List.mem_cons.1 hc
        · rfl
        · obtain rfl | hc := List.mem_cons.1 hc
          · split <;> rfl
          · exact isNumberChar_of_isDigit (hn.exponent e he c hc)

/-- A text that writes a number has no other characters than those of numbers. -/
theorem Writes.isNumberChar {cs : List Char} {x : Float} (h : Writes cs x) :
    ∀ c ∈ cs, Number.isNumberChar c = true := by
  intro c hc
  unfold Writes at h
  cases hb : Binary.ofFloat? x with
  | none =>
    simp only [hb] at h
    rw [h, specialText] at hc
    revert c
    split
    · exact List.all_eq_true.1 (by decide)
    · split <;> exact List.all_eq_true.1 (by decide)
  | some b =>
    simp only [hb] at h
    obtain ⟨n, hn, rfl⟩ := h
    obtain hc | hc := List.mem_append.1 hc
    · rw [signText] at hc
      split at hc
      · obtain rfl := List.mem_singleton.1 hc
        rfl
      · cases hc
    · exact hn.valid.isNumberChar hc

/-- A text that writes a number is not empty. -/
theorem Writes.ne_nil {cs : List Char} {x : Float} (h : Writes cs x) : cs ≠ [] := by
  unfold Writes at h
  cases hb : Binary.ofFloat? x with
  | none =>
    simp only [hb] at h
    rw [h, specialText]
    split
    · simp
    · split <;> simp
  | some b =>
    simp only [hb] at h
    obtain ⟨n, hn, rfl⟩ := h
    obtain ⟨d, rest, htext, -⟩ := hn.valid.text_eq_cons
    simp [htext]

end Hashmark.Number
