import Hashmark.Proofs.Value.Shown

/-!
# Bars in the texts of values

A bar in the text of a value stands between quotes. Read from its end, the text of a value tells
whether a character stands between quotes or outside of them (`scan`): a quote met outside is a
closing one, and the quote that it matches is the first of its kind that has no backslash before it.
Since no bar is met outside (`scan_shown`), a text that ends in a bar and the text of a value can be
taken apart in one way only (`bar_append_inj`).
-/

namespace Hashmark.Value

/-- Where the characters read from the end of a text lead to. -/
inductive Scan where
  /-- The next character stands outside of quotes. -/
  | outside
  /-- The next character stands before a closing quote. -/
  | within (quote : Char)
  /-- The last character read is a quote that is the opening one unless a backslash is next. -/
  | edge (quote : Char)
  /-- A bar stands outside of quotes. -/
  | exposed
  deriving DecidableEq

namespace Scan

/-- Reads a character that stands outside of quotes. -/
def enter (c : Char) : Scan :=
  if c = '\'' ∨ c = '"' then .within c else if c = '|' then .exposed else .outside

/-- Reads the next character towards the beginning. -/
def next (c : Char) : Scan → Scan
  | .outside => Scan.enter c
  | .within quote => if c = quote then .edge quote else .within quote
  | .edge quote => if c = '\\' then .within quote else Scan.enter c
  | .exposed => .exposed

/-- What has been read is complete: no quote is left to be matched, and no bar stands outside. -/
inductive Settled : Scan → Prop where
  /-- The next character stands outside. -/
  | outside : Settled .outside
  /-- The text begins with an opening quote. -/
  | edge (quote : Char) : Settled (.edge quote)

end Scan

open Scan

/-- Reads a text from its end. -/
def scan (cs : List Char) (s : Scan) : Scan :=
  cs.foldr Scan.next s

/-- A text is read after what follows it. -/
theorem scan_append (a b : List Char) (s : Scan) : scan (a ++ b) s = scan a (scan b s) :=
  List.foldr_append

/-- A character that is read last. -/
theorem scan_cons (c : Char) (cs : List Char) (s : Scan) :
    scan (c :: cs) s = Scan.next c (scan cs s) :=
  rfl

/-- A character that is neither a quote nor a bar nor a backslash. -/
def isPlain (c : Char) : Bool :=
  !(['\'', '"', '|', '\\'].contains c)

/-- Such a character leads outside, unless it stands within quotes. -/
theorem next_plain {c : Char} (hc : isPlain c = true) {s : Scan} (hs : Settled s) :
    Scan.next c s = .outside := by
  simp only [isPlain, List.contains_cons, List.contains_nil, Bool.or_false, Bool.not_eq_true',
    Bool.or_eq_false_iff, beq_eq_false_iff_ne] at hc
  have henter : Scan.enter c = .outside := by simp [Scan.enter, hc]
  cases hs with
  | outside => exact henter
  | edge quote => simp [Scan.next, hc, henter]

/-- Such characters stay outside. -/
theorem scan_plain {cs : List Char} (hcs : ∀ c ∈ cs, isPlain c = true) :
    scan cs .outside = .outside := by
  induction cs with
  | nil => rfl
  | cons c cs ih =>
    rw [scan_cons, ih fun d hd => hcs d (.tail _ hd)]
    exact next_plain (hcs c List.mem_cons_self) .outside

/-- Characters other than the quote stay within quotes. -/
theorem scan_within {quote : Char} {cs : List Char} (hcs : quote ∉ cs) :
    scan cs (.within quote) = .within quote := by
  induction cs with
  | nil => rfl
  | cons c cs ih =>
    rw [scan_cons, ih fun h => hcs (.tail _ h)]
    exact if_neg fun h : c = quote => hcs (h ▸ List.mem_cons_self)

/-- The characters of an escape by size are no quotes. -/
theorem quote_notMem_escapeCode {quote : Char} (hquote : quote = '\'' ∨ quote = '"') (n : ℕ) :
    quote ∉ Text.escapeCode n := by
  have hdigit : ∀ d < 16, Nat.digitChar d ≠ '\'' ∧ Nat.digitChar d ≠ '"' := by decide
  have hdigits : ∀ width n, quote ∉ Text.hexDigits width n := by
    intro width
    induction width with
    | zero => simp [Text.hexDigits]
    | succ width ih =>
      intro n hmem
      obtain hmem | hmem := List.mem_append.1 hmem
      · exact ih _ hmem
      · have hne := hdigit (n % 16) (Nat.mod_lt _ (by decide))
        rw [← List.mem_singleton.1 hmem] at hne
        obtain rfl | rfl := hquote
        · exact hne.1 rfl
        · exact hne.2 rfl
  unfold Text.escapeCode
  split
  · obtain rfl | rfl := hquote <;> simp [hdigits]
  · split <;> obtain rfl | rfl := hquote <;> simp [hdigits]

/-- The form of a character stays within quotes. -/
theorem scan_escapeChar {quote : Char} (hquote : quote = '\'' ∨ quote = '"') (c : Char) :
    scan (Text.escapeChar quote c) (.within quote) = .within quote := by
  have hslash : '\\' ≠ quote := by obtain rfl | rfl := hquote <;> decide
  have hletter : ∀ d, d ≠ quote → scan ['\\', d] (.within quote) = .within quote := fun d hd =>
    scan_within (by simp [hslash.symm, hd.symm])
  have hne : ∀ d, d ≠ '\'' → d ≠ '"' → d ≠ quote := by
    rintro d hd hd' rfl
    obtain rfl | rfl := hquote
    · exact hd rfl
    · exact hd' rfl
  unfold Text.escapeChar
  split
  case isTrue hc =>
    by_cases hq : c = quote
    · -- A backslash before a quote means that the quote closes nothing.
      simp [scan, Scan.next, hq]
    · exact hletter c hq
  case isFalse hc =>
    simp only [Bool.or_eq_true, decide_eq_true_eq, not_or] at hc
    split
    -- A control character is written as a backslash and a letter, which is no quote.
    · exact hletter 'n' (hne _ (by decide) (by decide))
    · split
      · exact hletter 'r' (hne _ (by decide) (by decide))
      · split
        · exact hletter 't' (hne _ (by decide) (by decide))
        · split
          · exact scan_within (by simpa using fun h : quote = c => hc.1 h.symm)
          · exact scan_within (quote_notMem_escapeCode hquote _)

/-- The form of a byte stays within quotes. -/
theorem scan_escapeByte {quote : Char} (hquote : quote = '\'' ∨ quote = '"') (b : UInt8) :
    scan (Text.escapeByte quote b) (.within quote) = .within quote := by
  have hletter : ∀ d, d ≠ '\'' → d ≠ '"' → scan ['\\', d] (.within quote) = .within quote := by
    intro d hd hd'
    apply scan_within
    obtain rfl | rfl := hquote <;> simp [hd.symm, hd'.symm]
  unfold Text.escapeByte
  split
  · split
    · exact hletter 't' (by decide) (by decide)
    · split
      · exact hletter 'n' (by decide) (by decide)
      · split
        · exact hletter 'r' (by decide) (by decide)
        · exact scan_within (quote_notMem_escapeCode hquote _)
  · exact scan_escapeChar hquote _

/-- Forms that stay within quotes do so one after another, up to the opening quote. -/
theorem scan_enclosed {α : Type} {form : α → List Char} {quote : Char}
    (hquote : quote = '\'' ∨ quote = '"')
    (hform : ∀ a, scan (form a) (.within quote) = .within quote) (items : List α) :
    scan (quote :: (items.flatMap form ++ [quote])) .outside = .edge quote := by
  have hbody : scan (items.flatMap form) (.within quote) = .within quote := by
    induction items with
    | nil => rfl
    | cons a items ih => rw [List.flatMap_cons, scan_append, ih, hform]
  have hclose : scan [quote] .outside = .within quote := by
    obtain rfl | rfl := hquote <;> rfl
  rw [scan_cons, scan_append, hclose, hbody]
  exact if_pos rfl

/-- A quoted text has no bar outside. -/
theorem scan_quoted (s : String) : Settled (scan (Text.quoted s).toList .outside) := by
  have hquote := Text.quoteFor_eq s.toList
  rw [Text.toList_quoted, scan_enclosed hquote (scan_escapeChar hquote)]
  exact .edge _

/-- A quoted sequence of bytes has no bar outside. -/
theorem scan_quotedBytes (bs : List UInt8) :
    Settled (scan (Text.quotedBytes bs).toList .outside) := by
  have hquote := Text.quoteFor_eq (bs.map fun b => Char.ofNat b.toNat)
  rw [Text.toList_quotedBytes, scan_cons, scan_enclosed hquote (scan_escapeByte hquote),
    next_plain (by decide) (.edge _)]
  exact .outside

/-- Texts separated by commas have no bar outside if none of them has one. -/
theorem scan_commaSeparated {ss : List String}
    (hss : ∀ s ∈ ss, Settled (scan s.toList .outside)) :
    Settled (scan (commaSeparated ss).toList .outside) := by
  have htail : ∀ {ss : List String}, (∀ s ∈ ss, Settled (scan s.toList .outside)) →
      scan (ss.flatMap fun s => ',' :: ' ' :: s.toList) .outside = .outside := by
    intro ss hss
    induction ss with
    | nil => rfl
    | cons s ss ih =>
      rw [List.flatMap_cons, scan_append, ih fun r hr => hss r (.tail _ hr), scan_cons, scan_cons,
        next_plain (by decide) (hss s List.mem_cons_self), next_plain (by decide) .outside]
  cases ss with
  | nil => exact .outside
  | cons s ss =>
    rw [toList_commaSeparated, scan_append, htail fun r hr => hss r (.tail _ hr)]
    exact hss s List.mem_cons_self

/-- Texts separated by commas between brackets have no bar outside if none of them has one. -/
theorem scan_bracketed (before : List Char) {after : List Char} {ss : List String}
    (hbefore : before.all isPlain = true) (hne : before ≠ []) (hafter : after.all isPlain = true)
    (hss : ∀ s ∈ ss, Settled (scan s.toList .outside)) :
    scan (before ++ ((commaSeparated ss).toList ++ after)) .outside = .outside := by
  rw [scan_append, scan_append, scan_plain (List.all_eq_true.1 hafter)]
  have hsettled := scan_commaSeparated hss
  generalize scan (commaSeparated ss).toList .outside = s at hsettled ⊢
  obtain ⟨rest, c, rfl⟩ := List.eq_nil_or_concat' before |>.resolve_left hne
  have hplain := List.all_eq_true.1 hbefore
  rw [scan_append, scan_cons]
  rw [show scan [] s = s from rfl, next_plain (hplain c (by simp)) hsettled]
  exact scan_plain fun d hd => hplain d (by simp [hd])

/-- No character of a name or a number is a quote, a bar, or a backslash. -/
theorem isPlain_of_isBare {c : Char} (h : isBare c = true) : isPlain c = true := by
  have hplain : ['\'', '"', '|', '\\'].all (!isBare ·) = true := by decide
  rw [isPlain, Bool.not_eq_true', ← Bool.not_eq_true, List.contains_iff_mem]
  intro hmem
  have hbare := List.all_eq_true.1 hplain c hmem
  rw [h] at hbare
  cases hbare

/-- The texts of members have no bar outside if those of each one have none. -/
theorem settled_of_forall₂ {α : Type} {Shows : α → String → Prop} {as : List α}
    {ss : List String} (hss : List.Forall₂ Shows as ss)
    (has : ∀ a ∈ as, ∀ ⦃s⦄, Shows a s → Settled (scan s.toList .outside)) :
    ∀ s ∈ ss, Settled (scan s.toList .outside) := by
  induction hss with
  | nil => simp
  | cons ha _ ih =>
    intro s hs
    obtain rfl | hs := List.mem_cons.1 hs
    · exact has _ List.mem_cons_self ha
    · exact ih (fun a hmem => has a (.tail _ hmem)) s hs

/-- The text of an entry has no bar outside if those of its key and its value have none. -/
theorem scan_entry {entry : Value × Value} {s : String} (h : ShowsEntry entry s)
    (hkey : ∀ ⦃t⦄, entry.1.shown? = some t → Settled (scan t.toList .outside))
    (hvalue : ∀ ⦃t⦄, entry.2.shown? = some t → Settled (scan t.toList .outside)) :
    Settled (scan s.toList .outside) := by
  obtain ⟨key, value, hk, hv, rfl⟩ := h
  have htext : (key ++ ": " ++ value).toList = key.toList ++ ':' :: ' ' :: value.toList := by simp
  rw [htext, scan_append, scan_cons, scan_cons, next_plain (by decide) (hvalue hv),
    next_plain (by decide) .outside]
  exact hkey hk

/-- The text of a value has no bar outside of quotes. -/
theorem scan_shown (v : Value) {t : String} (h : v.shown? = some t) :
    Settled (scan t.toList .outside) := by
  induction v using induction_parts generalizing t with
  | step v ih =>
  have houtside : ∀ {cs : List Char}, scan cs .outside = .outside → Settled (scan cs .outside) := by
    intro cs hcs
    rw [hcs]
    exact .outside
  -- No bare character is a quote or a bar, so that there is nothing to scan in names and numbers.
  have hscalar : opening v = Option.none → Settled (scan t.toList .outside) := by
    intro hnone
    have hspec := opening_spec h
    rw [hnone] at hspec
    exact houtside (scan_plain fun c hc => isPlain_of_isBare (hspec.1 c hc))
  cases v with
  | none => exact hscalar rfl
  | ellipsis => exact hscalar rfl
  | bool b => exact hscalar rfl
  | int n => exact hscalar rfl
  | float x => exact hscalar rfl
  | complex z =>
    cases hz : isImaginary z with
    | true => exact hscalar (by rw [opening, if_pos hz])
    | false =>
      obtain rfl := Option.some.inj h
      -- Between its parentheses the number is written in bare characters.
      have htext : (complexText z).toList = ['('] ++ (((partText z.re).toList ++
          (signedPart (partText z.im).toList ++ ['j'])) ++ [')']) := by
        rw [toList_complexText hz]
        simp
      rw [htext]
      apply houtside
      apply scan_plain
      intro c hc
      obtain hc | hc := List.mem_append.1 hc
      · obtain rfl := List.mem_singleton.1 hc
        rfl
      · obtain hc | hc := List.mem_append.1 hc
        · exact isPlain_of_isBare (isBare_parts z c hc)
        · obtain rfl := List.mem_singleton.1 hc
          rfl
  | text s =>
    obtain rfl := Option.some.inj h
    exact scan_quoted s
  | bytes bs =>
    obtain rfl := Option.some.inj h
    exact scan_quotedBytes bs
  | tuple items =>
    obtain ⟨ss, hss, ht⟩ := shown?_tuple h
    rw [ht]
    apply houtside
    -- The comma behind the member of a tuple of one is as plain as the parenthesis.
    have hend : (tupleEnd ss).all isPlain = true := by
      unfold tupleEnd
      split <;> decide
    exact scan_bracketed ['('] (by decide) (by decide) hend
      (settled_of_forall₂ (shownItems?_eq_some hss) ih)
  | list items =>
    obtain ⟨ss, hss, ht⟩ := shown?_list h
    rw [ht]
    exact houtside (scan_bracketed ['['] (by decide) (by decide) (by decide)
      (settled_of_forall₂ (shownItems?_eq_some hss) ih))
  | set items =>
    cases items with
    | nil =>
      obtain rfl := Option.some.inj h
      exact houtside (by decide)
    | cons p items =>
      obtain ⟨ss, hss, ht⟩ := shown?_set h
      rw [ht]
      exact houtside (scan_bracketed ['\x7b'] (by decide) (by decide) (by decide)
        (settled_of_forall₂ (shownItems?_eq_some hss) ih))
  | dict entries =>
    obtain ⟨ss, hss, ht⟩ := shown?_dict h
    rw [ht]
    apply houtside
    apply scan_bracketed ['\x7b'] (by decide) (by decide) (by decide)
    apply settled_of_forall₂ (shownEntries?_eq_some hss)
    -- A key and its value are parts alike.
    intro entry hentry s hs
    exact scan_entry hs (fun t => ih _ (List.mem_flatMap.2 ⟨entry, hentry, List.mem_cons_self⟩))
      (fun t => ih _ (List.mem_flatMap.2 ⟨entry, hentry, .tail _ List.mem_cons_self⟩))

/-- A text that ends in a bar and a text without a bar outside is taken apart in one way only. -/
theorem bar_append_inj {a b x y : List Char} (ha : scan a .outside = .outside)
    (hb : scan b .outside = .outside) (h : x ++ '|' :: a = y ++ '|' :: b) : x = y ∧ a = b := by
  have hexposed : ∀ z cs, scan cs .outside = .outside →
      scan (z ++ '|' :: cs) .outside ≠ .outside := by
    intro z cs hcs
    have hstays : scan z .exposed = .exposed := by
      induction z with
      | nil => rfl
      | cons c z ih => rw [scan_cons, ih]; rfl
    rw [scan_append, scan_cons, hcs, show Scan.next '|' .outside = .exposed from rfl, hstays]
    decide
  obtain ⟨z, hy, hrest⟩ | ⟨z, hx, hrest⟩ := List.append_eq_append_iff.1 h
  · cases z with
    | nil => exact ⟨by rw [hy, List.append_nil], (List.cons.inj hrest).2⟩
    | cons c z =>
      rw [(List.cons.inj hrest).2] at ha
      exact absurd ha (hexposed z b hb)
  · cases z with
    | nil => exact ⟨by rw [hx, List.append_nil], (List.cons.inj hrest).2.symm⟩
    | cons c z =>
      rw [(List.cons.inj hrest).2] at hb
      exact absurd hb (hexposed z a ha)

end Hashmark.Value
