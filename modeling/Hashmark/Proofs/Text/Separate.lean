import Hashmark.Text.Blank

/-!
# Parts of texts

Where one text follows another, the first one is known from its characters if all of them are of a
kind and what follows begins with one of another kind (`run_append_inj`). The same holds from the
end backwards (`append_run_inj`). What is dropped at the end of a text is a run of one kind
(`dropTrailing_append`), all of it if what stands in front ends in a character of another kind
(`dropTrailing_append_of_last`). Texts that a separator joins are the first one and the others
behind the separator (`toList_intercalate_cons`), what is before the first separator is cut off
there (`cut_append`), and what is behind all separators is the last field (`fields_append`,
`exists_fields_append`).
-/

namespace Hashmark.Text

/-- Texts of one kind of characters, each followed by nothing or by a character of another kind, are
equal if they are with what follows. -/
theorem run_append_inj {p : Char → Bool} {a b x y : List Char} (ha : ∀ c ∈ a, p c = true)
    (hb : ∀ c ∈ b, p c = true) (hx : ∀ c ∈ x.head?, p c = false) (hy : ∀ c ∈ y.head?, p c = false)
    (h : a ++ x = b ++ y) : a = b ∧ x = y := by
  induction a generalizing b with
  | nil =>
    cases b with
    | nil => exact ⟨rfl, h⟩
    | cons c b =>
      rw [List.nil_append] at h
      have hc := hx c (by rw [h]; rfl)
      rw [hb c List.mem_cons_self] at hc
      cases hc
  | cons c a ih =>
    cases b with
    | nil =>
      rw [List.nil_append] at h
      have hc := hy c (by rw [← h]; rfl)
      rw [ha c List.mem_cons_self] at hc
      cases hc
    | cons d b =>
      obtain ⟨rfl, htail⟩ := List.cons.inj h
      obtain ⟨rfl, rfl⟩ := ih (fun c hc => ha c (.tail _ hc)) (fun c hc => hb c (.tail _ hc)) htail
      exact ⟨rfl, rfl⟩

/-- Texts without a separator, each before one, are equal if they are with what stands behind. -/
theorem run_separator_inj {separator : Char} {a b x y : List Char} (ha : separator ∉ a)
    (hb : separator ∉ b) (h : a ++ separator :: x = b ++ separator :: y) : a = b ∧ x = y := by
  have hkind : ∀ {l : List Char}, separator ∉ l → ∀ c ∈ l, (c != separator) = true := by
    intro l hl c hc
    simpa using fun heq : c = separator => hl (heq ▸ hc)
  obtain ⟨hab, hxy⟩ := run_append_inj (hkind ha) (hkind hb) (by simp) (by simp) h
  exact ⟨hab, (List.cons.inj hxy).2⟩

/-- Texts without a separator, each behind one, are equal if they are with what stands before. -/
theorem append_run_inj {separator : Char} {a b x y : List Char} (ha : separator ∉ a)
    (hb : separator ∉ b) (h : x ++ separator :: a = y ++ separator :: b) : x = y ∧ a = b := by
  have hreverse := congrArg List.reverse h
  simp only [List.reverse_append, List.reverse_cons, List.append_assoc] at hreverse
  obtain ⟨hab, hxy⟩ := run_separator_inj (by simpa using ha) (by simpa using hb) hreverse
  exact ⟨List.reverse_inj.1 hxy, List.reverse_inj.1 hab⟩

/-- What is dropped at the end of a text satisfies the predicate. -/
theorem dropTrailing_append (p : Char → Bool) (cs : List Char) :
    ∃ rest, cs = dropTrailing p cs ++ rest ∧ ∀ c ∈ rest, p c = true := by
  induction cs with
  | nil => exact ⟨[], rfl, by simp⟩
  | cons c cs ih =>
    obtain ⟨rest, hrest, hp⟩ := ih
    have hdrop : dropTrailing p (c :: cs) =
        if (dropTrailing p cs).isEmpty && p c then [] else c :: dropTrailing p cs := rfl
    rw [hdrop]
    split
    case isTrue hempty =>
      simp only [Bool.and_eq_true, List.isEmpty_iff] at hempty
      rw [hempty.1, List.nil_append] at hrest
      refine ⟨c :: cs, rfl, ?_⟩
      intro d hd
      obtain rfl | hd := List.mem_cons.1 hd
      · exact hempty.2
      · exact hp d (hrest ▸ hd)
    · exact ⟨rest, by rw [List.cons_append, ← hrest], hp⟩

/-- Text at the end that satisfies the predicate is dropped. -/
theorem dropTrailing_append_of_all {p : Char → Bool} {rest : List Char}
    (h : ∀ c ∈ rest, p c = true) (cs : List Char) :
    dropTrailing p (cs ++ rest) = dropTrailing p cs := by
  have hrest : dropTrailing p rest = [] := by
    induction rest with
    | nil => rfl
    | cons c rest ih =>
      obtain ⟨hc, hrest⟩ := List.forall_mem_cons.1 h
      have hdrop : dropTrailing p (c :: rest) =
          if (dropTrailing p rest).isEmpty && p c then [] else c :: dropTrailing p rest := rfl
      rw [hdrop, ih hrest, hc]
      rfl
  unfold dropTrailing at hrest ⊢
  rw [List.foldr_append, hrest]

/-- A text that ends in a character that is kept is kept as a whole. -/
theorem dropTrailing_concat {p : Char → Bool} {last : Char} (h : p last = false)
    (cs : List Char) : dropTrailing p (cs ++ [last]) = cs ++ [last] := by
  induction cs with
  | nil => simp [dropTrailing, h]
  | cons c cs ih =>
    have hdrop : dropTrailing p (c :: (cs ++ [last])) =
        if (dropTrailing p (cs ++ [last])).isEmpty && p c then []
        else c :: dropTrailing p (cs ++ [last]) := rfl
    rw [List.cons_append, hdrop, ih]
    simp

/-- A text that does not end in a character of a kind is what is left in front of such
characters. -/
theorem dropTrailing_append_of_last {p : Char → Bool} {cs rest : List Char}
    (hrest : ∀ c ∈ rest, p c = true) (hlast : ∀ c ∈ cs.getLast?, p c = false) :
    dropTrailing p (cs ++ rest) = cs := by
  rw [dropTrailing_append_of_all hrest]
  obtain rfl | ⟨front, last, rfl⟩ := List.eq_nil_or_concat cs
  · rfl
  · rw [List.concat_eq_append] at hlast ⊢
    exact dropTrailing_concat (hlast last List.getLast?_concat) front

/-- What is left does not end in a character that is dropped. -/
theorem getLast?_dropTrailing (p : Char → Bool) (cs : List Char) :
    ∀ c ∈ (dropTrailing p cs).getLast?, p c = false := by
  induction cs with
  | nil => exact fun _ h => nomatch h
  | cons c cs ih =>
    have hdrop : dropTrailing p (c :: cs) =
        if (dropTrailing p cs).isEmpty && p c then [] else c :: dropTrailing p cs := rfl
    rw [hdrop]
    cases hcs : dropTrailing p cs with
    | nil => cases hc : p c <;> simp [hc]
    | cons d ds =>
      rw [hcs] at ih
      rw [List.isEmpty_cons, Bool.false_and, if_neg Bool.false_ne_true, List.getLast?_cons_cons]
      exact ih

/-- What is dropped at the end of a text that goes on behind it is dropped of what follows, unless
all of that is. -/
theorem dropTrailing_append_of_ne_nil {p : Char → Bool} {rest : List Char}
    (h : dropTrailing p rest ≠ []) (cs : List Char) :
    dropTrailing p (cs ++ rest) = cs ++ dropTrailing p rest := by
  induction cs with
  | nil => rfl
  | cons c cs ih =>
    have hdrop : dropTrailing p (c :: (cs ++ rest)) =
        if (dropTrailing p (cs ++ rest)).isEmpty && p c then []
        else c :: dropTrailing p (cs ++ rest) := rfl
    have hne : (cs ++ dropTrailing p rest).isEmpty = false := by simp [h]
    rw [List.cons_append, hdrop, ih, hne]
    rfl

/-- Stripping keeps the first character of a text that begins with no blank. -/
theorem head?_strip {c : Char} {cs : List Char} (hc : isBlank c = false) :
    (strip (String.ofList (c :: cs))).toList.head? = some c := by
  have hdrop : dropTrailing isBlank (c :: cs) =
      if (dropTrailing isBlank cs).isEmpty && isBlank c then []
      else c :: dropTrailing isBlank cs := rfl
  rw [strip, trimBoth, String.toList_ofList, String.toList_ofList, List.dropWhile_cons,
    if_neg (by simp [hc]), hdrop, hc, Bool.and_false, if_neg Bool.false_ne_true]
  rfl

/-- Stripping leaves nothing of a text without any character but blanks. -/
theorem strip_eq_empty {text : String} (h : ∀ c ∈ text.toList, isBlank c = true) :
    strip text = "" := by
  have hdrop : (text.toList ++ []).dropWhile isBlank = [] := List.dropWhile_append_of_pos h
  rw [List.append_nil] at hdrop
  rw [strip, trimBoth, hdrop]
  rfl

/-- Texts that a separator joins, as the first one and the others behind the separator. -/
theorem toList_intercalate_cons (separator text : String) (rest : List String) :
    (String.intercalate separator (text :: rest)).toList =
      text.toList ++ rest.flatMap fun r => separator.toList ++ r.toList := by
  induction rest generalizing text with
  | nil => simp
  | cons r rest ih =>
    rw [String.intercalate_cons_cons, String.toList_append, String.toList_append, ih]
    simp

/-- What is added to the last of texts that a separator joins stands at the end. -/
theorem intercalate_append_last (separator : String) (texts : List String) (last more : String) :
    String.intercalate separator (texts ++ [last ++ more]) =
      String.intercalate separator (texts ++ [last]) ++ more := by
  apply String.toList_injective
  cases texts with
  | nil => simp
  | cons text texts =>
    rw [List.cons_append, List.cons_append, toList_intercalate_cons, String.toList_append,
      toList_intercalate_cons]
    simp

/-- A text is cut at the separator behind a part that has none. -/
theorem cut_append {separator : Char} {cs : List Char} (h : separator ∉ cs) (rest : List Char) :
    cut separator (cs ++ separator :: rest) = (cs, some rest) := by
  induction cs with
  | nil => rw [List.nil_append, cut, if_pos rfl]
  | cons c cs ih =>
    simp only [List.mem_cons, not_or] at h
    rw [List.cons_append, cut, if_neg (Ne.symm h.1), ih h.2]

/-- A text without a separator is not cut. -/
theorem cut_of_notMem {separator : Char} {cs : List Char} (h : separator ∉ cs) :
    cut separator cs = (cs, none) := by
  induction cs with
  | nil => rfl
  | cons c cs ih =>
    simp only [List.mem_cons, not_or] at h
    rw [cut, if_neg (Ne.symm h.1), ih h.2]

/-- A field has no separator. -/
theorem notMem_of_mem_fields {separator : Char} {cs field : List Char}
    (h : field ∈ fields separator cs) : separator ∉ field := by
  induction cs generalizing field with
  | nil =>
    rw [fields, List.mem_singleton] at h
    simp [h]
  | cons c cs ih =>
    rw [fields] at h
    split at h
    · obtain rfl | h := List.mem_cons.1 h
      · simp
      · exact ih h
    case isFalse hc =>
      split at h
      · rw [List.mem_singleton.1 h, List.mem_singleton]
        exact Ne.symm hc
      case h_2 part parts hfields =>
        rw [hfields] at ih
        obtain rfl | h := List.mem_cons.1 h
        · rw [List.mem_cons, not_or]
          exact ⟨Ne.symm hc, ih List.mem_cons_self⟩
        · exact ih (.tail _ h)

/-- A text without a separator is one field. -/
theorem fields_of_notMem {separator : Char} {cs : List Char} (h : separator ∉ cs) :
    fields separator cs = [cs] := by
  induction cs with
  | nil => rfl
  | cons c cs ih =>
    rw [fields, if_neg fun heq : c = separator => h (heq ▸ List.mem_cons_self),
      ih fun hmem => h (.tail _ hmem)]

/-- The fields of a text that goes on without a separator differ in the last one only. -/
theorem fields_append (separator : Char) (cs : List Char) :
    ∃ before last, ∀ rest, separator ∉ rest →
      fields separator (cs ++ rest) = before ++ [last ++ rest] := by
  induction cs with
  | nil => exact ⟨[], [], fun rest h => fields_of_notMem h⟩
  | cons c cs ih =>
    obtain ⟨before, last, hfields⟩ := ih
    by_cases hc : c = separator
    · refine ⟨[] :: before, last, fun rest h => ?_⟩
      rw [List.cons_append, fields, if_pos hc, hfields rest h]
      rfl
    · cases before with
      | nil =>
        refine ⟨[], c :: last, fun rest h => ?_⟩
        rw [List.cons_append, fields, if_neg hc, hfields rest h]
        rfl
      | cons field before =>
        refine ⟨(c :: field) :: before, last, fun rest h => ?_⟩
        rw [List.cons_append, fields, if_neg hc, hfields rest h]
        rfl

/-- What stands behind a separator without another one is a field of its own, the last one. -/
theorem exists_fields_append {separator : Char} {rest : List Char} (h : separator ∉ rest)
    (cs : List Char) :
    ∃ first before, fields separator (cs ++ separator :: rest) = first :: before ++ [rest] := by
  induction cs with
  | nil => exact ⟨[], [], by rw [List.nil_append, fields, if_pos rfl, fields_of_notMem h]; rfl⟩
  | cons c cs ih =>
    obtain ⟨first, before, hfields⟩ := ih
    rw [List.cons_append, fields, hfields]
    by_cases hc : c = separator
    · exact ⟨[], first :: before, if_pos hc⟩
    · exact ⟨c :: first, before, if_neg hc⟩

end Hashmark.Text
