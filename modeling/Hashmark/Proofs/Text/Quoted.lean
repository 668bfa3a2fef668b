import Hashmark.Text.Quoted
import Mathlib.Algebra.Group.Nat.Defs

/-!
# Reading quoted texts back

The quoted form of a text can be read back: `unescape` takes the form of one character off its
front (`unescape_escapeChar`). A quoted text therefore ends where its closing quote stands, whatever
follows it, and two of them are equal only if the texts are (`quoted_append_inj`). The same holds for
sequences of bytes.
-/

namespace Hashmark.Text

/-- The value of a hexadecimal digit in lower case. -/
def hexValue (c : Char) : Nat :=
  if c.toNat < 58 then c.toNat - 48 else c.toNat - 87

/-- The number that hexadecimal digits write. -/
def readHex (cs : List Char) : Nat :=
  cs.foldl (fun n c => 16 * n + hexValue c) 0

/-- How many hexadecimal digits follow a letter behind a backslash. -/
def escapeWidth? (mark : Char) : Option Nat :=
  if mark = 'x' then some 2 else if mark = 'u' then some 4 else if mark = 'U' then some 8 else none

/-- What a character behind a backslash stands for, if no digits follow it. -/
def escaped (mark : Char) : Char :=
  if mark = 'n' then '\n' else if mark = 'r' then '\r' else if mark = 't' then '\t' else mark

/-- Takes the form of one character off the front: the character, and what follows. -/
def unescape : List Char → Option (Char × List Char)
  | [] => none
  | [c] => some (c, [])
  | c :: mark :: rest =>
    if c = '\\' then
      match escapeWidth? mark with
      | some width => some (Char.ofNat (readHex (rest.take width)), rest.drop width)
      | none => some (escaped mark, rest)
    else some (c, mark :: rest)

/-- A hexadecimal digit has its value. -/
theorem hexValue_digitChar : ∀ d < 16, hexValue (Nat.digitChar d) = d := by decide

/-- The hexadecimal digits of a number are as many as they should be. -/
theorem length_hexDigits (width n : Nat) : (hexDigits width n).length = width := by
  induction width generalizing n with
  | zero => rfl
  | succ width ih => rw [hexDigits, List.length_append, ih, List.length_singleton]

/-- The hexadecimal digits of a number write it, if it has no more digits. -/
theorem readHex_hexDigits (width n : Nat) : readHex (hexDigits width n) = n % 16 ^ width := by
  induction width generalizing n with
  | zero => rw [Nat.pow_zero, Nat.mod_one]; rfl
  | succ width ih =>
    have hread : readHex (hexDigits width (n / 16) ++ [Nat.digitChar (n % 16)]) =
        16 * readHex (hexDigits width (n / 16)) + hexValue (Nat.digitChar (n % 16)) := by
      rw [readHex, List.foldl_append]
      rfl
    rw [hexDigits, hread, ih, hexValue_digitChar _ (Nat.mod_lt _ (by decide)),
      Nat.pow_succ', Nat.mod_mul, Nat.add_comm]

/-- The quote around a text is one of two. -/
theorem quoteFor_eq (cs : List Char) : quoteFor cs = '\'' ∨ quoteFor cs = '"' := by
  unfold quoteFor
  split
  · exact .inr rfl
  · exact .inl rfl

/-- An escape by size is read back. -/
theorem unescape_escapeCode {n : Nat} (h : n < 16 ^ 8) (rest : List Char) :
    unescape (escapeCode n ++ rest) = some (Char.ofNat n, rest) := by
  have key : ∀ mark width, escapeWidth? mark = some width → n < 16 ^ width →
      unescape ('\\' :: mark :: (hexDigits width n ++ rest)) = some (Char.ofNat n, rest) := by
    intro mark width hmark hn
    have htake : (hexDigits width n ++ rest).take width = hexDigits width n := by
      simp [length_hexDigits]
    have hdrop : (hexDigits width n ++ rest).drop width = rest := by
      simp [length_hexDigits]
    simp only [unescape, if_true, hmark, htake, hdrop, readHex_hexDigits, Nat.mod_eq_of_lt hn]
  unfold escapeCode
  split
  · exact key 'x' 2 rfl (by omega)
  · split
    · exact key 'u' 4 rfl (by omega)
    · exact key 'U' 8 rfl h

/-- A character is not beyond the last code point. -/
theorem toNat_lt (c : Char) : c.toNat < 16 ^ 8 := by
  have hvalid := c.valid
  simp only [UInt32.isValidChar, Nat.isValidChar] at hvalid
  simp only [Char.toNat]
  omega

/-- The form of a character is read back. -/
theorem unescape_escapeChar {quote : Char} (hquote : quote = '\'' ∨ quote = '"') (c : Char)
    (rest : List Char) : unescape (escapeChar quote c ++ rest) = some (c, rest) := by
  unfold escapeChar
  split
  case isTrue hc =>
    have hplain : escapeWidth? c = none ∧ escaped c = c := by
      obtain rfl | rfl := hquote <;> simp at hc <;> obtain rfl | rfl := hc <;> decide
    simp only [List.cons_append, List.nil_append, unescape, if_true, hplain]
  case isFalse hc =>
    split
    · subst c; rfl
    · split
      · subst c; rfl
      · split
        · subst c; rfl
        · split
          · simp at hc
            cases rest with
            | nil => rfl
            | cons mark rest =>
              simp only [List.cons_append, List.nil_append, unescape, if_neg hc.2]
          · rw [unescape_escapeCode (toNat_lt c), Char.ofNat_toNat]

/-- The form of a byte is read back as the character of the same size. -/
theorem unescape_escapeByte {quote : Char} (hquote : quote = '\'' ∨ quote = '"') (b : UInt8)
    (rest : List Char) :
    unescape (escapeByte quote b ++ rest) = some (Char.ofNat b.toNat, rest) := by
  unfold escapeByte
  split
  · split
    · subst b; rfl
    · split
      · subst b; rfl
      · split
        · subst b; rfl
        · exact unescape_escapeCode (by have := b.toNat_lt; omega) rest
  · exact unescape_escapeChar hquote _ rest

/-- The form of a character does not begin with the quote around it. -/
theorem head?_escapeChar {quote : Char} (hquote : quote = '\'' ∨ quote = '"') (c : Char) :
    ∃ first rest, escapeChar quote c = first :: rest ∧ first ≠ quote := by
  have hslash : '\\' ≠ quote := by obtain rfl | rfl := hquote <;> decide
  unfold escapeChar
  split
  · exact ⟨_, _, rfl, hslash⟩
  case isFalse hc =>
    simp at hc
    split
    · exact ⟨_, _, rfl, hslash⟩
    · split
      · exact ⟨_, _, rfl, hslash⟩
      · split
        · exact ⟨_, _, rfl, hslash⟩
        · split
          · exact ⟨_, _, rfl, hc.1⟩
          · unfold escapeCode
            split
            · exact ⟨_, _, rfl, hslash⟩
            · split <;> exact ⟨_, _, rfl, hslash⟩

/-- The form of a byte does not begin with the quote around it. -/
theorem head?_escapeByte {quote : Char} (hquote : quote = '\'' ∨ quote = '"') (b : UInt8) :
    ∃ first rest, escapeByte quote b = first :: rest ∧ first ≠ quote := by
  have hslash : '\\' ≠ quote := by obtain rfl | rfl := hquote <;> decide
  unfold escapeByte
  split
  · split
    · exact ⟨_, _, rfl, hslash⟩
    · split
      · exact ⟨_, _, rfl, hslash⟩
      · split
        · exact ⟨_, _, rfl, hslash⟩
        · unfold escapeCode
          split
          · exact ⟨_, _, rfl, hslash⟩
          · split <;> exact ⟨_, _, rfl, hslash⟩
  · exact head?_escapeChar hquote _

/-- Forms that can be read back one after another, none of which begins with the quote, end where
the quote first stands, and are equal only for equal members. -/
theorem flatMap_append_inj {α : Type} {form : α → List Char} {char : α → Char} {quote : Char}
    (hchar : ∀ a b, char a = char b → a = b)
    (hread : ∀ a rest, unescape (form a ++ rest) = some (char a, rest))
    (hhead : ∀ a, ∃ first rest, form a = first :: rest ∧ first ≠ quote)
    (items others : List α) {x y : List Char}
    (h : items.flatMap form ++ quote :: x = others.flatMap form ++ quote :: y) :
    items = others ∧ x = y := by
  induction items generalizing others with
  | nil =>
    cases others with
    | nil => exact ⟨rfl, (List.cons.inj h).2⟩
    | cons other others =>
      obtain ⟨first, rest, hform, hne⟩ := hhead other
      rw [List.flatMap_cons, hform] at h
      exact absurd (List.cons.inj h).1.symm hne
  | cons item items ih =>
    cases others with
    | nil =>
      obtain ⟨first, rest, hform, hne⟩ := hhead item
      rw [List.flatMap_cons, hform] at h
      exact absurd (List.cons.inj h).1 hne
    | cons other others =>
      rw [List.flatMap_cons, List.flatMap_cons, List.append_assoc, List.append_assoc] at h
      -- Reading takes the same form off on both sides.
      have hsame := congrArg unescape h
      rw [hread, hread] at hsame
      obtain ⟨hc, hrest⟩ := Prod.mk.inj (Option.some.inj hsame)
      obtain ⟨rfl, rfl⟩ := ih others hrest
      rw [hchar item other hc]
      exact ⟨rfl, rfl⟩

/-- The characters of a quoted text. -/
theorem toList_quoted (text : String) :
    (quoted text).toList = quoteFor text.toList ::
      (text.toList.flatMap (escapeChar (quoteFor text.toList)) ++ [quoteFor text.toList]) := by
  simp [quoted]

/-- The characters of a quoted sequence of bytes. -/
theorem toList_quotedBytes (bytes : List UInt8) : (quotedBytes bytes).toList =
    'b' :: quoteFor (bytes.map fun b => Char.ofNat b.toNat) ::
      (bytes.flatMap (escapeByte (quoteFor (bytes.map fun b => Char.ofNat b.toNat))) ++
        [quoteFor (bytes.map fun b => Char.ofNat b.toNat)]) := by
  simp [quotedBytes]

/-- A quoted text ends at its closing quote and determines the text. -/
theorem quoted_append_inj {text other : String} {x y : List Char}
    (h : (quoted text).toList ++ x = (quoted other).toList ++ y) : text = other ∧ x = y := by
  rw [toList_quoted, toList_quoted, List.cons_append, List.cons_append] at h
  obtain ⟨hquote, hrest⟩ := List.cons.inj h
  rw [← hquote, List.append_assoc, List.append_assoc] at hrest
  have hquotes := quoteFor_eq text.toList
  obtain ⟨htext, hxy⟩ := flatMap_append_inj (fun _ _ => id) (unescape_escapeChar hquotes)
    (head?_escapeChar hquotes) _ _ hrest
  exact ⟨String.toList_injective htext, hxy⟩

/-- The character of the size of a byte. -/
theorem toNat_ofNat_byte (b : UInt8) : (Char.ofNat b.toNat).toNat = b.toNat := by
  have hlt := b.toNat_lt
  have hv : b.toNat.isValidChar := .inl (by omega)
  rw [Char.ofNat, dif_pos hv]
  rfl

/-- Characters of the size of a byte determine the byte. -/
theorem ofNat_byte_inj {b c : UInt8} (h : Char.ofNat b.toNat = Char.ofNat c.toNat) : b = c := by
  have hnat := congrArg Char.toNat h
  rw [toNat_ofNat_byte, toNat_ofNat_byte] at hnat
  exact UInt8.toNat_inj.1 hnat

/-- A quoted sequence of bytes ends at its closing quote and determines the bytes. -/
theorem quotedBytes_append_inj {bytes others : List UInt8} {x y : List Char}
    (h : (quotedBytes bytes).toList ++ x = (quotedBytes others).toList ++ y) :
    bytes = others ∧ x = y := by
  rw [toList_quotedBytes, toList_quotedBytes] at h
  simp only [List.cons_append] at h
  obtain ⟨hquote, hrest⟩ := List.cons.inj (List.cons.inj h).2
  rw [← hquote, List.append_assoc, List.append_assoc] at hrest
  have hquotes := quoteFor_eq (bytes.map fun b => Char.ofNat b.toNat)
  exact flatMap_append_inj (fun _ _ => ofNat_byte_inj) (unescape_escapeByte hquotes)
    (head?_escapeByte hquotes) _ _ hrest

end Hashmark.Text
