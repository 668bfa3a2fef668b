import Hashmark.Proofs.Text.Quoted
import Hashmark.Text.Encoding

/-!
# Writing texts as bytes and reading them back

A text that has been read in one of the four encodings can be written in it again, and reads back as
it was (`exists_encode`, `decode_encode`), which is all that is asked of an encoding
(`Codec.Faithful`). For UTF-8 this comes down to one character: its bytes
decode to it, whatever follows them (`decodeUtf8_encodeChar`). The mark in front of signed texts is
written each time and dropped each time.
-/

namespace Hashmark.Text

namespace Encoding

/-- A number below 256 is kept by a byte. -/
theorem toNat_toUInt8 {n : Nat} (h : n < 256) : n.toUInt8.toNat = n := by
  rw [Nat.toUInt8, UInt8.toNat_ofNat', Nat.mod_eq_of_lt h]

/-- The code point of a character is no surrogate and not beyond the last one. -/
theorem toNat_bounds (c : Char) : c.toNat < 0xd800 ∨ 0xdfff < c.toNat ∧ c.toNat < 0x110000 :=
  c.valid

/-- A byte continues a character if it is the mark of such a byte and six bits. -/
theorem continues_of_bounds {b : UInt8} (h : 0x80 ≤ b.toNat) (h' : b.toNat < 0xc0) :
    continues b = true := by
  simp only [continues, Bool.and_eq_true, decide_eq_true_eq]
  exact ⟨h, h'⟩

/-- Which second bytes may follow a first one, in numbers. -/
theorem secondAllowed_of_bounds {first second : UInt8} (h : 0x80 ≤ second.toNat)
    (h' : second.toNat < 0xc0) (he0 : first.toNat = 0xe0 → 0xa0 ≤ second.toNat)
    (hed : first.toNat = 0xed → second.toNat < 0xa0)
    (hf0 : first.toNat = 0xf0 → 0x90 ≤ second.toNat)
    (hf4 : first.toNat = 0xf4 → second.toNat < 0x90) : secondAllowed first second = true := by
  have hexcept : ∀ (byte : UInt8) {p : Prop} [Decidable p], (first.toNat = byte.toNat → p) →
      (first != byte || decide p) = true := by
    intro byte p _ hp
    by_cases hfirst : first = byte
    · simp [hp (congrArg UInt8.toNat hfirst)]
    · simp [hfirst]
  unfold secondAllowed
  rw [continues_of_bounds h h', hexcept 0xe0 he0, hexcept 0xed hed, hexcept 0xf0 hf0,
    hexcept 0xf4 hf4]
  rfl

/-- A byte that begins a character of several bytes, in numbers. -/
theorem starts_of_bounds {b : UInt8} (h : 0xc2 ≤ b.toNat) (h' : b.toNat < 0xf5) :
    ¬(b.toNat < 0xc2 || 0xf5 ≤ b.toNat) = true := by
  simp only [Bool.or_eq_true, decide_eq_true_eq]
  omega

section Decode

variable (position : Nat) {b0 b1 b2 b3 : UInt8} (rest : List UInt8)

/-- A character of one byte. -/
theorem decodeUtf8_one (h : b0.toNat < 0x80) :
    decodeUtf8 position (b0 :: rest) = prepend b0.toNat (decodeUtf8 (position + 1) rest) := by
  rw [decodeUtf8.eq_def]
  simp only
  rw [if_pos h]

/-- A character of two bytes. -/
theorem decodeUtf8_two (h : 0xc2 ≤ b0.toNat) (h' : b0.toNat < 0xe0) (h1 : continues b1 = true) :
    decodeUtf8 position (b0 :: b1 :: rest) =
      prepend (b0.toNat % 32 * 64 + payload b1) (decodeUtf8 (position + 2) rest) := by
  have hstart := starts_of_bounds (b := b0) (by omega) (by omega)
  rw [decodeUtf8.eq_def]
  simp only
  rw [if_neg (by omega), if_neg hstart, if_pos h', if_pos h1]

/-- A character of three bytes. -/
theorem decodeUtf8_three (h : 0xe0 ≤ b0.toNat) (h' : b0.toNat < 0xf0)
    (h1 : secondAllowed b0 b1 = true) (h2 : continues b2 = true) :
    decodeUtf8 position (b0 :: b1 :: b2 :: rest) =
      prepend (b0.toNat % 16 * 4096 + payload b1 * 64 + payload b2)
        (decodeUtf8 (position + 3) rest) := by
  have hstart := starts_of_bounds (b := b0) (by omega) (by omega)
  rw [decodeUtf8.eq_def]
  simp only
  rw [if_neg (by omega), if_neg hstart, if_neg (by omega), if_neg (by simp [h1]),
    if_neg (by simp [h2]), if_pos h']

/-- A character of four bytes. -/
theorem decodeUtf8_four (h : 0xf0 ≤ b0.toNat) (h' : b0.toNat < 0xf5)
    (h1 : secondAllowed b0 b1 = true) (h2 : continues b2 = true) (h3 : continues b3 = true) :
    decodeUtf8 position (b0 :: b1 :: b2 :: b3 :: rest) =
      prepend (b0.toNat % 8 * 262144 + payload b1 * 4096 + payload b2 * 64 + payload b3)
        (decodeUtf8 (position + 4) rest) := by
  have hstart := starts_of_bounds (b := b0) (by omega) (by omega)
  rw [decodeUtf8.eq_def]
  simp only
  rw [if_neg (by omega), if_neg hstart, if_neg (by omega), if_neg (by simp [h1]),
    if_neg (by simp [h2]), if_neg (by omega), if_pos h3]

/-- The bytes of a character decode to it, whatever follows them. -/
theorem decodeUtf8_encodeChar (c : Char) :
    ∃ next, decodeUtf8 position (encodeChar c ++ rest) = prepend c.toNat (decodeUtf8 next rest) := by
  have hbounds := toNat_bounds c
  simp only [encodeChar]
  generalize c.toNat = n at hbounds ⊢
  -- The bits are cut into groups of six, from the last one on; a byte with its group is no larger
  -- than a byte.
  have hlast : (0x80 + n % 64).toUInt8.toNat = 0x80 + n % 64 := toNat_toUInt8 (by omega)
  have hlast' : continues (0x80 + n % 64).toUInt8 = true :=
    continues_of_bounds (by omega) (by omega)
  -- How many bytes there are depends on how large the code is.
  by_cases h1 : n < 0x80
  · have h0 : n.toUInt8.toNat = n := toNat_toUInt8 (by omega)
    refine ⟨position + 1, ?_⟩
    rw [if_pos h1, List.singleton_append, decodeUtf8_one position rest (by omega), h0]
  · rw [if_neg h1]
    by_cases h2 : n < 0x800
    · have h0 : (0xc0 + n / 64).toUInt8.toNat = 0xc0 + n / 64 := toNat_toUInt8 (by omega)
      refine ⟨position + 2, ?_⟩
      have hn : (0xc0 + n / 64) % 32 * 64 + (0x80 + n % 64) % 64 = n := by omega
      rw [if_pos h2, List.cons_append, List.singleton_append,
        decodeUtf8_two position rest (by omega) (by omega) hlast', payload, h0, hlast, hn]
    · rw [if_neg h2]
      have hmiddle : (0x80 + n / 64 % 64).toUInt8.toNat = 0x80 + n / 64 % 64 :=
        toNat_toUInt8 (by omega)
      by_cases h3 : n < 0x10000
      · have h0 : (0xe0 + n / 4096).toUInt8.toNat = 0xe0 + n / 4096 := toNat_toUInt8 (by omega)
        refine ⟨position + 3, ?_⟩
        have hn : (0xe0 + n / 4096) % 16 * 4096 + (0x80 + n / 64 % 64) % 64 * 64 +
            (0x80 + n % 64) % 64 = n := by omega
        have hsecond : secondAllowed (0xe0 + n / 4096).toUInt8 (0x80 + n / 64 % 64).toUInt8 =
            true := by
          apply secondAllowed_of_bounds <;> omega
        rw [if_pos h3, List.cons_append, List.cons_append, List.singleton_append,
          decodeUtf8_three position rest (by omega) (by omega) hsecond hlast', payload, payload, h0,
          hmiddle, hlast, hn]
      · have h0 : (0xf0 + n / 262144).toUInt8.toNat = 0xf0 + n / 262144 :=
          toNat_toUInt8 (by omega)
        have h1' : (0x80 + n / 4096 % 64).toUInt8.toNat = 0x80 + n / 4096 % 64 :=
          toNat_toUInt8 (by omega)
        refine ⟨position + 4, ?_⟩
        have hn : (0xf0 + n / 262144) % 8 * 262144 + (0x80 + n / 4096 % 64) % 64 * 4096 +
            (0x80 + n / 64 % 64) % 64 * 64 + (0x80 + n % 64) % 64 = n := by omega
        have hsecond : secondAllowed (0xf0 + n / 262144).toUInt8
            (0x80 + n / 4096 % 64).toUInt8 = true := by
          apply secondAllowed_of_bounds <;> omega
        have hthird : continues (0x80 + n / 64 % 64).toUInt8 = true :=
          continues_of_bounds (by omega) (by omega)
        rw [if_neg h3, List.cons_append, List.cons_append, List.cons_append, List.singleton_append,
          decodeUtf8_four position rest (by omega) (by omega) hsecond hthird hlast', payload,
          payload, payload, h0, h1', hmiddle, hlast, hn]

end Decode

/-- A text reads back from its bytes in UTF-8. -/
theorem decodeUtf8_encodeUtf8 (position : Nat) (text : String) :
    decodeUtf8 position (encodeUtf8 text) = .ok text.toList := by
  unfold encodeUtf8
  induction text.toList generalizing position with
  | nil => simp [decodeUtf8]
  | cons c cs ih =>
    obtain ⟨next, hnext⟩ := decodeUtf8_encodeChar position (cs.flatMap encodeChar) c
    rw [List.flatMap_cons, hnext, ih, prepend, Char.ofNat_toNat]
    rfl

/-- The characters that an encoding has. -/
def Allows : Encoding → Char → Prop
  | utf8, _ => True
  | signedUtf8, _ => True
  | latin1, c => c.toNat < 256
  | ascii, c => c.toNat < 128

/-- Characters that fit one byte each can be written, and each byte is that of its character. -/
theorem encodeSingle_eq_some {limit : Nat} {cs : List Char} (h : ∀ c ∈ cs, c.toNat < limit) :
    encodeSingle limit cs = some (cs.map fun c => c.toNat.toUInt8) := by
  induction cs with
  | nil => rfl
  | cons c cs ih =>
    rw [encodeSingle, if_pos (h c List.mem_cons_self), ih fun d hd => h d (.tail _ hd)]
    rfl

/-- What can be written in one byte each are characters that fit. -/
theorem lt_of_encodeSingle {limit : Nat} {cs : List Char} {bytes : List UInt8}
    (h : encodeSingle limit cs = some bytes) : ∀ c ∈ cs, c.toNat < limit := by
  induction cs generalizing bytes with
  | nil => simp
  | cons c cs ih =>
    rw [encodeSingle] at h
    split at h
    case isTrue hc =>
      obtain ⟨rest, hrest, -⟩ := Option.map_eq_some_iff.1 h
      intro d hd
      obtain rfl | hd := List.mem_cons.1 hd
      · exact hc
      · exact ih hrest d hd
    case isFalse => cases h

/-- A text can be written in an encoding that has its characters. -/
theorem exists_encode {encoding : Encoding} {text : String}
    (h : ∀ c ∈ text.toList, encoding.Allows c) : ∃ bytes, encoding.encode text = some bytes := by
  cases encoding with
  | utf8 => exact ⟨_, rfl⟩
  | signedUtf8 => exact ⟨_, rfl⟩
  | latin1 => exact ⟨_, encodeSingle_eq_some h⟩
  | ascii => exact ⟨_, encodeSingle_eq_some h⟩

/-- What ASCII bytes write. -/
theorem decodeAscii_eq_ok {position : Nat} {bytes : List UInt8} {cs : List Char} :
    decodeAscii position bytes = .ok cs ↔
      (∀ b ∈ bytes, b.toNat < 128) ∧ bytes.map (fun b => Char.ofNat b.toNat) = cs := by
  induction bytes generalizing position cs with
  | nil => simp [decodeAscii]
  | cons b bytes ih =>
    rw [decodeAscii, List.forall_mem_cons, List.map_cons]
    split
    case isTrue hb =>
      rw [prepend]
      cases hrest : decodeAscii (position + 1) bytes with
      | error e =>
        have hnone : ¬∀ b ∈ bytes, b.toNat < 128 := by
          intro hall
          have hok := (@ih (position + 1) _).2 ⟨hall, rfl⟩
          rw [hrest] at hok
          cases hok
        simp [Except.map, hnone]
      | ok rest =>
        obtain ⟨hall, rfl⟩ := ih.1 hrest
        simp only [Except.map, Except.ok.injEq]
        exact ⟨fun h => ⟨⟨hb, hall⟩, h⟩, fun h => h.2⟩
    case isFalse hb => simp [hb]

/-- A text that has been read has only characters of the encoding. -/
theorem allows_of_decode {encoding : Encoding} {bytes : List UInt8} {text : String}
    (h : encoding.decode bytes = .ok text) : ∀ c ∈ text.toList, encoding.Allows c := by
  intro c hc
  cases encoding with
  | utf8 => trivial
  | signedUtf8 => trivial
  | latin1 =>
    obtain rfl := Except.ok.inj h
    rw [String.toList_ofList] at hc
    obtain ⟨b, -, rfl⟩ := List.mem_map.1 hc
    rw [Allows, toNat_ofNat_byte]
    exact b.toNat_lt
  | ascii =>
    rw [decode] at h
    cases hcs : decodeAscii 0 bytes with
    | error e =>
      simp only [hcs] at h
      cases h
    | ok cs =>
      simp only [hcs] at h
      obtain rfl := Except.ok.inj h
      obtain ⟨hall, rfl⟩ := decodeAscii_eq_ok.1 hcs
      rw [String.toList_ofList] at hc
      obtain ⟨b, hb, rfl⟩ := List.mem_map.1 hc
      rw [Allows, toNat_ofNat_byte]
      exact hall b hb

/-- Single bytes are the characters that they were made of. -/
theorem map_single {limit : Nat} (hlimit : limit ≤ 256) {cs : List Char} {bytes : List UInt8}
    (h : encodeSingle limit cs = some bytes) :
    (∀ b ∈ bytes, b.toNat < limit) ∧ bytes.map (fun b => Char.ofNat b.toNat) = cs := by
  have hcs := lt_of_encodeSingle h
  rw [encodeSingle_eq_some hcs] at h
  obtain rfl := Option.some.inj h
  have hbyte : ∀ c ∈ cs, c.toNat.toUInt8.toNat = c.toNat := fun c hc =>
    toNat_toUInt8 (Nat.lt_of_lt_of_le (hcs c hc) hlimit)
  refine ⟨?_, ?_⟩
  · intro b hb
    obtain ⟨c, hc, rfl⟩ := List.mem_map.1 hb
    rw [hbyte c hc]
    exact hcs c hc
  · rw [List.map_map]
    have hsame : cs.map ((fun b : UInt8 => Char.ofNat b.toNat) ∘ fun c => c.toNat.toUInt8) =
        cs.map id := by
      apply List.map_congr_left
      intro c hc
      rw [Function.comp_apply, hbyte c hc, Char.ofNat_toNat, id]
    rw [hsame, List.map_id]

/-- A text reads back from the bytes that write it. -/
theorem decode_encode {encoding : Encoding} {text : String} {bytes : List UInt8}
    (h : encoding.encode text = some bytes) : encoding.decode bytes = .ok text := by
  cases encoding with
  | utf8 =>
    obtain rfl := Option.some.inj h
    rw [decode, decodeUtf8_encodeUtf8, Except.map, String.ofList_toList]
  | signedUtf8 =>
    obtain rfl := Option.some.inj h
    have hmark : decodeSigned (signature ++ encodeUtf8 text) = decodeUtf8 0 (encodeUtf8 text) := rfl
    rw [decode, hmark, decodeUtf8_encodeUtf8, Except.map, String.ofList_toList]
  | latin1 =>
    obtain ⟨-, hmap⟩ := map_single (Nat.le_refl 256) h
    rw [decode, hmap, Except.map, String.ofList_toList]
  | ascii =>
    obtain ⟨hall, hmap⟩ := map_single (by decide) h
    rw [decode, decodeAscii_eq_ok.2 ⟨hall, hmap⟩, Except.map, String.ofList_toList]

end Encoding

namespace Codec

/-- A character stands in a text that the encoding reads. -/
def Reads (codec : Codec) (c : Char) : Prop :=
  ∃ bytes text, codec.decode bytes = .ok text ∧ c ∈ text.toList

/-- The encoding can write every text of characters that it reads, and reads the text back. -/
def Faithful (codec : Codec) : Prop :=
  ∀ text : String, (∀ c ∈ text.toList, codec.Reads c) →
    ∃ bytes, codec.encode text = some bytes ∧ codec.decode bytes = .ok text

end Codec

/-- As a host provides it, an encoding reads the same texts. -/
theorem Encoding.codec_decode_eq_ok {encoding : Encoding} {bytes : List UInt8} {text : String} :
    encoding.codec.decode bytes = .ok text ↔ encoding.decode bytes = .ok text := by
  show (encoding.decode bytes).mapError CodecError.malformed = .ok text ↔ _
  cases encoding.decode bytes with
  | error e => exact ⟨nofun, nofun⟩
  | ok found =>
    show (Except.ok found : Except CodecError String) = .ok text ↔ _
    rw [Except.ok.injEq, Except.ok.injEq]

/-- The encodings that every host knows can write what they read. -/
theorem Encoding.faithful_codec (encoding : Encoding) : encoding.codec.Faithful := by
  intro text htext
  have hallows : ∀ c ∈ text.toList, encoding.Allows c := by
    intro c hc
    obtain ⟨bytes, found, hdecode, hfound⟩ := htext c hc
    exact allows_of_decode (codec_decode_eq_ok.1 hdecode) c hfound
  obtain ⟨bytes, hbytes⟩ := exists_encode hallows
  exact ⟨bytes, hbytes, codec_decode_eq_ok.2 (decode_encode hbytes)⟩

end Hashmark.Text
