import Hashmark.Text.Class
import Hashmark.Text.Quoted

/-!
# Encodings

Texts as bytes in the four encodings that every host knows, and what a further encoding of a host
amounts to (`Codec`). Decoding is strict: the first sequence of bytes that the encoding does not
allow is reported with its place and its extent. In the signed form of UTF-8 a mark stands before
the text; writing always puts it there, and reading drops it when it is there.
-/

namespace Hashmark.Text

/-- An encoding of texts by bytes that every host knows. -/
inductive Encoding where
  /-- UTF-8. -/
  | utf8
  /-- UTF-8 behind a byte order mark. -/
  | signedUtf8
  /-- One byte for each of the first 256 characters. -/
  | latin1
  /-- One byte for each of the first 128 characters. -/
  | ascii
  deriving DecidableEq, Repr

/-- What is wrong with a sequence of bytes. -/
inductive MalformedBytes where
  /-- No character begins with this byte. -/
  | start
  /-- A byte that should continue a character does not. -/
  | continuation
  /-- The bytes end within a character. -/
  | truncated
  /-- A byte beyond the seven bits of ASCII. -/
  | ordinal
  /-- As a further encoding words it, by the name that it gives itself. -/
  | described (codec words : String)
  deriving DecidableEq, Repr

/-- The first fault of a sequence of bytes: its kind, its place, and the bytes it extends over. -/
structure DecodeError where
  /-- What is wrong. -/
  reason : MalformedBytes
  /-- How many bytes precede the fault. -/
  position : Nat
  /-- The bytes at fault. -/
  bytes : List UInt8
  deriving DecidableEq, Repr

/-- The wording of a kind of fault. -/
def MalformedBytes.message : MalformedBytes → String
  | .start => "invalid start byte"
  | .continuation => "invalid continuation byte"
  | .truncated => "unexpected end of data"
  | .ordinal => "ordinal not in range(128)"
  | .described _ words => words

/-- The name of the encoding that has a kind of fault. -/
def MalformedBytes.codec : MalformedBytes → String
  | .ordinal => "ascii"
  | .described codec _ => codec
  | _ => "utf-8"

/-- The report of a fault: codec, byte or bytes, place, and reason. -/
def DecodeError.message (e : DecodeError) : String :=
  let codec := "'" ++ e.reason.codec ++ "'"
  let place := match e.bytes with
    | [b] => "byte 0x" ++ String.ofList (hexDigits 2 b.toNat) ++ " in position " ++
        toString e.position
    | bytes => "bytes in position " ++ toString e.position ++ "-" ++
        toString (e.position + bytes.length - 1)
  codec ++ " codec can't decode " ++ place ++ ": " ++ e.reason.message

/-- Why an encoding gives no text for bytes. -/
inductive CodecError where
  /-- Some of the bytes write no character. -/
  | malformed (error : DecodeError)
  /-- The bytes are refused as a whole, in these words. -/
  | refused (words : String)
  deriving DecidableEq, Repr

/-- An encoding as a host provides it. -/
structure Codec where
  /-- The text that bytes write. -/
  decode : List UInt8 → Except CodecError String
  /-- The bytes that stand in a file to which a text has been written, if the text can be. -/
  encode : String → Option (List UInt8)

namespace Encoding

/-- A name in the form in which names of encodings are compared: ASCII letters small, and every run
of other characters between letters, digits and full stops a single low line. -/
def normalName (cs : List Char) : List Char :=
  let (done, _) := cs.foldl (fun (done, gap) c =>
    if isWord c && c != '_' || c = '.' then
      let done := if gap && !done.isEmpty then '_' :: done else done
      if c.toNat < 128 then (c.toLower :: done, false) else (done, false)
    else (done, true)) (([] : List Char), false)
  done.reverse

/-- The name that each encoding goes by first. -/
def name : Encoding → String
  | utf8 => "utf_8"
  | signedUtf8 => "utf_8_sig"
  | latin1 => "latin_1"
  | ascii => "ascii"

/-- The other names of each encoding. -/
def aliases : Encoding → List String
  | utf8 => ["u8", "utf", "utf8", "utf8_ucs2", "utf8_ucs4", "cp65001"]
  | signedUtf8 => []
  | latin1 => ["8859", "cp819", "csisolatin1", "ibm819", "iso8859", "iso8859_1", "iso_8859_1",
      "iso_8859_1_1987", "iso_ir_100", "l1", "latin", "latin1"]
  | ascii => ["646", "ansi_x3.4_1968", "ansi_x3_4_1968", "ansi_x3.4_1986", "cp367", "csascii",
      "ibm367", "iso646_us", "iso_646.irv_1991", "iso_ir_6", "us", "us_ascii"]

/-- Whether an encoding goes by a name in the form in which names are compared. In the other names a
full stop may stand for a low line. -/
def goesBy (encoding : Encoding) (normal : List Char) : Bool :=
  let dotless := normal.map fun c => if c = '.' then '_' else c
  encoding.name == String.ofList normal || encoding.aliases.contains (String.ofList normal) ||
    encoding.aliases.contains (String.ofList dotless)

/-- The encoding that goes by a name. -/
def ofName? (name : String) : Option Encoding :=
  [utf8, signedUtf8, latin1, ascii].find? fun e => e.goesBy (normalName name.toList)

/-- Whether a byte continues a character of UTF-8. -/
def continues (b : UInt8) : Bool :=
  128 ≤ b.toNat && b.toNat < 192

/-- The low six bits of a byte that continues a character. -/
def payload (b : UInt8) : Nat :=
  b.toNat % 64

/-- Whether the second byte of a character of three or four bytes may follow the first: it continues
a character, and the character is neither one that fewer bytes would write, nor a surrogate, nor
beyond the last code point. -/
def secondAllowed (first second : UInt8) : Bool :=
  continues second &&
    (first != 0xe0 || 0xa0 ≤ second.toNat) && (first != 0xed || second.toNat < 0xa0) &&
    (first != 0xf0 || 0x90 ≤ second.toNat) && (first != 0xf4 || second.toNat < 0x90)

/-- Puts a character before the text that the rest decodes to. -/
def prepend (n : Nat) (rest : Except DecodeError (List Char)) : Except DecodeError (List Char) :=
  rest.map (Char.ofNat n :: ·)

/-- The text that bytes write in UTF-8, the first of them at `position`. -/
def decodeUtf8 (position : Nat) : List UInt8 → Except DecodeError (List Char)
  | [] => .ok []
  | b0 :: rest0 =>
    if b0.toNat < 0x80 then prepend b0.toNat (decodeUtf8 (position + 1) rest0)
    -- These begin no character, or one that fewer bytes would write, or one beyond the last code
    -- point.
    else if b0.toNat < 0xc2 || 0xf5 ≤ b0.toNat then .error ⟨.start, position, [b0]⟩
    else match rest0 with
      | [] => .error ⟨.truncated, position, [b0]⟩
      | b1 :: rest1 =>
        -- How many bytes follow, the first byte tells.
        if b0.toNat < 0xe0 then
          if continues b1 then
            prepend (b0.toNat % 32 * 64 + payload b1) (decodeUtf8 (position + 2) rest1)
          else .error ⟨.continuation, position, [b0]⟩
        else if !secondAllowed b0 b1 then .error ⟨.continuation, position, [b0]⟩
        else match rest1 with
          | [] => .error ⟨.truncated, position, [b0, b1]⟩
          | b2 :: rest2 =>
            if !continues b2 then .error ⟨.continuation, position, [b0, b1]⟩
            else if b0.toNat < 0xf0 then
              prepend (b0.toNat % 16 * 4096 + payload b1 * 64 + payload b2)
                (decodeUtf8 (position + 3) rest2)
            else match rest2 with
              | [] => .error ⟨.truncated, position, [b0, b1, b2]⟩
              | b3 :: rest3 =>
                if continues b3 then
                  prepend (b0.toNat % 8 * 262144 + payload b1 * 4096 + payload b2 * 64 + payload b3)
                    (decodeUtf8 (position + 4) rest3)
                else .error ⟨.continuation, position, [b0, b1, b2]⟩

/-- The text that bytes write in ASCII, the first of them at `position`. -/
def decodeAscii (position : Nat) : List UInt8 → Except DecodeError (List Char)
  | [] => .ok []
  | b :: rest =>
    if b.toNat < 128 then prepend b.toNat (decodeAscii (position + 1) rest)
    else .error ⟨.ordinal, position, [b]⟩

/-- The byte order mark of UTF-8. -/
def signature : List UInt8 := [0xef, 0xbb, 0xbf]

/-- The text that bytes write behind an optional byte order mark. Bytes that end within the mark
write nothing, and places are counted from behind it. -/
def decodeSigned : List UInt8 → Except DecodeError (List Char)
  | 0xef :: 0xbb :: 0xbf :: rest => decodeUtf8 0 rest
  | [] | [0xef] | [0xef, 0xbb] => .ok []
  | bytes => decodeUtf8 0 bytes

/-- The text that bytes write. -/
def decode (encoding : Encoding) (bytes : List UInt8) : Except DecodeError String :=
  Except.map String.ofList <| match encoding with
    | utf8 => decodeUtf8 0 bytes
    | signedUtf8 => decodeSigned bytes
    | latin1 => .ok (bytes.map fun b => Char.ofNat b.toNat)
    | ascii => decodeAscii 0 bytes

/-- The bytes of a character in UTF-8. -/
def encodeChar (c : Char) : List UInt8 :=
  let n := c.toNat
  if n < 0x80 then [n.toUInt8]
  else if n < 0x800 then [(0xc0 + n / 64).toUInt8, (0x80 + n % 64).toUInt8]
  else if n < 0x10000 then
    [(0xe0 + n / 4096).toUInt8, (0x80 + n / 64 % 64).toUInt8, (0x80 + n % 64).toUInt8]
  else
    [(0xf0 + n / 262144).toUInt8, (0x80 + n / 4096 % 64).toUInt8, (0x80 + n / 64 % 64).toUInt8,
      (0x80 + n % 64).toUInt8]

/-- The bytes of a text in UTF-8. -/
def encodeUtf8 (text : String) : List UInt8 :=
  text.toList.flatMap encodeChar

/-- The bytes of characters that each fit one byte below `limit`. -/
def encodeSingle (limit : Nat) : List Char → Option (List UInt8)
  | [] => some []
  | c :: cs =>
    if c.toNat < limit then (encodeSingle limit cs).map (c.toNat.toUInt8 :: ·) else none

/-- The bytes that write a text, if the encoding has all its characters. -/
def encode (encoding : Encoding) (text : String) : Option (List UInt8) :=
  match encoding with
  | utf8 => some (encodeUtf8 text)
  | signedUtf8 => some (signature ++ encodeUtf8 text)
  | latin1 => encodeSingle 256 text.toList
  | ascii => encodeSingle 128 text.toList

/-- An encoding that every host knows, as a host provides it. -/
def codec (encoding : Encoding) : Codec where
  decode bytes := (encoding.decode bytes).mapError .malformed
  encode := encoding.encode

end Encoding

end Hashmark.Text
