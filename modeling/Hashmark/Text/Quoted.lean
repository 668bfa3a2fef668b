import Hashmark.Text.Class

/-!
# Quoted texts

The form in which messages and token lists show a text or a sequence of bytes: between quotes, on
one line, with everything that has no visible form escaped. Apostrophes enclose the text unless it
holds an apostrophe and no quotation mark. A backslash begins every escape and is itself escaped, so
the quoted form determines the text.
-/

namespace Hashmark.Text

/-- The last `width` hexadecimal digits of a number, in lower case. -/
def hexDigits : Nat → Nat → List Char
  | 0, _ => []
  | width + 1, n => hexDigits width (n / 16) ++ [Nat.digitChar (n % 16)]

/-- The quote that encloses a text: an apostrophe, or a quotation mark around a text that holds an
apostrophe and no quotation mark. -/
def quoteFor (cs : List Char) : Char :=
  if cs.contains '\'' && !cs.contains '"' then '"' else '\''

/-- The escape of a character that has no visible form, by its size. -/
def escapeCode (n : Nat) : List Char :=
  if n < 0x100 then '\\' :: 'x' :: hexDigits 2 n
  else if n < 0x10000 then '\\' :: 'u' :: hexDigits 4 n
  else '\\' :: 'U' :: hexDigits 8 n

/-- The form of one character between quotes `quote`. -/
def escapeChar (quote c : Char) : List Char :=
  if c = quote || c = '\\' then ['\\', c]
  else if c = '\n' then ['\\', 'n']
  else if c = '\r' then ['\\', 'r']
  else if c = '\t' then ['\\', 't']
  else if isPrintable c then [c]
  else escapeCode c.toNat

/-- The quoted form of a text. -/
def quoted (text : String) : String :=
  let quote := quoteFor text.toList
  String.ofList (quote :: text.toList.flatMap (escapeChar quote) ++ [quote])

/-- The form of one byte between quotes `quote`. -/
def escapeByte (quote : Char) (b : UInt8) : List Char :=
  if b.toNat < 0x20 || 0x7f ≤ b.toNat then
    if b = 9 then ['\\', 't'] else if b = 10 then ['\\', 'n'] else if b = 13 then ['\\', 'r']
    else escapeCode b.toNat
  else escapeChar quote (Char.ofNat b.toNat)

/-- The quoted form of a sequence of bytes, marked by a small b. -/
def quotedBytes (bytes : List UInt8) : String :=
  let quote := quoteFor (bytes.map fun b => Char.ofNat b.toNat)
  String.ofList ('b' :: quote :: bytes.flatMap (escapeByte quote) ++ [quote])

end Hashmark.Text
