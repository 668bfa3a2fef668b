import Hashmark.Text.Range
import Hashmark.Text.Table.Identifier
import Hashmark.Text.Table.Printable
import Hashmark.Text.Table.Word

/-!
# Classes of characters

The classes that the notation and its output depend on: decimal digits and letters of ASCII, the
characters of words and of identifiers, and the characters with a visible form. The last three
follow Unicode; each decides ASCII directly and looks other characters up in a table.
-/

namespace Hashmark.Text

/-- A decimal digit of ASCII. -/
def isDigit (c : Char) : Bool :=
  48 ≤ c.toNat && c.toNat ≤ 57

/-- A hexadecimal digit of ASCII. -/
def isHexDigit (c : Char) : Bool :=
  isDigit c || (97 ≤ c.toNat && c.toNat ≤ 102) || (65 ≤ c.toNat && c.toNat ≤ 70)

/-- A letter of ASCII. -/
def isLetter (c : Char) : Bool :=
  (97 ≤ c.toNat && c.toNat ≤ 122) || (65 ≤ c.toNat && c.toNat ≤ 90)

/-- A letter or the low line of ASCII. -/
def isPlainStart (c : Char) : Bool :=
  isLetter c || c == '_'

/-- The characters of words, beyond ASCII and in it. -/
private def wordRanges : Array Range := rangesOfTable Table.word

/-- The characters that may begin an identifier. -/
private def startRanges : Array Range := rangesOfTable Table.identifierStart

/-- The characters that may continue an identifier. -/
private def continueRanges : Array Range := rangesOfTable Table.identifierContinue

/-- The characters with a visible form. -/
private def printableRanges : Array Range := rangesOfTable Table.printable

/-- A character of a word: a letter, a digit or numeral of any script, or the low line. -/
def isWord (c : Char) : Bool :=
  if c.toNat < 128 then isPlainStart c || isDigit c else inRanges wordRanges c.toNat

/-- A character that may begin an identifier. -/
def isIdentifierStart (c : Char) : Bool :=
  if c.toNat < 128 then isPlainStart c else inRanges startRanges c.toNat

/-- A character that may continue an identifier. -/
def isIdentifierContinue (c : Char) : Bool :=
  if c.toNat < 128 then isPlainStart c || isDigit c else inRanges continueRanges c.toNat

/-- An identifier: a character that may begin one, then characters that may continue it. -/
def isIdentifier : List Char → Bool
  | [] => false
  | c :: cs => isIdentifierStart c && cs.all isIdentifierContinue

/-- A character that a quoted text shows as it is. -/
def isPrintable (c : Char) : Bool :=
  if c.toNat < 128 then 32 ≤ c.toNat && c.toNat < 127 else inRanges printableRanges c.toNat

end Hashmark.Text
