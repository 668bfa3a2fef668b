import Hashmark.Text.Lower
import Hashmark.Text.Table.Pictograph

/-!
# Pictographs by name

Replacing the short names of pictographs by the characters they stand for. A short name stands
between two colons and holds no blank; it may end in a variant, which asks for the form as a text or
as a picture. Colons around anything else stay as they are.
-/

namespace Hashmark.Text

/-- A pictograph with a short name. -/
structure Pictograph where
  /-- The short name. -/
  name : String
  /-- The characters. -/
  characters : List Char
  /-- Whether there are forms in the five tones of skin. -/
  isToned : Bool

namespace Pictograph

/-- Reads a name and code points, with a star behind them if the pictograph has toned forms. -/
def ofText (item : List Char) : Pictograph :=
  let (name, codes) := cut ' ' item
  let (codes, star) := cut '*' (codes.getD [])
  ⟨String.ofList name, (fields '+' codes).map fun code => Char.ofNat (ofHexDigits code),
    star.isSome⟩

/-- The pictographs that have short names. -/
private def namedPictographs : List Pictograph :=
  Table.pictograph.flatMap fun line => (fields ';' line.toList).map ofText

/-- The endings that ask for a tone of skin, with the characters of the tones; no ending is the end
of one before it. -/
def tones : List (String × Char) :=
  [("_medium-light_skin_tone", Char.ofNat 0x1f3fc), ("_medium-dark_skin_tone", Char.ofNat 0x1f3fe),
    ("_light_skin_tone", Char.ofNat 0x1f3fb), ("_medium_skin_tone", Char.ofNat 0x1f3fd),
    ("_dark_skin_tone", Char.ofNat 0x1f3ff)]

/-- The character that asks for the form of a pictograph as a picture. -/
def pictureForm : Char := Char.ofNat 0xfe0f

/-- The character that asks for the form of a pictograph as a text. -/
def textForm : Char := Char.ofNat 0xfe0e

/-- The characters in a tone of skin: the tone follows the first of them, in the place of a mark for
the form as a picture. -/
def withTone (tone : Char) : List Char → List Char
  | [] => [tone]
  | c :: rest => c :: tone :: (if rest.head? = some pictureForm then rest.tail else rest)

/-- The text before `ending`, if the text ends so. -/
def dropEnding? (ending : String) (cs : List Char) : Option (List Char) :=
  let start := cs.take (cs.length - ending.length)
  if start ++ ending.toList = cs then some start else none

/-- The characters of a pictograph in a tone that the end of its name asks for. -/
def ofTonedName? (name : List Char) : Option (List Char) :=
  tones.findSome? fun (ending, tone) =>
    (dropEnding? ending name).bind fun plain =>
      (namedPictographs.find? fun p => p.isToned && p.name == String.ofList plain).map fun p =>
        withTone tone p.characters

/-- The characters that a short name stands for. -/
def ofName? (name : List Char) : Option (List Char) :=
  match namedPictographs.find? fun p => p.name == String.ofList name with
  | some p => some p.characters
  | none => ofTonedName? name

/-- What stands between two colons in two parts: the short name, and the character that the variant
asks for. -/
def splitVariant (cs : List Char) : List Char × List Char :=
  match dropEnding? "-emoji" cs, dropEnding? "-text" cs with
  | some name, _ => (name, [pictureForm])
  | none, some name => (name, [textForm])
  | none, none => (cs, [])

/-- What takes the place of two colons and the characters between them. -/
def expand (cs : List Char) : List Char :=
  let (name, variant) := splitVariant cs
  match ofName? (lower (String.ofList name)).toList with
  | some characters => characters ++ variant
  | none => ':' :: cs ++ [':']

/-- Replaces the short names in a text; `pending` holds the characters since an opening colon,
reversed. -/
def expandFrom (pending : Option (List Char)) : List Char → List Char
  | [] =>
    match pending with
    | none => []
    | some name => ':' :: name.reverse
  | c :: cs =>
    match pending with
    | none => if c = ':' then expandFrom (some []) cs else c :: expandFrom none cs
    | some name =>
      if c = ':' then expand name.reverse ++ expandFrom none cs
      else if isBlank c then ':' :: name.reverse ++ c :: expandFrom none cs
      else expandFrom (some (c :: name)) cs

end Pictograph

/-- A text with the characters of pictographs in the place of their short names. -/
def expandPictographs (text : String) : String :=
  String.ofList (Pictograph.expandFrom none text.toList)

end Hashmark.Text
