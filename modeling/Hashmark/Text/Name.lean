import Hashmark.Text.Range
import Hashmark.Text.Table.Name

/-!
# Characters by name

Finding a character by its name. The names of the tables are compared without regard to case. A
Korean syllable is named by its parts and a unified ideograph by its number, in capitals only.
-/

namespace Hashmark.Text

/-- What has been read of a table of names. -/
structure NameTable where
  /-- The last name. -/
  last : List Char
  /-- The code point that the next name belongs to. -/
  next : Nat
  /-- The names with their code points, the last one first. -/
  names : List (String × Nat)

/-- The table with an item more: the place where the names that follow begin, or a name, by the
number of characters that it shares with the last one and by the others. -/
def NameTable.add (table : NameTable) : List Char → NameTable
  | '+' :: code => { table with next := ofHexDigits code }
  | tens :: ones :: rest =>
    let shared := 10 * hexDigitValue tens + hexDigitValue ones
    let name := table.last.take shared ++ rest
    ⟨name, table.next + 1, (String.ofList name, table.next) :: table.names⟩
  | _ => table

/-- The names in the tables with their code points. -/
private def listedNames : List (String × Nat) :=
  let items := fun (lines : List String) => lines.flatMap fun line => fields ';' line.toList
  let aliases := (items Table.characterAliases).map fun item =>
    let (code, name) := cut ' ' item
    (String.ofList (name.getD []), ofHexDigits code)
  ((items Table.characterNames).foldl NameTable.add ⟨[], 0, aliases⟩).names

/-- The first consonants of Korean syllables. -/
def leadingSounds : List String :=
  ["G", "GG", "N", "D", "DD", "R", "M", "B", "BB", "S", "SS", "", "J", "JJ", "C", "K", "T", "P", "H"]

/-- The vowels of Korean syllables. -/
def vowelSounds : List String :=
  ["A", "AE", "YA", "YAE", "EO", "E", "YEO", "YE", "O", "WA", "WAE", "OE", "YO", "U", "WEO", "WE",
    "WI", "YU", "EU", "YI", "I"]

/-- The consonants at the ends of Korean syllables. -/
def trailingSounds : List String :=
  ["", "G", "GG", "GS", "N", "NJ", "NH", "D", "L", "LG", "LM", "LB", "LS", "LT", "LP", "LH", "M",
    "B", "BS", "S", "SS", "NG", "J", "C", "K", "T", "P", "H"]

/-- The place of the longest of the sounds that a name begins with, and the rest of the name. -/
def cutSound? (sounds : List String) (name : List Char) : Option (Nat × List Char) :=
  let found := sounds.zipIdx.foldl (fun (longest : Option (String × Nat)) (sound, i) =>
    let isLonger := match longest with
      | some (other, _) => other.length < sound.length
      | none => true
    if isLonger && sound.toList.isPrefixOf name then some (sound, i) else longest) none
  found.map fun (sound, i) => (i, name.drop sound.length)

/-- The code point of a Korean syllable, by the sounds that it is named by. -/
def syllable? (name : List Char) : Option Nat :=
  match cutSound? leadingSounds name with
  | none => none
  | some (leading, name) =>
    match cutSound? vowelSounds name with
    | none => none
    | some (vowel, name) =>
      match cutSound? trailingSounds name with
      | some (trailing, []) => some (0xac00 + (leading * 21 + vowel) * 28 + trailing)
      | _ => none

/-- The unified ideographs. -/
def ideographs : Array Range :=
  #[⟨0x3400, 0x4dbf⟩, ⟨0x4e00, 0x9fff⟩, ⟨0x20000, 0x2a6df⟩, ⟨0x2a700, 0x2b738⟩, ⟨0x2b740, 0x2b81d⟩,
    ⟨0x2b820, 0x2cea1⟩, ⟨0x2ceb0, 0x2ebe0⟩, ⟨0x30000, 0x3134a⟩]

/-- The code point of a unified ideograph, by the digits that it is named by. -/
def ideograph? (digits : List Char) : Option Nat :=
  let n := ofHexDigits digits
  if digits.length ∈ [4, 5] && digits.all (fun c => "0123456789ABCDEF".toList.contains c) &&
      inRanges ideographs n
  then some n
  else none

/-- The code point that a name calls. -/
def namedCharacter? (name : List Char) : Option Nat :=
  let syllable := "HANGUL SYLLABLE ".toList
  let ideograph := "CJK UNIFIED IDEOGRAPH-".toList
  if syllable.isPrefixOf name then syllable? (name.drop syllable.length)
  else if ideograph.isPrefixOf name then ideograph? (name.drop ideograph.length)
  else listedNames.lookup (String.ofList (name.map Char.toUpper))

end Hashmark.Text
