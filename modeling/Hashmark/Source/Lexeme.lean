import Hashmark.Text.Class

/-!
# Lexemes

The lexical elements that begin at a given character of a line. `lexeme?` tries the forms in a fixed
order: a line joined to the next by a backslash, a comment, an opening triple quote, a number, a
line end, an operator, a string on one line, a word. It answers the form and the length of the
element, or nothing if no form begins there.
-/

namespace Hashmark.Source

open Text (isDigit isHexDigit isWord)

/-- The form of a lexical element. -/
inductive Lexeme where
  /-- A backslash at the end of a line, with the line end. -/
  | join
  /-- A comment. -/
  | comment
  /-- A triple quote that opens a string. -/
  | tripleQuote (quote : Char)
  /-- A number. -/
  | number
  /-- A line end. -/
  | lineEnd
  /-- An operator or bracket. -/
  | operator
  /-- A string that closes on its line. -/
  | string
  /-- A string whose line ends in a backslash. -/
  | brokenString (quote : Char)
  /-- A run of characters of words. -/
  | word
  deriving DecidableEq, Repr

/-- The length of a run of digits in which single low lines may separate digits; zero unless the
first character is a digit. `separated` says that a low line came just before. -/
def separatedRun (digit : Char → Bool) : List Char → Nat
  | [] => 0
  | [c] => if digit c then 1 else 0
  | c :: d :: cs =>
    if digit c then
      if digit d then 1 + separatedRun digit (d :: cs)
      else if d = '_' then
        -- A low line counts only if a digit follows it.
        match separatedRun digit cs with
        | 0 => 1
        | n => n + 2
      else 1
    else 0

/-- The length of a run of digits each of which may follow a low line, as in the numbers of another
base after their mark. -/
def baseRun (digit : Char → Bool) : List Char → Nat
  | '_' :: cs =>
    match separatedRun digit cs with
    | 0 => 0
    | n => n + 1
  | cs => separatedRun digit cs

/-- The length of an exponent: its letter, a sign or none, and digits. -/
def exponentLength : List Char → Nat
  | e :: cs =>
    if e = 'e' || e = 'E' then
      let sign := match cs with
        | c :: _ => if c = '+' || c = '-' then 1 else 0
        | [] => 0
      match separatedRun isDigit (cs.drop sign) with
      | 0 => 0
      | n => 1 + sign + n
    else 0
  | [] => 0

/-- The length of a number with a point or an exponent, zero if there is neither. -/
def decimalLength (cs : List Char) : Nat :=
  let whole := separatedRun isDigit cs
  match cs.drop whole with
  | '.' :: rest =>
    let fraction := separatedRun isDigit rest
    -- A full stop by itself is no number.
    if whole = 0 && fraction = 0 then 0
    else
      let n := whole + 1 + fraction
      n + exponentLength (cs.drop n)
  | rest =>
    if whole = 0 then 0
    else match exponentLength rest with
      | 0 => 0
      | n => whole + n

/-- The length of a number without point and exponent: in base sixteen, two or eight behind its
mark, or decimal, where a leading zero can only be followed by zeros. -/
def integerLength (cs : List Char) : Nat :=
  let based := match cs with
    | '0' :: mark :: rest =>
      if mark = 'x' || mark = 'X' then baseRun isHexDigit rest
      else if mark = 'b' || mark = 'B' then baseRun (fun c => c = '0' || c = '1') rest
      else if mark = 'o' || mark = 'O' then
        baseRun (fun c => 48 ≤ c.toNat && c.toNat ≤ 55) rest
      else 0
    | _ => 0
  match based, cs with
  -- The digits behind leading zeros are another number.
  | 0, '0' :: _ => separatedRun (· == '0') cs
  | 0, _ => separatedRun isDigit cs
  | n, _ => n + 2

/-- The length of a number: an imaginary one if a j follows digits or a decimal, else a decimal,
else an integer. -/
def numberLength (cs : List Char) : Nat :=
  let isJ := fun (rest : List Char) => match rest with
    | c :: _ => c = 'j' || c = 'J'
    | [] => false
  let whole := separatedRun isDigit cs
  let decimal := decimalLength cs
  if whole ≠ 0 && isJ (cs.drop whole) then whole + 1
  else if decimal ≠ 0 then (if isJ (cs.drop decimal) then decimal + 1 else decimal)
  else integerLength cs

/-- The operators of three characters. -/
def operators3 : List (List Char) :=
  ["<<=", ">>=", "**=", "//=", "..."].map String.toList

/-- The operators of two characters. -/
def operators2 : List (List Char) :=
  ["!=", "%=", "&=", "**", "*=", "+=", "-=", "->", "//", "/=", ":=", "<<", "<=", "==", ">=", ">>",
    "@=", "^=", "|="].map String.toList

/-- The operators of one character. -/
def operators1 : List Char :=
  "%&()*+,-./:;<=>@[]^\x7b|\x7d~".toList

/-- The length of the longest operator at the start, zero if there is none. -/
def operatorLength (cs : List Char) : Nat :=
  if operators3.contains (cs.take 3) then 3
  else if operators2.contains (cs.take 2) then 2
  else match cs with
    | c :: _ => if operators1.contains c then 1 else 0
    | [] => 0

/-- Whether letters mark a string: b, r, u, f, or r with one of b and f, in any order and case. -/
def marksString (letters : List Char) : Bool :=
  ["", "b", "r", "u", "f", "br", "rb", "fr", "rf"].contains
    (String.ofList (letters.map Char.toLower))

/-- The length of the letters that mark a string, if a quote follows them. -/
def markLength? (cs : List Char) : Option Nat :=
  [0, 1, 2].find? fun n =>
    marksString (cs.take n) && (match cs.drop n with
      | c :: _ => c = '\'' || c = '"'
      | [] => false)

/-- The length of the rest of a string on one line, up to its closing quote or up to the line end
after a backslash; the flag says which. Nothing if the line ends before. -/
def stringRest? (quote : Char) : List Char → Option (Nat × Bool)
  | [] => none
  | '\\' :: '\n' :: _ => some (2, true)
  | '\\' :: '\r' :: '\n' :: _ => some (3, true)
  | '\\' :: _ :: cs => (stringRest? quote cs).map fun (n, broken) => (n + 2, broken)
  | c :: cs =>
    if c = quote then some (1, false)
    -- A backslash that ends the text takes nothing along.
    else if c = '\n' || c = '\\' then none
    else (stringRest? quote cs).map fun (n, broken) => (n + 1, broken)

/-- The length of what remains of a string on a line, its closing quote included; nothing if it does
not close there. A backslash takes the character after it along, but not a line end. -/
def closingLength? (quote : Char) (triple : Bool) : List Char → Option Nat
  | [] => none
  | ['\\'] => none
  | '\\' :: c :: cs => if c = '\n' then none else (closingLength? quote triple cs).map (· + 2)
  | c :: cs =>
    if c = quote then
      if !triple then some 1
      else if cs.take 2 = [quote, quote] then some 3
      else (closingLength? quote triple cs).map (· + 1)
    else (closingLength? quote triple cs).map (· + 1)

/-- The length of a line end, zero if none stands at the start. -/
def lineEndLength : List Char → Nat
  | '\n' :: _ => 1
  | '\r' :: '\n' :: _ => 2
  | _ => 0

/-- The form and the length of the element that begins a rest of a line. -/
def lexeme? (cs : List Char) : Option (Lexeme × Nat) :=
  let joined := match cs with
    | '\\' :: rest => lineEndLength rest
    | _ => 0
  let opening := match markLength? cs with
    | none => none
    | some n => (cs[n]?).map fun quote => (n, quote)
  let tripled := match opening with
    | none => none
    | some (n, quote) =>
      if (cs.drop n).take 3 = [quote, quote, quote] then some (n, quote) else none
  if joined ≠ 0 then some (.join, joined + 1)
  else if cs.head? = some '#' then
    some (.comment, (cs.takeWhile fun c => c != '\r' && c != '\n').length)
  else match tripled with
  | some (n, quote) => some (.tripleQuote quote, n + 3)
  | none =>
    if numberLength cs ≠ 0 then some (.number, numberLength cs)
    else if lineEndLength cs ≠ 0 then some (.lineEnd, lineEndLength cs)
    else if operatorLength cs ≠ 0 then some (.operator, operatorLength cs)
    else
      -- A quote that is not closed on the line begins nothing, unless the line is joined to the
      -- next.
      let closed := match opening with
        | none => none
        | some (n, quote) => (stringRest? quote (cs.drop (n + 1))).map fun (length, broken) =>
          (if broken then Lexeme.brokenString quote else Lexeme.string, n + 1 + length)
      match closed with
      | some found => some found
      | none =>
        match (cs.takeWhile isWord).length with
        | 0 => none
        | n => some (.word, n)

end Hashmark.Source
