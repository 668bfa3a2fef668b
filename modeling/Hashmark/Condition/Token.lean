import Hashmark.Condition.Quotation
import Hashmark.Text.Normal
import Hashmark.Value.Basic

/-!
# Tokens of expressions

The words of a condition expression: names, keywords, numbers, quotations and symbols. An expression
may extend over several lines within brackets or behind a backslash; outside brackets its first line
may not be indented, and a line end behind it is a token of its own. Names are put into their normal
form, while keywords are recognized as they are written.
-/

namespace Hashmark.Condition

open Text (isDigit isHexDigit)

/-- A word of an expression. -/
inductive Token where
  /-- A name in its normal form. -/
  | name (text : String)
  /-- A reserved word. -/
  | keyword (text : String)
  /-- A number. -/
  | number (value : Value)
  /-- What a quotation stands for. -/
  | quotation (quotation : Quotation)
  /-- An operator or a bracket. -/
  | symbol (text : String)
  /-- The end of a line outside brackets. -/
  | newline
  deriving Inhabited

/-- The reserved words. -/
def keywords : List String :=
  ["False", "None", "True", "and", "as", "assert", "async", "await", "break", "class", "continue",
    "def", "del", "elif", "else", "except", "finally", "for", "from", "global", "if", "import",
    "in", "is", "lambda", "nonlocal", "not", "or", "pass", "raise", "return", "try", "while",
    "with", "yield"]

/-- A character that may continue a name as far as cutting an expression into words goes. -/
def isNamePart (c : Char) : Bool :=
  128 ≤ c.toNat || Text.isPlainStart c || isDigit c

/-- The words that may follow a number without a blank. -/
def wordsAfterNumber : List (List Char) :=
  ["and", "else", "for", "if", "in", "is", "not", "or"].map String.toList

/-- Whether a number may end before these characters. -/
def endsNumber (cs : List Char) : Bool :=
  match cs with
  | [] => true
  | c :: _ => !isNamePart c || wordsAfterNumber.any fun word => word.isPrefixOf cs

/-- The digits at the start, single low lines between them left out, and the rest; nothing if a low
line is not followed by a digit. -/
def digits? (digit : Char → Bool) : List Char → Option (List Char × List Char)
  | [] => some ([], [])
  | c :: cs =>
    if digit c then (digits? digit cs).map fun (ds, rest) => (c :: ds, rest)
    else if c = '_' then
      match cs with
      | d :: _ => if digit d then digits? digit cs else none
      | [] => none
    else some ([], c :: cs)

/-- A number and the rest behind it, if a number may end there. -/
def numberBefore (value : Value) (rest : List Char) : Option (Value × List Char) :=
  if endsNumber rest then some (value, rest) else none

/-- An integer in a base that is a power of two, from behind its mark on. -/
def basedNumber? (bitsPerDigit : Nat) (digit : Char → Bool) (cs : List Char) :
    Option (Value × List Char) :=
  match digits? digit cs with
  | some (d :: ds, rest) =>
    if (rest.head?.map isDigit).getD false then none
    else
      let n := (d :: ds).foldl (fun n c => n * Nat.pow 2 bitsPerDigit + Text.hexDigitValue c) 0
      numberBefore (.int n) rest
  | _ => none

/-- The end of a decimal that `mantissa` begins: a j makes it imaginary. -/
def decimalEnd (decimal rest : List Char) : Option (Value × List Char) :=
  let x := Number.ofDecimalText decimal
  match rest with
  | c :: behind =>
    if c = 'j' || c = 'J' then numberBefore (.complex ⟨0.0, x⟩) behind
    else numberBefore (.float x) rest
  | [] => some (.float x, [])

/-- An exponent and what follows it, behind the part `mantissa` of a number; `whole` is the number
if there is no exponent after all. -/
def exponentEnd (mantissa : List Char) (whole : List Char → Option (Value × List Char))
    (cs : List Char) : Option (Value × List Char) :=
  match cs with
  | e :: rest =>
    if e = 'e' || e = 'E' then
      let (sign, behind) := match rest with
        | c :: more => if c = '+' || c = '-' then ([c], more) else ([], rest)
        | [] => ([], [])
      if (behind.head?.map isDigit).getD false then
        match digits? isDigit behind with
        | some (ds, rest) => decimalEnd (mantissa ++ e :: sign ++ ds) rest
        | none => none
      else if sign.isEmpty then whole cs
      else none
    else whole cs
  | [] => whole []

/-- A number from behind its point on. -/
def fractionEnd (whole cs : List Char) : Option (Value × List Char) :=
  let digits :=
    if (cs.head?.map isDigit).getD false then digits? isDigit cs else some ([], cs)
  match digits with
  | none => none
  | some (ds, rest) =>
    let mantissa := whole ++ '.' :: ds
    exponentEnd mantissa (decimalEnd mantissa) rest

/-- A number that begins with a digit. A decimal integer may have at most 4300 digits, and a zero at
its start only before zeros. -/
def number? (cs : List Char) : Option (Value × List Char) :=
  let marked := match cs with
    | '0' :: mark :: rest => some (mark.toLower, rest)
    | _ => none
  match marked with
  | some ('x', rest) => basedNumber? 4 isHexDigit rest
  | some ('o', rest) => basedNumber? 3 isOctalDigit rest
  | some ('b', rest) => basedNumber? 1 (fun c => c = '0' || c = '1') rest
  | _ =>
    match digits? isDigit cs with
    | none => none
    | some (ds, rest) =>
      let leadingZero := ds.head? = some '0'
      let integer := fun (rest : List Char) =>
        -- Behind a leading zero there may only be zeros, but a point or an exponent may follow any
        -- digits.
        if leadingZero && ds.any (· != '0') then none
        else if !leadingZero && Number.maxDigits < ds.length then none
        else numberBefore (.int (Number.ofDigits ds)) rest
      match rest with
      | '.' :: behind => fractionEnd ds behind
      | c :: behind =>
        if c = 'j' || c = 'J' then
          numberBefore (.complex ⟨0.0, Number.ofDecimalText ds⟩) behind
        else exponentEnd ds integer rest
      | [] => integer []

/-- The start of a quotation: its kind, its quote, and what is behind the quote. -/
def quotationStart? (kind : QuotationKind) :
    List Char → Option (QuotationKind × Char × List Char)
  | [] => none
  | c :: cs =>
    if c = '\'' || c = '"' then some (kind, c, cs)
    else match kind.withLetter? c with
      | some kind => quotationStart? kind cs
      | none => none

/-- The characters up to the closing quote or quotes, and the rest behind. A backslash takes the
character after it along. -/
def quotationBody? (quote : Char) (triple : Bool) : List Char → Option (List Char × List Char)
  | [] => none
  | ['\\'] => none
  | '\\' :: c :: cs => (quotationBody? quote triple cs).map fun (body, rest) =>
      ('\\' :: c :: body, rest)
  | c :: cs =>
    let keep := fun (found : Option (List Char × List Char)) =>
      found.map fun (body, rest) => (c :: body, rest)
    -- Two quotes alone are part of what three of them enclose.
    if c = quote then
      if !triple then some ([], cs)
      else match cs with
        | d :: e :: rest =>
          if d = quote && e = quote then some ([], rest)
          else keep (quotationBody? quote triple (d :: e :: rest))
        | short => keep (quotationBody? quote triple short)
    else if c = '\n' && !triple then none
    else keep (quotationBody? quote triple cs)

/-- A quotation from behind its opening quote on. -/
def quotation? (kind : QuotationKind) (quote : Char) (cs : List Char) :
    Option (Quotation × List Char) :=
  let body := match cs with
    | c :: d :: rest =>
      if c = quote then
        if d = quote then quotationBody? quote true rest else some ([], d :: rest)
      else quotationBody? quote false cs
    | [c] => if c = quote then some ([], []) else none
    | [] => none
  match body with
  | none => none
  | some (body, rest) => (Quotation.ofBody? kind body).map fun q => (q, rest)

/-- The symbols, longer ones before their beginnings. -/
def symbols : List String :=
  ["**=", "...", "//=", "<<=", ">>=", "!=", "%=", "&=", "**", "*=", "+=", "-=", "->", "//", "/=",
    ":=", "<<", "<=", "<>", "==", ">=", ">>", "@=", "^=", "|=", "%", "&", "(", ")", "*", "+", ",",
    "-", ".", "/", ":", ";", "<", "=", ">", "@", "[", "]", "^", "\x7b", "|", "\x7d", "~"]

/-- The symbols with their characters. -/
private def symbolChars : List (List Char × String) :=
  symbols.map fun s => (s.toList, s)

/-- The longest symbol at the start, and the rest. -/
def symbol? (cs : List Char) : Option (String × List Char) :=
  (symbolChars.find? fun (chars, _) => chars.isPrefixOf cs).map fun (chars, s) =>
    (s, cs.drop chars.length)

/-- The brackets that have to be closed behind a symbol; nothing if it closes one that is not open,
or opens more than 200. -/
def bracketsAfter? (brackets : List Char) (s : String) : Option (List Char) :=
  match s.toList with
  | [c] =>
    if let some close := closingBracket? c then
      if brackets.length < 200 then some (close :: brackets) else none
    else if c = ')' || c = ']' || c = '\x7d' then
      match brackets with
      | close :: outer => if c = close then some outer else none
      | [] => none
    else some brackets
  | _ => some brackets

/-- Passes over blanks, blank lines and comments up to the first word of a line, outside brackets;
nothing if that is indented. `column` is where the line has got to and `indented` says that it was
so before a backslash joined the next one; `comment` says that the rest of the line is a comment. -/
def beginLine? (column : Nat) (indented comment : Bool) : List Char → Option (List Char)
  | [] => if comment || (column = 0 && !indented) then some [] else none
  | c :: cs =>
    if c = '\n' then beginLine? 0 false false cs
    else if comment then beginLine? column indented true cs
    else if c = ' ' then beginLine? (column + 1) indented false cs
    else if c = '\t' then beginLine? ((column / 8 + 1) * 8) indented false cs
    else if c = '\x0c' then beginLine? 0 indented false cs
    else if c = '#' then beginLine? column indented true cs
    else if c = '\\' then
      match cs with
      -- What is joined to a line is indented as the line was.
      | '\n' :: d :: rest => beginLine? column (indented || column != 0) false (d :: rest)
      | _ => none
    else if column = 0 && !indented then some (c :: cs)
    else none

/-- The word that a name writes: a keyword, or the name in its normal form if it is an
identifier. -/
def wordToken? (cs : List Char) : Option Token :=
  let text := String.ofList cs
  if keywords.contains text then some (.keyword text)
  else if Text.isIdentifier cs then some (.name (Text.normalize text))
  else none

/-- The words of an expression from within a line on; nothing if it has a part that is no word. The
first argument bounds the number of words. -/
def wordsFrom? : Nat → List Char → List Char → Option (List Token)
  | 0, _, _ => none
  | bound + 1, brackets, text =>
    match text.dropWhile fun c => c = ' ' || c = '\t' || c = '\x0c' with
    | [] => if brackets.isEmpty then some [] else none
    | c :: cs =>
      if c = '#' then wordsFrom? bound brackets (cs.dropWhile (· != '\n'))
      else if c = '\n' then
        -- Between brackets a line end separates words and is none itself.
        if !brackets.isEmpty then wordsFrom? bound brackets cs
        else match beginLine? 0 false false cs with
          | none => none
          | some rest => (wordsFrom? bound brackets rest).map (Token.newline :: ·)
      else if c = '\\' then
        match cs with
        | '\n' :: d :: rest => wordsFrom? bound brackets (d :: rest)
        | _ => none
      else if let some (kind, quote, rest) :=
          quotationStart? ⟨false, false, false, false⟩ (c :: cs) then
        match quotation? kind quote rest with
        | none => none
        | some (q, rest) => (wordsFrom? bound brackets rest).map (Token.quotation q :: ·)
      else if isDigit c then
        match number? (c :: cs) with
        | none => none
        | some (n, rest) => (wordsFrom? bound brackets rest).map (Token.number n :: ·)
      else if isNamePart c then
        let word := (c :: cs).takeWhile isNamePart
        match wordToken? word with
        | none => none
        | some token => (wordsFrom? bound brackets ((c :: cs).drop word.length)).map (token :: ·)
      -- A full stop in front of a digit begins a number.
      else if c = '.' && (cs.head?.map isDigit).getD false then
        match fractionEnd [] cs with
        | none => none
        | some (n, rest) => (wordsFrom? bound brackets rest).map (Token.number n :: ·)
      else match symbol? (c :: cs) with
        | none => none
        | some (s, rest) =>
          match bracketsAfter? brackets s with
          | none => none
          | some brackets => (wordsFrom? bound brackets rest).map (Token.symbol s :: ·)

/-- A text with every line end written as a single line feed. -/
def unifyLineEnds : List Char → List Char
  | [] => []
  | '\r' :: '\n' :: cs => '\n' :: unifyLineEnds cs
  | c :: cs => (if c = '\r' then '\n' else c) :: unifyLineEnds cs

/-- The words of an expression; nothing if it has a part that is no word. -/
def words? (text : List Char) : Option (List Token) :=
  if text.contains '\x00' then none
  else match beginLine? 0 false false (unifyLineEnds text) with
    | none => none
    | some cs => wordsFrom? (cs.length + 1) [] cs

end Hashmark.Condition
