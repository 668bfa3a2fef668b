import Hashmark.Text.Name
import Hashmark.Text.Class

/-!
# Quoted texts in expressions

What stands between the quotes of a text in an expression: escapes, which a backslash begins, and in
a formatted text the fields between braces, which hold expressions of their own.
-/

namespace Hashmark.Condition

open Text (isHexDigit)

/-- The kind of a quotation, which the letters before it tell. -/
structure QuotationKind where
  /-- Whether it stands for bytes. -/
  bytes : Bool
  /-- Whether backslashes stand for themselves. -/
  raw : Bool
  /-- Whether expressions stand between braces. -/
  formatted : Bool
  /-- Whether it is marked as a text, as it would be without the mark. -/
  marked : Bool
  deriving DecidableEq, Repr

/-- The kind with one more letter in front of the quote, if the letter may stand there. -/
def QuotationKind.withLetter? (kind : QuotationKind) (c : Char) : Option QuotationKind :=
  let plain := !(kind.bytes || kind.marked || kind.formatted)
  if plain && (c = 'b' || c = 'B') then some { kind with bytes := true }
  else if plain && !kind.raw && (c = 'u' || c = 'U') then some { kind with marked := true }
  else if !kind.raw && !kind.marked && (c = 'r' || c = 'R') then some { kind with raw := true }
  else if plain && (c = 'f' || c = 'F') then some { kind with formatted := true }
  else none

/-- The number that the first `width` characters write in hexadecimal digits, and the rest. -/
def takeHex? (width : Nat) (cs : List Char) : Option (Nat × List Char) :=
  let digits := cs.take width
  if digits.length = width && digits.all isHexDigit then
    some (Text.ofHexDigits digits, cs.drop width)
  else none

/-- An octal digit. -/
def isOctalDigit (c : Char) : Bool :=
  48 ≤ c.toNat && c.toNat ≤ 55

/-- The escapes of one character. -/
def simpleEscape? (c : Char) : Option Nat :=
  if c = '\\' || c = '\'' || c = '"' then some c.toNat
  else if c = 'a' then some 7
  else if c = 'b' then some 8
  else if c = 't' then some 9
  else if c = 'n' then some 10
  else if c = 'v' then some 11
  else if c = 'f' then some 12
  else if c = 'r' then some 13
  else none

/-- What follows a backslash: the code points that the escape stands for, and the rest; nothing if
the escape is malformed. An unknown escape stands for itself. -/
def escape? (bytes : Bool) : List Char → Option (List Nat × List Char)
  | [] => some ([92], [])
  | c :: cs =>
    -- A backslash in front of a line end joins the lines.
    if c = '\n' then some ([], cs)
    else if let some n := simpleEscape? c then some ([n], cs)
    else if isOctalDigit c then
      let digits := (c :: cs.take 2).takeWhile isOctalDigit
      some ([digits.foldl (fun n d => 8 * n + (d.toNat - 48)) 0], (c :: cs).drop digits.length)
    else if c = 'x' then (takeHex? 2 cs).map fun (n, rest) => ([n], rest)
    -- The other escapes name characters, and bytes have none.
    else if bytes then some ([92, c.toNat], cs)
    else if c = 'u' then (takeHex? 4 cs).map fun (n, rest) => ([n], rest)
    else if c = 'U' then
      match takeHex? 8 cs with
      | some (n, rest) => if n ≤ 0x10ffff then some ([n], rest) else none
      | none => none
    else if c = 'N' then
      match cs with
      | '\x7b' :: cs =>
        match Text.cut '\x7d' cs with
        | (name, some rest) => (Text.namedCharacter? name).map fun n => ([n], rest)
        | (_, none) => none
      | _ => none
    else some ([92, c.toNat], cs)

/-- The code points that a quotation stands for; nothing if an escape is malformed. The first
argument bounds the number of steps, for which the length of the quotation is enough. -/
def unescape? (bytes : Bool) : Nat → List Char → Option (List Nat)
  | 0, _ => some []
  | _ + 1, [] => some []
  | steps + 1, c :: cs =>
    if c = '\\' then
      match escape? bytes cs with
      | some (codes, rest) => (unescape? bytes steps rest).map (codes ++ ·)
      | none => none
    else (unescape? bytes steps cs).map (c.toNat :: ·)

/-- The character of a code point. A half of a surrogate pair is no character, and one for private use
stands for it, so that halves differ from one another and from the character of a pair. -/
def ofCodePoint (n : Nat) : Char :=
  if 0xd800 ≤ n && n < 0xe000 then Char.ofNat (0x100000 + n) else Char.ofNat n

/-- What a quotation stands for. -/
inductive Quotation where
  /-- A text. -/
  | text (s : String)
  /-- Bytes. -/
  | bytes (bs : List UInt8)
  /-- A formatted text, by the expressions in its fields. -/
  | formatted (fields : List (List Char))
  deriving DecidableEq, Repr

/-- What the search for the end of a field's expression is within: a string, and how it ends. -/
inductive Within where
  /-- No string. -/
  | code
  /-- A string in single quotes. -/
  | single (quote : Char)
  /-- A string in triple quotes. -/
  | triple (quote : Char)
  deriving DecidableEq, Repr

/-- The bracket that closes another. -/
def closingBracket? (c : Char) : Option Char :=
  if c = '(' then some ')' else if c = '[' then some ']' else if c = '\x7b' then some '\x7d'
  else none

/-- The expression of a field, up to the character that ends it, and the rest from there on.
`brackets` holds the brackets that have to be closed. -/
def fieldExpression? (within : Within) (brackets : List Char) :
    List Char → Option (List Char × List Char)
  | [] => none
  | c :: cs =>
    let keep := fun (found : Option (List Char × List Char)) =>
      found.map fun (text, rest) => (c :: text, rest)
    -- No backslash may stand in the expression of a field, and no comment.
    if c = '\\' then none
    else match within with
    | .single quote =>
      keep (fieldExpression? (if c = quote then .code else within) brackets cs)
    | .triple quote =>
      match cs with
      | d :: e :: rest =>
        if c = quote && d = quote && e = quote then
          (fieldExpression? .code brackets rest).map fun (text, rest) =>
            (c :: d :: e :: text, rest)
        else keep (fieldExpression? within brackets (d :: e :: rest))
      | short => keep (fieldExpression? within brackets short)
    | .code =>
      if c = '\'' || c = '"' then
        match cs with
        | d :: e :: rest =>
          -- Three quotes open a string, two are an empty one.
          if d = c && e = c then
            (fieldExpression? (.triple c) brackets rest).map fun (text, rest) =>
              (c :: d :: e :: text, rest)
          else keep (fieldExpression? (.single c) brackets (d :: e :: rest))
        | short => keep (fieldExpression? (.single c) brackets short)
      else if let some close := closingBracket? c then
        if 200 ≤ brackets.length then none
        else keep (fieldExpression? .code (close :: brackets) cs)
      else if c = '#' then none
      else if brackets.isEmpty && "!:\x7d=<>".toList.contains c then
        match cs with
        | d :: rest =>
          -- A comparison goes on; an exclamation mark, a colon or an equals sign alone ends the
          -- expression.
          if d = '=' && "!=<>".toList.contains c then
            (fieldExpression? .code brackets rest).map fun (text, rest) => (c :: d :: text, rest)
          else if c = '<' || c = '>' then keep (fieldExpression? .code brackets (d :: rest))
          else some ([], c :: cs)
        | [] => if c = '<' || c = '>' then none else some ([], c :: cs)
      else if c = ')' || c = ']' || c = '\x7d' then
        match brackets with
        | close :: outer => if c = close then keep (fieldExpression? .code outer cs) else none
        | [] => none
      else keep (fieldExpression? .code brackets cs)

/-- Whether a character is blank between the parts of a field. -/
def isFieldBlank (c : Char) : Bool :=
  c = ' ' || c = '\t' || c = '\n' || c = '\r' || c = '\x0c'

/-- The part of a field behind its expression, up to a format or to the closing brace: an equals
sign, and the letter of a conversion. -/
def fieldConversion? (cs : List Char) : Option (List Char) :=
  let cs := match cs with
    | '=' :: rest => rest.dropWhile fun c => isFieldBlank c || c = '\x0b'
    | _ => cs
  match cs with
  | '!' :: c :: rest => if c = 's' || c = 'r' || c = 'a' then some rest else none
  | '!' :: [] => none
  | _ => some cs

/-- The expressions in the fields of a formatted text. Within the format of a field, at a `depth`
above zero, the text ends at a closing brace, where the rest begins. `literal` is what has been read
since the last field, reversed. The first argument bounds the number of steps. -/
def formattedFields? (raw : Bool) :
    Nat → Nat → List Char → List Char → Option (List (List Char) × List Char)
  | 0, _, _, _ => none
  | steps + 1, depth, literal, cs =>
    -- What stands between the fields has to be free of faults where a field begins or the text
    -- ends.
    let sound := raw || (unescape? false literal.length literal.reverse).isSome
    match cs with
    | [] => if sound then some ([], []) else none
    | '\x7b' :: rest =>
      -- Two braces are one brace of the text.
      if depth = 0 && rest.head? = some '\x7b' then
        formattedFields? raw steps depth ('\x7b' :: literal) (rest.drop 1)
      -- A format may have fields, and the formats of these have none.
      else if !sound || 2 ≤ depth then none
      else match fieldExpression? .code [] rest with
        | none => none
        | some (expression, behind) =>
          if expression.all isFieldBlank then none
          else match fieldConversion? behind with
            | none => none
            | some (':' :: format) =>
              match formattedFields? raw steps (depth + 1) [] format with
              | some (inner, '\x7d' :: behind) =>
                (formattedFields? raw steps depth [] behind).map fun (fields, rest) =>
                  (expression :: inner ++ fields, rest)
              | _ => none
            | some ('\x7d' :: behind) =>
              (formattedFields? raw steps depth [] behind).map fun (fields, rest) =>
                (expression :: fields, rest)
            | some _ => none
    | '\x7d' :: rest =>
      if depth = 0 then
        match rest with
        | '\x7d' :: rest => formattedFields? raw steps depth ('\x7d' :: literal) rest
        | _ => none
      else if sound then some ([], '\x7d' :: rest) else none
    | '\\' :: c :: rest =>
      if raw || c = '\x7b' || c = '\x7d' then
        formattedFields? raw steps depth ('\\' :: literal) (c :: rest)
      else if c = 'N' && rest.head? = some '\x7b' then
        -- The braces around the name of a character begin no field.
        let name := rest.takeWhile (· != '\x7d')
        let behind := rest.drop (name.length + 1)
        formattedFields? raw steps depth
          ((rest.take (name.length + 1)).reverse ++ 'N' :: '\\' :: literal) behind
      else formattedFields? raw steps depth (c :: '\\' :: literal) rest
    | c :: rest => formattedFields? raw steps depth (c :: literal) rest

/-- What the characters between the quotes stand for; nothing if they are malformed. -/
def Quotation.ofBody? (kind : QuotationKind) (body : List Char) : Option Quotation :=
  if kind.bytes then
    if body.any fun c => 128 ≤ c.toNat then none
    else
      let codes :=
        if kind.raw then some (body.map Char.toNat) else unescape? true body.length body
      codes.map fun ns => .bytes (ns.map Nat.toUInt8)
  else if kind.formatted then
    match formattedFields? kind.raw (body.length + 1) 0 [] body with
    | some (fields, []) => some (.formatted fields)
    | _ => none
  else if kind.raw then some (.text (String.ofList body))
  else (unescape? false body.length body).map fun ns =>
    .text (String.ofList (ns.map ofCodePoint))

end Hashmark.Condition
