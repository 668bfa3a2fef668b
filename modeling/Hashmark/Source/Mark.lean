/-!
# Marks on a source

Scanning a source says where its lexical elements stand. A mark gives the kind of an element and the
two ends of its extent as row and column; rows count from one and columns from zero. Marks carry no
text: what they cut out of a source is decided where tokens are made of them.
-/

namespace Hashmark.Source

/-- The kinds of elements of a source. -/
inductive Kind where
  /-- A word that begins like an identifier. -/
  | name
  /-- A number. -/
  | number
  /-- A quoted string, on one line or on several. -/
  | string
  /-- An operator or a bracket, or a word that begins like no identifier. -/
  | operator
  /-- A comment, without the line end after it. -/
  | comment
  /-- The line end that ends a statement. -/
  | newline
  /-- A line end that ends none: after a blank line or a comment, or within brackets. -/
  | lineBreak
  /-- The blanks that begin a deeper block. -/
  | indent
  /-- The end of a block. -/
  | dedent
  /-- The end of the source. -/
  | endMark
  /-- A character that begins no element. -/
  | stray
  /-- Text between elements. -/
  | whitespace
  /-- The rest of a source whose scan failed. -/
  | untokenized
  deriving DecidableEq, Repr

/-- The label of each kind. -/
def Kind.label : Kind → String
  | .name => "NAME"
  | .number => "NUMBER"
  | .string => "STRING"
  | .operator => "OP"
  | .comment => "COMMENT"
  | .newline => "NEWLINE"
  | .lineBreak => "NL"
  | .indent => "INDENT"
  | .dedent => "DEDENT"
  | .endMark => "ENDMARKER"
  | .stray => "ERRORTOKEN"
  | .whitespace => "WHITESPACE"
  | .untokenized => "UNTOKENIZED"

/-- A place in a source. -/
structure Place where
  /-- The number of the line, from one. -/
  row : Nat
  /-- How many characters of the line precede the place. -/
  column : Nat
  deriving DecidableEq, Repr

/-- The extent of an element. -/
structure Mark where
  /-- What the element is. -/
  kind : Kind
  /-- Where it begins. -/
  start : Place
  /-- Where it ends. -/
  stop : Place
  deriving DecidableEq, Repr

/-- Why the scan of a source ends early. -/
inductive ScanFault where
  /-- The source ends within a string that may go on over several lines. -/
  | openString
  /-- The source ends within brackets or behind a backslash. -/
  | openStatement
  /-- A line is less indented than its block and agrees with no block around it. -/
  | unindent
  deriving DecidableEq, Repr

/-- The wording of the reason. -/
def ScanFault.message : ScanFault → String
  | .openString => "EOF in multi-line string"
  | .openStatement => "EOF in multi-line statement"
  | .unindent => "unindent does not match any outer indentation level"

/-- What a scan reports: marks, and the reason if it ended early. -/
structure Scan where
  /-- The marks in the order in which they were found. -/
  marks : List Mark
  /-- Why there are no more marks, unless the whole source was scanned. -/
  fault : Option ScanFault
  deriving DecidableEq, Repr

end Hashmark.Source
