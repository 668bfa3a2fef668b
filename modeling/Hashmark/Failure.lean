import Hashmark.FileTree

/-!
# Failures

Why a pass over a source fails. The faults of the notation itself have a kind, a place in a source,
and a message that begins with the place; the others come from the files and encodings that a pass
depends on.
-/

namespace Hashmark

/-- A place in a source: the file, if the text comes from one, and the number of the line, zero if
it is not known. -/
structure Location where
  /-- The file. -/
  path : Option Path
  /-- The line. -/
  line : Int
  deriving DecidableEq, Repr

/-- No place in particular. -/
def Location.unknown : Location := ⟨none, 0⟩

/-- The place in front of a message. -/
def Location.text (location : Location) : String :=
  match location.path with
  | some path => path.text ++ ":" ++ toString location.line ++ ": "
  | none => if location.line = 0 then "" else "line " ++ toString location.line ++ ": "

/-- How conditional blocks fail to match. -/
inductive Imbalance where
  /-- A directive stands outside any block. -/
  | unmatched (directive : String)
  /-- So many blocks are open at the end. -/
  | unterminated (count : Nat)
  /-- As the words say. -/
  | described (words : String)
  deriving DecidableEq, Repr

/-- The wording of an imbalance. -/
def Imbalance.message : Imbalance → String
  | .unmatched directive => "'" ++ directive ++ "' without matching '#if'/'#ifdef'/'#ifndef'"
  | .unterminated count => toString count ++ " unterminated conditional block(s) at end of input"
  | .described words => words

/-- What is wrong with a source. -/
inductive Problem where
  /-- As the words say. -/
  | general (words : String)
  /-- There is no such file. -/
  | notFound (target : Path)
  /-- A macro is defined twice. -/
  | redefinition (name : String)
  /-- An included file cannot be read. -/
  | includeNotFound (target : Path)
  /-- A file includes itself, by way of these. -/
  | circularInclude (chain : List Path)
  /-- Conditional blocks do not match. -/
  | unbalanced (imbalance : Imbalance)
  deriving DecidableEq, Repr

/-- The label of each kind of problem. -/
def Problem.kind : Problem → String
  | .general _ => "PreprocessorError"
  | .notFound _ => "not-found"
  | .redefinition _ => "no-redefine"
  | .includeNotFound _ => "include-not-found"
  | .circularInclude _ => "circular-include"
  | .unbalanced _ => "unbalanced-conditional"

/-- The wording of a problem. -/
def Problem.message : Problem → String
  | .general words => words
  | .notFound target => "'" ++ target.text ++ "' not found"
  | .redefinition name => "'" ++ name ++ "' cannot be redefined"
  | .includeNotFound target => "included file not found: " ++ target.text
  | .circularInclude chain =>
    "circular #include detected: " ++ String.intercalate " -> " (chain.map Path.text)
  | .unbalanced imbalance => imbalance.message

/-- A problem at a place. -/
structure Fault where
  /-- What is wrong. -/
  problem : Problem
  /-- Where it is wrong. -/
  location : Location
  deriving DecidableEq, Repr

/-- The message of a fault. -/
def Fault.message (fault : Fault) : String :=
  "Preprocessor error: " ++ fault.location.text ++ fault.problem.message

/-- Why something that depends on sources, files and encodings fails. -/
inductive Failure where
  /-- A fault of the notation. -/
  | fault (fault : Fault)
  /-- A file cannot be used. -/
  | file (error : FileError)
  /-- A file is not a text in its encoding. -/
  | undecodable (error : Text.CodecError)
  /-- A text has no form in its encoding. -/
  | unencodable
  /-- No encoding goes by this name. -/
  | unknownEncoding (name : String)
  /-- An integer has too many digits to be written out. -/
  | integerTooLong
  /-- A number is too large to be computed with. -/
  | overflow
  deriving DecidableEq, Repr

/-- Fails because of a problem at a place. -/
def Failure.at (problem : Problem) (location : Location) : Failure :=
  .fault ⟨problem, location⟩

end Hashmark
