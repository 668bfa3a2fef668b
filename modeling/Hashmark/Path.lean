import Hashmark.Text.Blank

/-!
# Paths

A path is a root, empty for a path that depends on the working directory, and a list of names. Empty
names and single full stops carry no meaning and are dropped when a path is read; two full stops are
kept, because what they lead to depends on the directories that exist. `resolve` folds them.
-/

namespace Hashmark

/-- A path in a tree of files. -/
structure Path where
  /-- The empty text, one slash, or exactly two of them. -/
  root : String
  /-- The names along the path. -/
  names : List String
  deriving DecidableEq, Repr, Inhabited

namespace Path

/-- Reads a path. -/
def ofText (text : String) : Path :=
  let slashes := (text.toList.takeWhile (· == '/')).length
  let names := (Text.fields '/' text.toList).map String.ofList
  ⟨if slashes = 0 then "" else if slashes = 2 then "//" else "/",
    names.filter fun name => name != "" && name != "."⟩

/-- The text of a path; the path without root and names is the working directory, a full stop. -/
def text (path : Path) : String :=
  if path.root = "" && path.names.isEmpty then "."
  else path.root ++ String.intercalate "/" path.names

instance : ToString Path := ⟨text⟩

/-- Whether a path has a root. -/
def isAbsolute (path : Path) : Bool :=
  path.root != ""

/-- The path `other` taken from `path`. -/
def join (path other : Path) : Path :=
  if other.isAbsolute then other else ⟨path.root, path.names ++ other.names⟩

/-- The path of something named `name` in the directory `path`. -/
def child (path : Path) (name : String) : Path :=
  path.join (ofText name)

/-- The path without its last name. -/
def parent (path : Path) : Path :=
  ⟨path.root, path.names.dropLast⟩

/-- The last name, empty if there is none. -/
def name (path : Path) : String :=
  path.names.getLast?.getD ""

/-- A name in two parts: up to its last full stop, and from there on. There is no second part when
the full stop comes first or last. -/
def splitName (name : String) : String × String :=
  let cs := name.toList
  let stem := (Text.dropTrailing (· != '.') cs).dropLast
  let suffix := cs.drop stem.length
  if stem.isEmpty || suffix.length < 2 then (name, "")
  else (String.ofList stem, String.ofList suffix)

/-- The last name without its suffix. -/
def stem (path : Path) : String :=
  (splitName path.name).1

/-- The last full stop of the last name and what follows it. -/
def suffix (path : Path) : String :=
  (splitName path.name).2

/-- The path with another last name. -/
def withName (path : Path) (name : String) : Path :=
  ⟨path.root, path.names.dropLast ++ [name]⟩

/-- The path taken from the working directory `here`, unless it has a root. -/
def absolute (path here : Path) : Path :=
  here.join path

/-- Folds every pair of full stops with the name before it; `done` holds the names so far,
reversed. -/
def foldNames (done : List String) : List String → List String
  | [] => done.reverse
  | name :: names =>
    if name = ".." then foldNames done.tail names else foldNames (name :: done) names

/-- The path from the root that a path names, two full stops being folded. -/
def resolve (path here : Path) : Path :=
  ⟨"/", foldNames [] (path.absolute here).names⟩

end Path

end Hashmark
