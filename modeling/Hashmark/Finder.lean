import Hashmark.Cache

/-!
# Finding modules

Modules written with directives are found along a search path. In each directory a package, which is
a directory with an initial file, comes before a plain module of the same name, and the first
directory that has either decides. What is found is processed, through a cache if there is one.
-/

namespace Hashmark

/-- The suffix of annotated sources. -/
def sourceSuffix : String := ".ppy"

/-- The name of the initial file of a package. -/
def packageInit : String := "__init__"

/-- A finder of modules: the options of the passes, and the cache of their results if there is
one. -/
structure Finder where
  /-- The options. -/
  config : Config
  /-- The cache. -/
  cache : Option Cache

/-- A module that was found. -/
structure ModuleSpec where
  /-- The full name of the module. -/
  name : String
  /-- Its file, as found. -/
  location : Path
  /-- The directory to search for its parts, if it is a package. -/
  search : Option Path
  deriving DecidableEq, Repr

namespace ModuleSpec

/-- The file of a module from the root on. -/
def origin (spec : ModuleSpec) (here : Path) : Path :=
  spec.location.absolute here

end ModuleSpec

/-- The part of a module's name behind its last full stop. -/
def tailName (fullName : String) : String :=
  String.ofList ((Text.fields '.' fullName.toList).getLastD [])

/-- Whether a module's file makes it a package, by the names of the two. -/
def ModuleSpec.isPackage (spec : ModuleSpec) : Bool :=
  let parts := Text.fields '.' spec.location.name.toList
  -- The name of the file without its last suffix.
  let base := if parts.length ≤ 1 then parts else parts.dropLast
  List.intercalate ['.'] base == packageInit.toList && tailName spec.name != packageInit

namespace Finder

/-- The module that one directory of a search path holds. -/
def findIn (files : FileTree) (fullName : String) (entry : String) :
    Except FileError (Option ModuleSpec) :=
  let name := tailName fullName
  let base := Path.ofText entry
  let package := base.child name
  let initial := package.child (packageInit ++ sourceSuffix)
  let module := base.child (name ++ sourceSuffix)
  match files.isFile initial with
  | .error e => .error e
  | .ok true => .ok (some ⟨fullName, initial, some package⟩)
  | .ok false =>
    match files.isFile module with
    | .error e => .error e
    | .ok true => .ok (some ⟨fullName, module, none⟩)
    | .ok false => .ok none

/-- The first module of a name along a search path. Entries that are no texts are passed over. -/
def find (files : FileTree) (fullName : String) :
    List (Option String) → Except FileError (Option ModuleSpec)
  | [] => .ok none
  | none :: entries => find files fullName entries
  | some entry :: entries =>
    match findIn files fullName entry with
    | .error e => .error e
    | .ok (some spec) => .ok (some spec)
    | .ok none => find files fullName entries

/-- The processed text of a file. -/
def processed (finder : Finder) (files : FileTree) (location : Path) : Outcome String :=
  match finder.cache with
  | some cache => cache.fetch files location
  | none => finder.config.processFile files location

/-- The bytes behind a path: the processed text if it is the file of the module, and otherwise what
the file holds. -/
def data (finder : Finder) (files : FileTree) (spec : ModuleSpec) (path : String) :
    Outcome (List UInt8) :=
  if path = spec.location.text then
    let outcome := finder.processed files spec.location
    ⟨outcome.files, outcome.warnings, outcome.result.map Text.Encoding.encodeUtf8⟩
  else
    let read := match files.read (Path.ofText path) with
      | .ok bytes => Except.ok bytes
      | .error e => .error (Failure.file e)
    ⟨files, [], read⟩

end Finder

/-- A finder in the list of those that are asked for modules. -/
inductive FinderEntry where
  /-- One of this library, by its number. -/
  | ours (number : Nat)
  /-- The standard one, which looks along the search path. -/
  | standard
  /-- Another one. -/
  | other (number : Nat)
  deriving DecidableEq, Repr

/-- The finders that are asked for modules, in order. -/
abbrev FinderList := List FinderEntry

namespace FinderList

/-- Registers a finder right before the standard one, which would claim a package without an
ordinary initial file, or else at the end. -/
def install (number : Nat) : FinderList → FinderList
  | [] => [.ours number]
  | .standard :: rest => .ours number :: .standard :: rest
  | entry :: rest => entry :: install number rest

/-- Removes a finder, or all finders of this library. -/
def uninstall (number : Option Nat) (finders : FinderList) : FinderList :=
  finders.filter fun
    | .ours n => match number with
      | some m => n != m
      | none => false
    | _ => true

/-- The numbers of the finders of this library. -/
def ours (finders : FinderList) : List Nat :=
  finders.filterMap fun
    | .ours n => some n
    | _ => none

/-- Whether all finders of this library come before the standard one. -/
def oursFirst : FinderList → Bool
  | [] => true
  | .standard :: rest => (ours rest).isEmpty
  | _ :: rest => oursFirst rest

end FinderList

end Hashmark
