import Hashmark.Path
import Hashmark.Text.Encoding

/-!
# Trees of files

The files that a run reads and writes, as a value: directories and files by the names that lead to
them from the root, the working directory, and the present time. A path is followed name by name, so
that a missing directory, or a file in the place of one, is reported as such, and two full stops
lead to the directory above only behind a directory that exists.
-/

namespace Hashmark

/-- What a place in a tree holds. -/
inductive Node where
  /-- A directory. -/
  | directory
  /-- A file: its bytes and the time of its last change. -/
  | file (bytes : List UInt8) (time : Nat)
  deriving DecidableEq, Repr

/-- Why something cannot be done with a path. -/
inductive FileFault where
  /-- Nothing is there. -/
  | missing
  /-- Something is there already. -/
  | occupied
  /-- A file stands in the place of a directory. -/
  | notDirectory
  /-- A directory stands in the place of a file. -/
  | isDirectory
  /-- A name has more than 255 bytes, or the path more than 4095. -/
  | tooLong
  /-- The path holds the null character. -/
  | nullCharacter
  deriving DecidableEq, Repr

/-- The number by which the system knows a fault, and its wording. -/
def FileFault.description : FileFault → Nat × String
  | .missing => (2, "No such file or directory")
  | .occupied => (17, "File exists")
  | .notDirectory => (20, "Not a directory")
  | .isDirectory => (21, "Is a directory")
  | .tooLong => (36, "File name too long")
  | .nullCharacter => (22, "embedded null byte")

/-- A fault and the path on which it was met. -/
structure FileError where
  /-- What is wrong. -/
  fault : FileFault
  /-- The path as it was given. -/
  path : Path
  deriving DecidableEq, Repr

/-- The report of a fault: its number, its wording, and the path. -/
def FileError.message (e : FileError) : String :=
  let (number, wording) := e.fault.description
  if e.fault = .nullCharacter then wording
  else "[Errno " ++ toString number ++ "] " ++ wording ++ ": " ++ Text.quoted e.path.text

/-- The names that lead to a place from the root, without full stops. -/
abbrev Site := List String

/-- A tree of files. -/
structure FileTree where
  /-- What is at each place below the root; a place that is not listed is empty. -/
  nodes : List (Site × Node)
  /-- The working directory. -/
  here : Path
  /-- The time that a file written now gets. -/
  now : Nat
  deriving Repr

namespace FileTree

/-- What is at a place. -/
def nodeAt? (tree : FileTree) (site : Site) : Option Node :=
  if site.isEmpty then some .directory
  else (tree.nodes.find? fun entry => entry.1 == site).map Prod.snd

/-- The tree with a node at a place, instead of what is there. -/
def put (tree : FileTree) (site : Site) (node : Node) : FileTree :=
  if tree.nodes.any fun entry => entry.1 == site then
    { tree with nodes := tree.nodes.map fun entry =>
        if entry.1 == site then (site, node) else entry }
  else { tree with nodes := tree.nodes ++ [(site, node)] }

/-- The tree without a place and all that is below it. -/
def prune (tree : FileTree) (site : Site) : FileTree :=
  { tree with nodes := tree.nodes.filter fun entry => entry.1.take site.length != site }

/-- How many bytes a name has in UTF-8. -/
def byteLength (name : String) : Nat :=
  (Text.Encoding.encodeUtf8 name).length

/-- Follows names from the place `from`, which is a directory as far as names follow it. -/
def follow (tree : FileTree) (start : Site) : List String → Except FileFault Site
  | [] => .ok start
  | name :: names =>
    match tree.nodeAt? start with
    | none => .error .missing
    | some (.file _ _) => .error .notDirectory
    | some .directory =>
      if 255 < byteLength name then .error .tooLong
      -- The directory above is entered from one that exists.
      else if name = ".." then follow tree start.dropLast names
      else follow tree (start ++ [name]) names

/-- The place that a path leads to; there may be nothing, but the directory of it exists. -/
def locate (tree : FileTree) (path : Path) : Except FileError Site :=
  let fail := fun fault => Except.error (FileError.mk fault path)
  if path.text.toList.contains '\x00' then fail .nullCharacter
  else if 4095 < byteLength path.text then fail .tooLong
  else match follow tree [] (path.absolute tree.here).names with
    | .ok site => .ok site
    | .error fault => fail fault

/-- What a path leads to. -/
def status (tree : FileTree) (path : Path) : Except FileError Node :=
  match tree.locate path with
  | .error e => .error e
  | .ok site =>
    match tree.nodeAt? site with
    | some node => .ok node
    | none => .error ⟨.missing, path⟩

/-- What a path leads to, if anything; only a name that is too long is a fault. -/
def status? (tree : FileTree) (path : Path) : Except FileError (Option Node) :=
  match tree.status path with
  | .ok node => .ok (some node)
  -- A name with a null character leads nowhere, like one that is missing.
  | .error e => if e.fault = .tooLong then .error e else .ok none

/-- Whether anything is where a path leads. -/
def isPresent (tree : FileTree) (path : Path) : Except FileError Bool :=
  (tree.status? path).map Option.isSome

/-- Whether a path leads to a file. -/
def isFile (tree : FileTree) (path : Path) : Except FileError Bool :=
  (tree.status? path).map fun
    | some (.file _ _) => true
    | _ => false

/-- The bytes of the file that a path leads to. -/
def read (tree : FileTree) (path : Path) : Except FileError (List UInt8) :=
  match tree.status path with
  | .error e => .error e
  | .ok .directory => .error ⟨.isDirectory, path⟩
  | .ok (.file bytes _) => .ok bytes

/-- The tree with bytes written to the file that a path leads to, at the present time. -/
def write (tree : FileTree) (path : Path) (bytes : List UInt8) : Except FileError FileTree :=
  match tree.locate path with
  | .error e => .error e
  | .ok site =>
    match tree.nodeAt? site with
    | some .directory => .error ⟨.isDirectory, path⟩
    | _ =>
      match tree.nodeAt? site.dropLast with
      | some .directory => .ok (tree.put site (.file bytes tree.now))
      | _ => .error ⟨.missing, path⟩

/-- The tree with a new directory where a path leads. -/
def makeDirectory (tree : FileTree) (path : Path) : Except FileError FileTree :=
  match tree.locate path with
  | .error e => .error e
  | .ok site =>
    match tree.nodeAt? site with
    | some _ => .error ⟨.occupied, path⟩
    | none =>
      match tree.nodeAt? site.dropLast with
      | some .directory => .ok (tree.put site .directory)
      | _ => .error ⟨.missing, path⟩

/-- Whether a path leads to a directory. -/
def isDirectory (tree : FileTree) (path : Path) : Bool :=
  match tree.status path with
  | .ok .directory => true
  | _ => false

/-- The tree with a new directory where a path leads, and with the directories above it that are
missing. The first argument bounds how many of them there are; `lenient` says that the directory may
exist. -/
def makeDirectoriesWithin (tree : FileTree) (lenient : Bool) (path : Path) :
    Nat → Except FileError FileTree
  | 0 => tree.makeDirectory path
  | depth + 1 =>
    match tree.makeDirectory path with
    | .ok made => .ok made
    | .error e =>
      -- The directory above is made first, and may have been there.
      if e.fault = .missing then
        match makeDirectoriesWithin tree true path.parent depth with
        | .error e => .error e
        | .ok above =>
          match above.makeDirectory path with
          | .ok made => .ok made
          | .error e => if lenient && above.isDirectory path then .ok above else .error e
      else if lenient && tree.isDirectory path then .ok tree
      else .error e

/-- The tree with a new directory where a path leads, and with the directories above it. -/
def makeDirectories (tree : FileTree) (path : Path) : Except FileError FileTree :=
  tree.makeDirectoriesWithin false path path.names.length

/-- The names in a directory. -/
def children (tree : FileTree) (site : Site) : List String :=
  tree.nodes.filterMap fun (place, _) =>
    if place.dropLast == site && !place.isEmpty then place.getLast? else none

/-- The tree with the file at the end of a path moved to another name in its directory. -/
def rename (tree : FileTree) (path target : Path) : Except FileError FileTree :=
  match tree.status path with
  | .error e => .error e
  | .ok node =>
    match tree.locate path, tree.locate target with
    | .ok site, .ok place =>
      -- A file takes the place of another, but not that of a directory.
      if tree.nodeAt? place = some .directory then .error ⟨.isDirectory, path⟩
      else .ok ((tree.prune site).put place node)
    | .error e, _ => .error e
    | _, .error e => .error e

/-- The tree without what a path leads to. -/
def remove (tree : FileTree) (path : Path) : FileTree :=
  match tree.locate path with
  | .ok site => tree.prune site
  | .error _ => tree

end FileTree

end Hashmark
