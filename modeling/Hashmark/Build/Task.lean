import Hashmark.Build.Session
import Hashmark.Build.Tree

/-!
# The tasks of a build

Installing what the project depends on, running the tool on the fixtures, running the tests, putting
a distribution together, and removing what builds leave behind.
-/

namespace Hashmark.Build

/-- Stops because a directory cannot be used as such. -/
def stopAt {α : Type} (e : FileError) : Step α :=
  let (number, wording) := e.fault.description
  throw (.failed ("[Errno " ++ toString number ++ "] " ++ wording ++ ": PosixPath(" ++
    Text.quoted e.path.text ++ ")"))

/-- The result of a change of the files, which a fault stops. -/
def change (f : FileTree → Except FileError FileTree) : Step Unit := do
  match f (← get).files with
  | .ok files => modify fun s => { s with files }
  | .error e => stopAt e

/-- Installs the project and what it depends on. -/
def installDependencies : Step Unit := do
  say "Installing Python dependencies..."
  let s ← get
  discard <| run [s.interpreter, "-m", "pip", "install", "-e", s.root.text] true

/-- Runs the tests, and answers whether they pass. -/
def runTests : Step Bool := do
  say "Running tests..."
  let s ← get
  let status ← run [s.interpreter, (s.root.join (Path.ofText "tests/run_tests.py")).text] false
  pure (status == 0)

/-- Runs the tool on a fixture, and answers whether it succeeds. -/
def validate (fixture : Path) : Step Bool := do
  say ("Validating " ++ fixture.name ++ "...")
  let s ← get
  let status ← run [s.interpreter, s.launcher.text, fixture.text] false
  say (if status = 0 then "  Preprocessing successful" else "  Preprocessing failed")
  pure (status == 0)

/-- The fixtures in the order of their names. -/
def Session.fixtures (s : Session) : List Path :=
  let directory := s.root.join (Path.ofText "tests/fixtures")
  match s.files.locate directory with
  | .error _ => []
  | .ok site =>
    let names := (s.files.children site).filter fun name => name.endsWith ".ppy"
    (names.mergeSort fun a b => decide (a ≤ b)).map directory.child

/-- Runs the tool on each of the fixtures, and answers whether it succeeds on all of them. -/
def validateFixtures : Step Bool := do
  say "Validating fixture files..."
  let passed ← (← get).fixtures.mapM validate
  pure (passed.all id)

/-- What goes into a distribution. -/
def distributed : List String :=
  ["src", "tests", "pypp.py", "DESIGN.md", "pyproject.toml", "build.py"]

/-- The names of what is left out of a distribution. -/
def isLeftOut (name : String) : Bool :=
  name = "__pycache__" || name = ".pypp_cache"

/-- Copies something from the directory of the project into the distribution. -/
def distribute (root target : Path) (files : FileTree) (name : String) : FileTree :=
  match files.locate (root.child name), files.locate (target.child name) with
  | .ok source, .ok place => files.copy isLeftOut source place
  | _, _ => files

/-- Puts a distribution together, in the place of one that is there. -/
def createDistribution : Step Unit := do
  say "Creating distribution package..."
  let root := (← get).root
  let target := root.child "dist"
  -- An old distribution is removed before the new one is made.
  change fun files =>
    match files.isPresent target with
    | .ok true => files.removeDirectory target
    | .ok false => .ok files
    | .error e => .error e
  change fun files => files.makeDirectory target
  change fun files => .ok (distributed.foldl (distribute root target) files)
  say ("Distribution created in: " ++ target.text)

/-- The directories that builds leave behind. -/
def leftDirectories : List String := ["dist", "build", ".pypp_cache"]

/-- What else builds leave behind, by the names that lead there from the directory of the project:
compiled files and their directories at any depth, and the facts about an installed package. -/
def leftPatterns : List (Site → Bool) :=
  [fun names => (names.getLast?.getD "").endsWith ".pyc",
    fun names => names.getLast? = some "__pycache__",
    fun names => names.length = 1 && (names.headD "").endsWith ".egg-info"]

/-- Removes the directories that builds leave behind: the files then, the paths of what was removed
or was about to be, and the fault that ended it. -/
def removeDirectories (root : Path) (files : FileTree) :
    List String → FileTree × List Path × Option FileError
  | [] => (files, [], none)
  | name :: names =>
    let path := root.child name
    match files.isPresent path with
    | .error e => (files, [], some e)
    | .ok false => removeDirectories root files names
    | .ok true =>
      match files.removeDirectory path with
      | .error e => (files, [path], some e)
      | .ok files =>
        let (files, removed, fault) := removeDirectories root files names
        (files, path :: removed, fault)

/-- Removes what fits one of the patterns: the files then, and the places of what was removed. -/
def removePatterns (top : Site) (files : FileTree) :
    List (Site → Bool) → FileTree × List Site
  | [] => (files, [])
  | pattern :: patterns =>
    let (files, removed) := files.removeAll (files.search top pattern)
    let (files, further) := removePatterns top files patterns
    (files, removed ++ further)

/-- Removes what builds leave behind; what is removed is listed in the order of the lines. -/
def clean : Step Unit := do
  say "Cleaning build artifacts..."
  let s ← get
  let (files, directories, fault) := removeDirectories s.root s.files leftDirectories
  let top := match s.files.locate s.root with
    | .ok top => top
    | .error _ => []
  -- After a fault nothing else is removed, but what was removed is still listed.
  let (files, sites) := if fault.isSome then (files, []) else removePatterns top files leftPatterns
  let paths := directories ++ sites.map fun site => s.root.join ⟨"", site.drop top.length⟩
  let lines := paths.map fun path => "Removing: " ++ path.text
  set { s with files }
  (lines.mergeSort fun a b => decide (a ≤ b)).forM say
  match fault with
  | some e => stopAt e
  | none => pure ()

end Hashmark.Build
