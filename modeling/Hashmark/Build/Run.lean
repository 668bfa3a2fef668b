import Hashmark.Build.Task

/-!
# Builds

A build performs the tasks that its target asks for, one after the other. A task that fails without
being in trouble does not keep the next ones from being performed, but the build has failed then.
-/

namespace Hashmark.Build

open CommandLine

/-- What a build is for. -/
inductive Target where
  /-- Every task but cleaning. -/
  | all
  /-- Installing what the project depends on. -/
  | dependencies
  /-- Running the tests. -/
  | tests
  /-- Putting a distribution together. -/
  | distribution
  /-- Removing what builds leave behind. -/
  | cleaning
  /-- Running the tool on the fixtures. -/
  | validation
  deriving DecidableEq, Repr

namespace Target

/-- The name of each target. -/
def name : Target → String
  | all => "all"
  | dependencies => "deps"
  | tests => "test"
  | distribution => "dist"
  | cleaning => "clean"
  | validation => "validate"

/-- The targets. -/
def every : List Target := [all, dependencies, tests, distribution, cleaning, validation]

/-- The target that goes by a name. -/
def ofName? (name : String) : Option Target :=
  every.find? fun target => target.name == name

/-- Whether a target asks for a task. -/
def includes (target task : Target) : Bool :=
  target = all || target = task

end Target

/-- The switches of a build. -/
inductive Setting where
  /-- The help. -/
  | help
  /-- No tests are run. -/
  | skipTests
  deriving DecidableEq, Repr

/-- What a build accepts on its command line. -/
def interface : Interface Setting where
  program := "build.py"
  description := "Build PyPP"
  switches :=
    [⟨.help, ["-h", "--help"], .help, "show this help message and exit"⟩,
      ⟨.skipTests, ["--skip-tests"], .flag, "Skip running tests"⟩]
  operand :=
    ⟨"command", Target.every.map Target.name, some Target.all.name, "Build command to run"⟩
  closing := none

/-- What a build leaves. -/
structure Result where
  /-- The session at its end. -/
  session : Session
  /-- The text on the standard error output. -/
  errors : String
  /-- The status. -/
  status : Nat

/-- The line between the parts of a report. -/
def rule : String := String.ofList (List.replicate 40 '=')

/-- Performs the tasks of a target other than cleaning, and answers whether all succeed. -/
def perform (target : Target) (skipTests : Bool) : Step Bool := do
  if target.includes .dependencies then installDependencies
  let isValid ← if target.includes .validation then validateFixtures else pure true
  let passes ← if target.includes .tests && !skipTests then runTests else pure true
  if target.includes .distribution then createDistribution
  pure (isValid && passes)

/-- The last lines of a build that has succeeded. -/
def successLines (target : Target) : List String :=
  "Build completed successfully!" ::
    if target = .all then
      ["", "Next steps:", "1. Preprocess a file: python pypp.py module.ppy -o module.py",
        "2. Import .ppy modules: from src.loader.hook import install; install()"]
    else []

/-- A session with further lines printed. -/
def Session.print (s : Session) (lines : List String) : Session :=
  { s with printed := lines.foldl (fun text line => text ++ line ++ "\n") s.printed }

/-- The end of a build that has failed. -/
def failed (s : Session) : Result :=
  ⟨s.print ["", rule, "Build failed!"], "", 1⟩

/-- The end of a build that has succeeded. -/
def succeeded (target : Target) (s : Session) : Result :=
  ⟨s.print (["", rule] ++ successLines target), "", 0⟩

/-- The words for a trouble. -/
def Trouble.message : Trouble → String
  | .interrupted => "Build interrupted by user"
  | .failed reason => "Build failed with error: " ++ reason

/-- Builds a target. Cleaning ends without further words. -/
def build (target : Target) (skipTests : Bool) (s : Session) : Result :=
  let s := s.print ["PyPP Build Script", rule]
  if target = .cleaning then
    match clean.run s with
    | .ok _ s => ⟨s, "", 0⟩
    | .error trouble s => failed (s.print ["", trouble.message])
  else
    match (perform target skipTests).run s with
    | .ok true s => succeeded target s
    | .ok false s => failed s
    | .error trouble s => failed (s.print ["", trouble.message])

/-- What a build with these arguments leaves. -/
def runWith (arguments : List String) (s : Session) : Result :=
  match interface.read arguments with
  | .ok given =>
    build (((given.operand).bind Target.ofName?).getD .all) (given.has .skipTests) s
  | .error .help => ⟨{ s with printed := s.printed ++ interface.help }, "", 0⟩
  | .error (.version text) => ⟨s.print [text], "", 0⟩
  | .error (.fault fault) => ⟨s, interface.complaint fault, 2⟩

end Hashmark.Build
