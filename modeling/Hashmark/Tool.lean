import Hashmark.Cache
import Hashmark.CommandLine.Message
import Hashmark.CommandLine.Reading

/-!
# The command-line tool

The tool processes one source. Its output goes to a file or to the standard output, and only if the
source could be processed; every other outcome that the tool knows is reported in a message and in
the status that it returns. A run is a function of the arguments and of the files.
-/

namespace Hashmark.Tool

open CommandLine

/-- How a run ends. -/
inductive Ending where
  /-- The source was dealt with; the status tells how. -/
  | status (code : Nat)
  /-- The arguments asked for no source to be processed, or were wrong. -/
  | dismissed (code : Nat)
  /-- A failure that the tool does not report. -/
  | failed (failure : Failure)
  deriving DecidableEq, Repr

/-- What a run leaves. -/
structure Run where
  /-- The files after the run. -/
  files : FileTree
  /-- The text on the standard output. -/
  output : String
  /-- The text on the standard error output. -/
  errors : String
  /-- How the run ends. -/
  ending : Ending

/-- The switches of the tool that set something. -/
inductive Setting where
  /-- The help. -/
  | help
  /-- The file for the output. -/
  | output
  /-- A predefined macro. -/
  | define
  /-- The base directory. -/
  | baseDirectory
  /-- The flat model of conditional blocks. -/
  | flatConditionals
  /-- Included files are processed themselves. -/
  | recursiveIncludes
  /-- The cache directory. -/
  | cacheDirectory
  /-- The encoding of sources. -/
  | encoding
  /-- More messages. -/
  | verbose
  /-- The version. -/
  | version
  deriving DecidableEq, Repr

/-- The version of the tool. -/
def version : String := "PyPP v0.1.0"

/-- The switches of the tool. -/
def switches : List (Switch Setting) :=
  [⟨.help, ["-h", "--help"], .help, "show this help message and exit"⟩,
    ⟨.output, ["-o", "--output"], .value "OUTPUT", "Output file (default: stdout)"⟩,
    ⟨.define, ["-D", "--define"], .value "NAME[=VALUE]",
      "Predefine a macro (value defaults to 1); may be repeated"⟩,
    ⟨.baseDirectory, ["--base-dir"], .value "BASE_DIR",
      "Directory for relative #include paths in string input"⟩,
    ⟨.flatConditionals, ["--flat-conditionals"], .flag,
      "Track a single suppression flag instead of nested blocks"⟩,
    ⟨.recursiveIncludes, ["--recursive-includes"], .flag,
      "Preprocess #include targets instead of splicing them verbatim"⟩,
    ⟨.cacheDirectory, ["--cache-dir"], .value "CACHE_DIR",
      "Cache processed output in this directory"⟩,
    ⟨.encoding, ["--encoding"], .value "ENCODING", "Source encoding (default: utf-8)"⟩,
    ⟨.verbose, ["--verbose", "-v"], .flag, "Enable verbose logging"⟩,
    ⟨.version, ["--version"], .version version, "show program's version number and exit"⟩]

/-- The examples at the end of the help. -/
def examples : String :=
  String.intercalate "\n"
    ["Examples:",
      "  pypp module.ppy                          # Write processed source to stdout",
      "  pypp module.ppy -o module.py             # Write to a file",
      "  pypp module.ppy -D DEBUG -D LEVEL=3      # Predefine macros",
      "  pypp module.ppy --cache-dir .pypp_cache  # Reuse output while the source is unchanged",
      ""]

/-- What the tool accepts on its command line. -/
def interface : Interface Setting where
  program := "pypp"
  description := "PyPP - conditional compilation for Python sources via directive comments"
  switches := switches
  operand := ⟨"input", [], none, "Input source file"⟩
  closing := some examples

/-- What is asked of the tool. -/
structure Request where
  /-- The source. -/
  input : Path
  /-- The file for the output, unless it goes to the standard output. -/
  output : Option Path
  /-- The items that predefine macros. -/
  defines : List String
  /-- The options of the pass, but for the predefined macros. -/
  options : Config
  /-- The directory of the cache, if there is one. -/
  cacheDirectory : Option Path

/-- The request that arguments make on a host. -/
def Request.ofGiven (given : Given Setting) (host : Host := .reference) : Request where
  input := Path.ofText (given.operand.getD "")
  output := (given.value? .output).map Path.ofText
  defines := given.values .define
  options := {
    mode := if given.has .flatConditionals then .flat else .scoped
    recursiveIncludes := given.has .recursiveIncludes
    baseDirectory := (given.value? .baseDirectory).map Path.ofText
    encoding := (given.value? .encoding).getD "utf-8"
    host }
  cacheDirectory := (given.value? .cacheDirectory).map Path.ofText

/-- The processed text of a source, by way of the cache if there is one. -/
def Request.process (request : Request) (config : Config) (files : FileTree) : Outcome String :=
  match request.cacheDirectory with
  | some directory => Cache.fetch ⟨directory, config⟩ files request.input
  | none => config.processFile files request.input

/-- The paths that processing a source looks at: its own, and those of the files that it includes as
far as the files at hand lead to them. -/
def Request.reads (request : Request) (files : FileTree) : List Path :=
  match request.options.parseDefines request.defines with
  | .error _ => []
  | .ok config =>
    let step := Pass.processFile ⟨config, files⟩ (Pass.State.start config.mode) request.input
    request.input :: step.1.reads.reverse

/-- The message that reports a failure to process a source; some failures are not reported. -/
def report? (input : Path) : Failure → Option String
  | .fault fault => some fault.message
  | .file e =>
    if e.fault = .nullCharacter then none
    else some ("Error reading '" ++ input.text ++ "': " ++ e.message)
  | .undecodable (.malformed e) => some ("Error reading '" ++ input.text ++ "': " ++ e.message)
  | _ => none

/-- Puts a processed text where it is asked for. -/
def Request.deliver (request : Request) (config : Config) (text : String) (run : Run) : Run :=
  match request.output with
  | none => { run with output := text }
  | some target =>
    match run.files.writeText target config text with
    | (files, .error e) => { run with files, ending := .failed e }
    | (files, .ok ()) =>
      { run with
        files
        errors := run.errors ++
          messageLine ("Preprocessed: " ++ request.input.text ++ " -> " ++ target.text) }

/-- What a run leaves that satisfies a request. -/
def Request.run (request : Request) (files : FileTree) : Run :=
  match request.options.parseDefines request.defines with
  | .error e => ⟨files, "", messageLine ("Error: " ++ e.message), .status 2⟩
  | .ok config =>
    let outcome := request.process config files
    let warnings := String.join (outcome.warnings.map (· ++ "\n"))
    match outcome.result with
    | .ok text =>
      request.deliver config text ⟨outcome.files, "", warnings, .status 0⟩
    | .error e =>
      match report? request.input e with
      | some message => ⟨outcome.files, "", warnings ++ messageLine message, .status 1⟩
      | none => ⟨outcome.files, "", warnings, .failed e⟩

/-- What a run with these arguments leaves on a host. -/
def run (arguments : List String) (files : FileTree) (host : Host := .reference) : Run :=
  match interface.read arguments with
  | .ok given => (Request.ofGiven given host).run files
  | .error .help => ⟨files, interface.help, "", .dismissed 0⟩
  | .error (.version text) => ⟨files, text ++ "\n", "", .dismissed 0⟩
  | .error (.fault fault) => ⟨files, "", interface.complaint fault, .dismissed 2⟩

end Hashmark.Tool
