import Hashmark.Pass.Run
import Hashmark.Text.Digest

/-!
# The cache of processed sources

Processed sources are stored in a directory, one artifact for each source and configuration. The
name of an artifact holds a digest of the absolute path of its source and of a fingerprint of the
configuration. An artifact is used as long as it is not older than its source; files that the source
includes are not looked at. A source that cannot be processed leaves the directory as it is.
-/

namespace Hashmark

/-- The options that decide the output of a pass, as one text: predefined macros in the order of
their names, model of blocks, kind of includes, base directory, encoding, and constants. There is
none if a constant has no text. -/
def Config.fingerprint? (config : Config) : Option String :=
  -- The order in which macros are predefined decides nothing.
  let sorted := config.defines.mergeSort fun a b => decide (a.1 ≤ b.1)
  let defines := sorted.map fun (name, value) => name ++ "=" ++ value
  config.ambient.shown?.map fun constants =>
    String.intercalate "|"
      [String.intercalate "," defines, config.mode.name,
        if config.recursiveIncludes then "True" else "False",
        (config.baseDirectory.map Path.text).getD "", config.encoding, constants]

/-- A cache: the directory of its artifacts, and the configuration of the passes. -/
structure Cache where
  /-- Where artifacts are stored. -/
  directory : Path
  /-- The options of the passes that make them. -/
  config : Config

/-- What comes of an operation on files: the files then, the warnings in their order, and the result
or the failure. -/
structure Outcome (α : Type) where
  /-- The files after the operation. -/
  files : FileTree
  /-- The warnings of passes. -/
  warnings : List String
  /-- The result. -/
  result : Except Failure α

/-- A pass over a file that writes nothing. -/
def Config.processFile (config : Config) (files : FileTree) (source : Path) : Outcome String :=
  let step := Pass.processFile ⟨config, files⟩ (Pass.State.start config.mode) source
  ⟨files, step.1.warnings.reverse, Pass.Step.result step⟩

namespace Cache

/-- What the names of artifacts end in. -/
def artifactSuffix : String := ".py"

/-- The file that keeps a cache directory out of version control. -/
def ignoreName : String := ".gitignore"

/-- What it says. -/
def ignoreText : String :=
  "# Internally created by PyPP\n# Do not include processed sources into git VCS\n*\n"

/-- The path of the artifact of a source. -/
def artifact? (cache : Cache) (here source : Path) : Option Path :=
  cache.config.fingerprint?.map fun fingerprint =>
    let key := (source.absolute here).text ++ "|" ++ fingerprint
    let digest := Text.Digest.hexDigest (Text.Encoding.encodeUtf8 key)
    cache.directory.child (source.stem ++ "_" ++ digest ++ artifactSuffix)

/-- Whether an artifact is there and not older than its source. -/
def isFresh (files : FileTree) (source artifact : Path) : Except FileError Bool :=
  match files.status? artifact, files.status? source with
  | .ok (some (.file _ made)), .ok (some (.file _ changed)) => .ok (changed ≤ made)
  -- A directory has no time here and counts as new.
  | .ok (some .directory), .ok _ => .ok true
  | .ok _, .ok _ => .ok false
  | .error e, _ => .error e
  | _, .error e => .error e

/-- Makes a cache directory, unless something is there, and tells version control to ignore it. -/
def prepareDirectory (files : FileTree) (directory : Path) : FileTree × Except FileError Unit :=
  match files.isPresent directory with
  | .error e => (files, .error e)
  | .ok true => (files, .ok ())
  | .ok false =>
    match files.makeDirectories directory with
    -- Directories above it that could be made before this are left out.
    | .error e => (files, .error e)
    | .ok made =>
      match made.write (directory.child ignoreName) (Text.Encoding.encodeUtf8 ignoreText) with
      | .error e => (made, .error e)
      | .ok written => (written, .ok ())

/-- Stores a text as an artifact: under a temporary name first, so that an artifact is never there
in part. -/
def store (files : FileTree) (artifact : Path) (config : Config) (text : String) :
    FileTree × Except Failure Unit :=
  let temporary := artifact.withName (artifact.name ++ ".tmp")
  match files.writeText temporary config text with
  | (written, .error e) => (written, .error e)
  | (written, .ok ()) =>
    match written.rename temporary artifact with
    | .error e => (written, .error (.file e))
    | .ok renamed => (renamed, .ok ())

/-- Processes a source and stores the result. -/
def build (cache : Cache) (files : FileTree) (source artifact : Path) : Outcome String :=
  let pass := cache.config.processFile files source
  match pass.result with
  -- A source that cannot be processed leaves the cache alone.
  | .error _ => pass
  | .ok text =>
    match prepareDirectory files cache.directory with
    | (files, .error e) => ⟨files, pass.warnings, .error (.file e)⟩
    | (files, .ok ()) =>
      let (files, stored) := store files artifact cache.config text
      ⟨files, pass.warnings, stored.map fun () => text⟩

/-- The processed text of a source: that of its artifact if it is fresh, and otherwise that of a
pass, which is stored. -/
def fetch (cache : Cache) (files : FileTree) (source : Path) : Outcome String :=
  let fail := fun e => Outcome.mk files [] (.error e)
  match files.isFile source with
  | .error e => fail (.file e)
  | .ok false => fail (.at (.notFound source) .unknown)
  | .ok true =>
    match cache.artifact? files.here source with
    | none => fail .integerTooLong
    | some artifact =>
      match isFresh files source artifact with
      | .error e => fail (.file e)
      | .ok true => ⟨files, [], files.readText artifact cache.config⟩
      | .ok false => cache.build files source artifact

/-- Whether clearing a cache removes the file of this name. -/
def isArtifactName (name : String) : Bool :=
  (Path.splitName name).2 == artifactSuffix

/-- Removes the artifacts from a cache directory: the files then, and how many were removed. -/
def clear (files : FileTree) (directory : Path) : FileTree × Except FileError Nat :=
  match files.status? directory with
  | .error e => (files, .error e)
  | .ok none => (files, .ok 0)
  | .ok (some (.file _ _)) => (files, .error ⟨.notDirectory, directory⟩)
  | .ok (some .directory) =>
    match files.locate directory with
    | .error e => (files, .error e)
    | .ok site =>
      -- Directories with the suffix stay.
      let isArtifact := fun (name : String) =>
        isArtifactName name && (match files.nodeAt? (site ++ [name]) with
          | some (.file _ _) => true
          | _ => false)
      let names := (files.children site).filter isArtifact
      (names.foldl (fun files name => files.prune (site ++ [name])) files, .ok names.length)

end Cache

end Hashmark
