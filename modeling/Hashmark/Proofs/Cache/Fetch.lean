import Hashmark.Proofs.Cache.Store
import Hashmark.Proofs.Pass.Output

/-!
# What a fetch gives and what it does

A fetch fails before it has changed any file, or reads an artifact that is fresh, or builds one
(`fetch_fetches`); and building one comes to one of five things (`build_builds`). So where the
encoding can write what it reads, a fetch gives what a pass over the source gives, provided that a
fresh artifact holds the output of such a pass (`fetch_of_faithful`), or fails because the cache
cannot be used, in one of the ways that `Unusable` lists. It changes files only if the pass succeeds
and no artifact is fresh, and then it does no more than to prepare the cache directory and to store
one artifact (`fetch_files`).
-/

namespace Hashmark

/-- The text that a pass over a file gives is made of characters that the encoding reads. -/
theorem Config.reads_of_processFile {config : Config} {files : FileTree} {source : Path}
    {text : String} (h : (config.processFile files source).result = .ok text) :
    ∃ codec, config.codec? = some codec ∧ ∀ c ∈ text.toList, codec.Reads c :=
  @Pass.reads_of_result ⟨config, files⟩ (.start config.mode) source text h

/-- The text that a pass over a file gives reads back from the bytes that write it. -/
theorem Config.decode_of_processFile {config : Config} (hfaithful : config.Faithful)
    {files : FileTree} {source : Path} {text : String} {codec : Text.Codec} {bytes : List UInt8}
    (h : (config.processFile files source).result = .ok text) (hcodec : config.codec? = some codec)
    (hencode : codec.encode text = some bytes) : codec.decode bytes = .ok text := by
  obtain ⟨found, hfound, hreads⟩ := reads_of_processFile h
  obtain rfl := Option.some.inj (hcodec.symm.trans hfound)
  obtain ⟨written, hwritten, hdecode⟩ := hfaithful codec hcodec text hreads
  obtain rfl := Option.some.inj (hencode.symm.trans hwritten)
  exact hdecode

/-- The text that a pass over a file gives can be written. -/
theorem Config.encode_of_processFile {config : Config} (hfaithful : config.Faithful)
    {files : FileTree} {source : Path} {text : String} {codec : Text.Codec}
    (h : (config.processFile files source).result = .ok text)
    (hcodec : config.codec? = some codec) : codec.encode text ≠ none := by
  obtain ⟨found, hfound, hreads⟩ := reads_of_processFile h
  obtain rfl := Option.some.inj (hcodec.symm.trans hfound)
  obtain ⟨written, hwritten, -⟩ := hfaithful codec hcodec text hreads
  rw [hwritten]
  exact Option.some_ne_none _

namespace Cache

/-- An artifact is fresh if it is a file that is not older than its source, or a directory. -/
theorem isFresh_eq_true {files : FileTree} {source artifact : Path}
    (h : isFresh files source artifact = .ok true) :
    (∃ bytes made content changed, files.status artifact = .ok (.file bytes made) ∧
      files.status source = .ok (.file content changed) ∧ changed ≤ made) ∨
    files.status? artifact = .ok (some .directory) := by
  unfold isFresh at h
  split at h
  case h_1 bytes made content changed hartifact hsource =>
    refine .inl ⟨bytes, made, content, changed, FileTree.status?_eq_some.1 hartifact,
      FileTree.status?_eq_some.1 hsource, ?_⟩
    simpa using Except.ok.inj h
  case h_2 hartifact _ => exact .inr hartifact
  · cases h
  · cases h
  · cases h

/-- An artifact that is not fresh is no directory, and older than its source if it is a file. -/
theorem isFresh_eq_false {files : FileTree} {source artifact : Path}
    (h : isFresh files source artifact = .ok false) {content : List UInt8} {changed : Nat}
    (hsource : files.status source = .ok (.file content changed)) :
    files.status artifact ≠ .ok .directory ∧
      ∀ bytes made, files.status artifact = .ok (.file bytes made) → made < changed := by
  have hsource' := FileTree.status?_eq_some.2 hsource
  unfold isFresh at h
  rw [hsource'] at h
  refine ⟨fun hartifact => ?_, fun bytes made hartifact => ?_⟩
  · rw [FileTree.status?_eq_some.2 hartifact] at h
    cases h
  · rw [FileTree.status?_eq_some.2 hartifact] at h
    have hlate := Except.ok.inj h
    simp only [decide_eq_false_iff_not] at hlate
    omega

/-- Only the path of the artifact keeps from telling whether it is fresh. -/
theorem isFresh_eq_error {files : FileTree} {source artifact : Path} {e : FileError}
    (h : isFresh files source artifact = .error e) {node : Node}
    (hsource : files.status source = .ok node) : files.status? artifact = .error e := by
  have hsource' := FileTree.status?_eq_some.2 hsource
  unfold isFresh at h
  rw [hsource'] at h
  split at h
  · cases h
  · cases h
  · cases h
  case h_4 hartifact =>
    rw [← Except.error.inj h]
    exact hartifact
  case h_5 herror _ => cases herror

/-- A fetch of a source comes to look at an artifact, and finds it fresh or not. -/
structure Finds (cache : Cache) (files : FileTree) (source artifact : Path) (fresh : Bool) :
    Prop where
  /-- The source is a file. -/
  isFile : files.isFile source = .ok true
  /-- The artifact is that of the source. -/
  name : cache.artifact? files.here source = some artifact
  /-- It can be told whether the artifact is fresh. -/
  freshness : isFresh files source artifact = .ok fresh

/-- What a fetch comes to. -/
inductive Fetches (cache : Cache) (files : FileTree) (source : Path) : Outcome String → Prop
  /-- The source is no file, so that a pass over it fails. -/
  | missing {e : Failure} : (cache.config.processFile files source).result = .error e →
    Fetches cache files source ⟨files, [], .error e⟩
  /-- The configuration has no fingerprint, and the artifact no name. -/
  | unnamed : cache.config.fingerprint? = none →
    Fetches cache files source ⟨files, [], .error .integerTooLong⟩
  /-- The path of the artifact cannot be looked at. -/
  | unreachable {artifact : Path} {e : FileError} :
    cache.artifact? files.here source = some artifact → files.status? artifact = .error e →
    Fetches cache files source ⟨files, [], .error (.file e)⟩
  /-- The artifact is fresh, and is read. -/
  | fresh {artifact : Path} : Finds cache files source artifact true →
    Fetches cache files source ⟨files, [], files.readText artifact cache.config⟩
  /-- The artifact is not fresh, and is built. -/
  | stale {artifact : Path} : Finds cache files source artifact false →
    Fetches cache files source (cache.build files source artifact)

section Finds

variable {cache : Cache} {files : FileTree} {source artifact : Path}

/-- A fetch comes to one of these. -/
theorem fetch_fetches (cache : Cache) (files : FileTree) (source : Path) :
    Fetches cache files source (cache.fetch files source) := by
  have hmissing := @Fetches.missing cache files source
  simp only [Config.processFile, Pass.processFile, Pass.readSource] at hmissing
  unfold fetch
  simp only
  cases hfile : files.isFile source with
  | error e =>
    rw [hfile] at hmissing
    exact hmissing rfl
  | ok isFile =>
    cases isFile with
    | false =>
      rw [hfile] at hmissing
      exact hmissing rfl
    | true =>
      obtain ⟨content, changed, hsource⟩ := FileTree.isFile_eq_true.1 hfile
      cases hartifact : cache.artifact? files.here source with
      | none => exact .unnamed (Option.map_eq_none_iff.1 hartifact)
      | some artifact =>
        simp only
        cases hfresh : isFresh files source artifact with
        | error e => exact .unreachable hartifact (isFresh_eq_error hfresh hsource)
        | ok fresh =>
          cases fresh with
          | true => exact .fresh ⟨hfile, hartifact, hfresh⟩
          | false => exact .stale ⟨hfile, hartifact, hfresh⟩

/-- A fresh artifact is read. -/
theorem Finds.fetch_of_fresh (h : Finds cache files source artifact true) :
    cache.fetch files source = ⟨files, [], files.readText artifact cache.config⟩ := by
  simp only [fetch, h.isFile, h.name, h.freshness]

/-- An artifact that is not fresh is built. -/
theorem Finds.fetch_of_stale (h : Finds cache files source artifact false) :
    cache.fetch files source = cache.build files source artifact := by
  simp only [fetch, h.isFile, h.name, h.freshness]

/-- A fetch looks at an artifact, or fails before it has changed any file. -/
theorem fetch_eq_or_finds (cache : Cache) (files : FileTree) (source : Path) :
    (∃ e, cache.fetch files source = ⟨files, [], .error e⟩) ∨
      ∃ artifact fresh, Finds cache files source artifact fresh := by
  have hfetches := fetch_fetches cache files source
  generalize cache.fetch files source = fetched at hfetches ⊢
  cases hfetches with
  | missing => exact .inl ⟨_, rfl⟩
  | unnamed => exact .inl ⟨_, rfl⟩
  | unreachable => exact .inl ⟨_, rfl⟩
  | fresh hfinds => exact .inr ⟨_, _, hfinds⟩
  | stale hfinds => exact .inr ⟨_, _, hfinds⟩

end Finds

/-- Why a cache cannot be used for a source: its artifact has no name or a path that cannot be
looked at, or the cache directory cannot be made, or the temporary file cannot be written. -/
inductive Unusable (cache : Cache) (files : FileTree) (source : Path) : Failure → Prop
  /-- The configuration has no fingerprint. -/
  | unnamed : cache.config.fingerprint? = none → Unusable cache files source .integerTooLong
  /-- The path of the artifact cannot be looked at. -/
  | unreachable {artifact : Path} {e : FileError} :
    cache.artifact? files.here source = some artifact → files.status? artifact = .error e →
      Unusable cache files source (.file e)
  /-- The cache directory cannot be made. -/
  | unprepared {e : FileError} : (prepareDirectory files cache.directory).2 = .error e →
      Unusable cache files source (.file e)
  /-- The temporary file cannot be written. -/
  | unwritten {artifact : Path} {e : FileError} (bytes : List UInt8) :
    cache.artifact? files.here source = some artifact →
      (prepareDirectory files cache.directory).1.write
        (artifact.withName (artifact.name ++ temporarySuffix)) bytes = .error e →
      Unusable cache files source (.file e)

/-- An artifact that is not older than its source holds the output of a pass over the source. -/
def Faithful (cache : Cache) (files : FileTree) (source : Path) : Prop :=
  ∀ artifact, cache.artifact? files.here source = some artifact → ∀ bytes made content changed,
    files.status artifact = .ok (.file bytes made) →
    files.status source = .ok (.file content changed) → changed ≤ made →
    ∃ text codec, (cache.config.processFile files source).result = .ok text ∧
      cache.config.codec? = some codec ∧ codec.encode text = some bytes

section Fetch

variable {cache : Cache} {files : FileTree} {source : String}

/-- The path of an artifact leads to no directory once the cache directory is prepared. -/
theorem status_prepared {base : String} {directory : Path} {prepared : FileTree}
    (hprepared : prepared = files ∨ Prepares files prepared directory)
    (hnone : files.status (directory.entry (base ++ artifactSuffix)) ≠ .ok .directory) :
    prepared.status (directory.entry (base ++ artifactSuffix)) ≠ .ok .directory := by
  obtain rfl | hprepares := hprepared
  · exact hnone
  · exact hprepares.empty _ _ (append_suffix_ne _ (by decide)) (append_suffix_ne _ (by decide))

/-- A build fails as the pass does, and changes no file then. -/
theorem build_of_error {source artifact : Path} {e : Failure}
    (h : (cache.config.processFile files source).result = .error e) :
    (cache.build files source artifact).result = .error e ∧
      (cache.build files source artifact).files = files := by
  unfold build
  simp only
  rw [h]
  exact ⟨h, rfl⟩

/-- What comes of building an artifact: the result, and the files then. -/
inductive Builds (cache : Cache) (files : FileTree) (source : Path) (name : String) :
    Except Failure String → FileTree → Prop
  /-- The pass fails. -/
  | fails {e : Failure} : (cache.config.processFile files source).result = .error e →
    Builds cache files source name (.error e) files
  /-- The cache directory cannot be prepared. -/
  | unprepared {e : FileError} : (prepareDirectory files cache.directory).2 = .error e →
    Builds cache files source name (.error (.file e)) (prepareDirectory files cache.directory).1
  /-- The temporary file cannot be written. -/
  | unwritten {bytes : List UInt8} {e : FileError} :
    (prepareDirectory files cache.directory).1.write
      (cache.directory.entry (name ++ temporarySuffix)) bytes = .error e →
    Builds cache files source name (.error (.file e)) (prepareDirectory files cache.directory).1
  /-- The encoding does not have all characters, and the temporary file is left empty. -/
  | unencodable {text : String} {codec : Text.Codec} {emptied : FileTree} :
    (cache.config.processFile files source).result = .ok text →
    cache.config.codec? = some codec → codec.encode text = none →
    (prepareDirectory files cache.directory).1.write
      (cache.directory.entry (name ++ temporarySuffix)) [] = .ok emptied →
    Builds cache files source name (.error .unencodable) emptied
  /-- The output of the pass is stored. -/
  | stored {text : String} {codec : Text.Codec} {bytes : List UInt8} {stored : FileTree} :
    (cache.config.processFile files source).result = .ok text →
    cache.config.codec? = some codec → codec.encode text = some bytes →
    Stores (prepareDirectory files cache.directory).1 stored cache.directory name bytes →
    Builds cache files source name (.ok text) stored

/-- Building an artifact comes to one of these. -/
theorem build_builds (htree : files.IsTree) {base : String}
    (hnone : files.status (cache.directory.entry (base ++ artifactSuffix)) ≠ .ok .directory) :
    let built := cache.build files (.ofText source) (cache.directory.entry (base ++ artifactSuffix))
    Builds cache files (.ofText source) (base ++ artifactSuffix) built.result built.files := by
  intro built
  simp only [built]
  cases hresult : (cache.config.processFile files (.ofText source)).result with
  | error e =>
    obtain ⟨hbuilt, hfiles⟩ := build_of_error hresult
    rw [hbuilt, hfiles]
    exact .fails hresult
  | ok text =>
    obtain ⟨codec, hcodec, -⟩ := Config.reads_of_processFile hresult
    have hprepared := prepareDirectory_cases htree cache.directory
    have hunprepared := @Builds.unprepared cache files (.ofText source) (base ++ artifactSuffix)
    have hunwritten := @Builds.unwritten cache files (.ofText source) (base ++ artifactSuffix)
    have hunencodable := @Builds.unencodable cache files (.ofText source) (base ++ artifactSuffix)
    have hstored := @Builds.stored cache files (.ofText source) (base ++ artifactSuffix)
    unfold build
    simp only
    rw [hresult]
    generalize prepareDirectory files cache.directory = step
      at hprepared hunprepared hunwritten hunencodable hstored ⊢
    obtain ⟨after, outcome⟩ := step
    cases outcome with
    | error e => exact hunprepared rfl
    | ok done =>
      -- Whether or not a directory was made, the files are a tree.
      have htree' : after.IsTree := by
        obtain rfl | hprepares := hprepared
        · exact htree
        · exact hprepares.isTree
      have hstores := store_storesText htree' (append_suffix_ne _ (by decide)) (temporary_ne base)
        (status_prepared hprepared hnone) (Option.isSome_of_eq_some hcodec) text
      simp only
      generalize store after (cache.directory.entry (base ++ artifactSuffix)) cache.config text =
        stored at hstores ⊢
      cases hstores with
      | unwritten hwrite => exact hunwritten hwrite
      | unencodable hcodec hencode hwrite => exact hunencodable hresult hcodec hencode hwrite
      | stored hcodec hencode hstores => exact hstored hresult hcodec hencode hstores

/-- An artifact that is found stale is a file in the cache directory, with a suffix, and is built. -/
theorem Finds.exists_builds (htree : files.IsTree) {artifact : Path}
    (h : Finds cache files (.ofText source) artifact false) :
    let built := cache.build files (.ofText source) artifact
    ∃ base, artifact = cache.directory.entry (base ++ artifactSuffix) ∧
      Builds cache files (.ofText source) (base ++ artifactSuffix) built.result built.files := by
  obtain ⟨base, rfl⟩ := artifact?_eq_entry h.name
  obtain ⟨content, changed, hsource⟩ := FileTree.isFile_eq_true.1 h.isFile
  obtain ⟨hnone, -⟩ := isFresh_eq_false h.freshness hsource
  exact ⟨base, rfl, build_builds htree hnone⟩

/-- Where the encoding can write what it reads, a fetch gives what a pass gives, or fails because the
cache cannot be used. -/
theorem fetch_of_faithful (htree : files.IsTree) (hfaithful : cache.config.Faithful)
    (hnone : ∀ artifact, cache.artifact? files.here (.ofText source) = some artifact →
      files.status artifact ≠ .ok .directory)
    (h : Faithful cache files (.ofText source)) :
    (cache.fetch files (.ofText source)).result =
        (cache.config.processFile files (.ofText source)).result ∨
      ∃ e, (cache.fetch files (.ofText source)).result = .error e ∧
        Unusable cache files (.ofText source) e := by
  have hfetches := fetch_fetches cache files (.ofText source)
  generalize cache.fetch files (.ofText source) = fetched at hfetches ⊢
  cases hfetches with
  | missing hpass => exact .inl hpass.symm
  | unnamed hunnamed => exact .inr ⟨_, rfl, .unnamed hunnamed⟩
  | unreachable hname herror => exact .inr ⟨_, rfl, .unreachable hname herror⟩
  | @fresh artifact hfinds =>
    -- An artifact that is fresh was made after the source, so that it holds what a pass gives.
    obtain ⟨bytes, made, content, changed, hmade, hsource, hle⟩ | hdirectory :=
      isFresh_eq_true hfinds.freshness
    · obtain ⟨text, codec, hresult, hcodec, hbytes⟩ :=
        h artifact hfinds.name bytes made content changed hmade hsource hle
      refine .inl ?_
      rw [hresult]
      exact FileTree.readText_eq_ok.2 ⟨bytes, codec, FileTree.read_eq_ok.2 ⟨made, hmade⟩, hcodec,
        Config.decode_of_processFile hfaithful hresult hcodec hbytes⟩
    · exact absurd (FileTree.status?_eq_some.1 hdirectory) (hnone artifact hfinds.name)
  | stale hfinds =>
    obtain ⟨base, rfl, hbuilds⟩ := hfinds.exists_builds htree
    generalize cache.build files (.ofText source) _ = built at hbuilds ⊢
    obtain ⟨after, warnings, result⟩ := built
    cases hbuilds with
    | fails hpass => exact .inl hpass.symm
    | unprepared hprepare => exact .inr ⟨_, rfl, .unprepared hprepare⟩
    | @unwritten bytes e hwrite =>
      refine .inr ⟨_, rfl, .unwritten bytes hfinds.name ?_⟩
      rw [Path.withName_entry, Path.name_entry]
      exact hwrite
    | unencodable hpass hcodec hencode =>
      exact absurd hencode (Config.encode_of_processFile hfaithful hpass hcodec)
    | stored hpass => exact .inl hpass.symm

/-- Where the encoding can write what it reads, a fetch changes files only if it builds an artifact:
it prepares the cache directory, and stores the output of a pass there unless that fails. -/
theorem fetch_files (htree : files.IsTree) (hfaithful : cache.config.Faithful) :
    (cache.fetch files (.ofText source)).files = files ∨
    Prepares files (cache.fetch files (.ofText source)).files cache.directory ∨
    ∃ base text codec bytes prepared content changed,
      cache.artifact? files.here (.ofText source) =
        some (cache.directory.entry (base ++ artifactSuffix)) ∧
      isFresh files (.ofText source) (cache.directory.entry (base ++ artifactSuffix)) = .ok false ∧
      files.status (.ofText source) = .ok (.file content changed) ∧
      (cache.config.processFile files (.ofText source)).result = .ok text ∧
      cache.config.codec? = some codec ∧ codec.encode text = some bytes ∧
      (prepared = files ∨ Prepares files prepared cache.directory) ∧
      Stores prepared (cache.fetch files (.ofText source)).files cache.directory
        (base ++ artifactSuffix) bytes := by
  have hfetches := fetch_fetches cache files (.ofText source)
  generalize cache.fetch files (.ofText source) = fetched at hfetches ⊢
  cases hfetches with
  | missing => exact .inl rfl
  | unnamed => exact .inl rfl
  | unreachable => exact .inl rfl
  | fresh => exact .inl rfl
  | stale hfinds =>
    -- In every case but this one the fetch builds nothing.
    obtain ⟨base, rfl, hbuilds⟩ := hfinds.exists_builds htree
    obtain ⟨content, changed, hsource⟩ := FileTree.isFile_eq_true.1 hfinds.isFile
    have hprepared := prepareDirectory_cases htree cache.directory
    generalize cache.build files (.ofText source) _ = built at hbuilds ⊢
    obtain ⟨after, warnings, result⟩ := built
    cases hbuilds with
    | fails => exact .inl rfl
    | unprepared => exact hprepared.imp_right .inl
    | unwritten => exact hprepared.imp_right .inl
    | unencodable hpass hcodec hencode =>
      exact absurd hencode (Config.encode_of_processFile hfaithful hpass hcodec)
    | @stored text codec bytes after hpass hcodec hbytes hstores =>
      exact .inr (.inr ⟨base, text, codec, bytes, _, content, changed, hfinds.name,
        hfinds.freshness, hsource, hpass, hcodec, hbytes, hprepared, hstores⟩)

end Fetch

end Cache

end Hashmark
