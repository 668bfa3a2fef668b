import Hashmark.Proofs.Cache.Usable
import Hashmark.Proofs.Pass.Failing
import Hashmark.Tool

/-!
# What a run of the tool leaves

A run whose arguments are read ends with a status, or with a failure that is not reported. The
status is 2 if a predefined macro is refused. Otherwise it is 0 exactly if processing the source
gives a text that the place for it takes, and the text then is there: on the standard output, which
takes every text, or in the file for the output, which takes those that the encoding can write. All
other runs leave the standard output empty. If there is no text, the files are as they were, and the
status is 1 unless the failure is one of a few that are not reported (`Unreported`).

Everything is said of any host, so that the encoding may be any that it knows. An encoding that can
write what it reads keeps the text from being refused (`Request.Settled.takes`).

What processing a source fails with is reported or one of the exceptions (`process_reported`), which
comes down to what a pass over a file fails with (`processFile_reported`) and to what keeps an
artifact from being read (`readText_reported`). `run_settles` puts these together.
-/

namespace Hashmark

/-- Bytes have been written where a path leads, and nothing else has changed. -/
structure FileTree.Written (files after : FileTree) (target : Path) (bytes : List UInt8) :
    Prop where
  /-- The bytes are there. -/
  content : after.read target = .ok bytes
  /-- All other places are as they were. -/
  others : ∃ site, files.locate target = .ok site ∧
    ∀ other, other ≠ site → after.nodeAt? other = files.nodeAt? other

/-- Writing bytes does no more than that. -/
theorem FileTree.written_of_write {files after : FileTree} {target : Path} {bytes : List UInt8}
    (h : files.write target bytes = .ok after) : files.Written after target bytes := by
  obtain ⟨site, hlocate, hsite, hnode, -, rfl⟩ := write_eq_ok h
  have hnodes := nodeAt?_put files hsite (.file bytes files.now)
  -- No directory is replaced, so that the path still leads to its place.
  have hlocate' : (files.put site (.file bytes files.now)).locate target = .ok site :=
    locate_mono (put_here_now _ _ _).1 (fun _ => directory_put hsite hnode _) hlocate
  have hstatus : (files.put site (.file bytes files.now)).status target =
      .ok (.file bytes files.now) := by
    refine status_eq_ok.2 ⟨site, hlocate', ?_⟩
    rw [hnodes, if_pos rfl]
  refine ⟨read_eq_ok.2 ⟨files.now, hstatus⟩, site, hlocate, fun other hother => ?_⟩
  rw [hnodes, if_neg hother]

/-- Predefining macros leaves the constants as they are. -/
theorem Config.constants_parseDefines {config after : Config} {items : List String}
    (h : config.parseDefines items = .ok after) : after.constants = config.constants := by
  induction items generalizing config with
  | nil =>
    obtain rfl := Except.ok.inj h
    rfl
  | cons item items ih =>
    rw [parseDefines] at h
    split at h
    · cases h
    · have hrest := ih h
      exact hrest

namespace Tool

open CommandLine

/-- The files that are read as a whole to satisfy a request: the source, and its artifact. -/
def Request.Opens (request : Request) (config : Config) (files : FileTree) (path : Path) : Prop :=
  path = request.input ∨ ∃ directory, request.cacheDirectory = some directory ∧
    Cache.artifact? ⟨directory, config⟩ files.here request.input = some path

/-- The failures that the tool does not report. -/
inductive Unreported (request : Request) (config : Config) (files : FileTree) : Failure → Prop
  /-- The name of the encoding holds the null character. -/
  | name {path : Path} : config.encoding.toList.contains '\x00' = true →
    Unreported request config files (.file ⟨.nullCharacter, path⟩)
  /-- The host knows no encoding of the name. -/
  | encoding : config.codec? = none →
    Unreported request config files (.unknownEncoding config.encoding)
  /-- The encoding refuses the source or the artifact as a whole. -/
  | refused {path : Path} {bytes : List UInt8} {codec : Text.Codec} {words : String} :
    request.Opens config files path → files.read path = .ok bytes →
    config.codec? = some codec → codec.decode bytes = .error (.refused words) →
    Unreported request config files (.undecodable (.refused words))
  /-- A pass over the source comes to an include that lets another failure through: its path holds
  the null character, or the encoding refuses the file as a whole. -/
  | inclusion {text : String} {m : Pass.Moment} {target : Path} {location : Location}
      {e : Failure} :
    Pass.readSource ⟨config, files⟩ request.input = .ok text →
    Pass.Moment.Reaches ⟨config, files⟩ (Pass.Moment.start ⟨config, files⟩
      (Pass.State.start config.mode) (Source.tokenize text)
      (some (request.input.resolve files.here))) m →
    m.Includes ⟨config, files⟩ target location → Pass.Escapes ⟨config, files⟩ target e →
    Unreported request config files e
  /-- The text is to be kept as an artifact, and the encoding does not have all its characters. -/
  | artifact {text : String} {codec : Text.Codec} : request.cacheDirectory.isSome →
    (config.processFile files request.input).result = .ok text →
    config.codec? = some codec → codec.encode text = none →
    Unreported request config files .unencodable

section Report

variable {request : Request} {config : Config} {files : FileTree} {e : Failure}

/-- There is no report of the exceptions. -/
theorem Unreported.report?_eq_none (h : Unreported request config files e) (input : Path) :
    report? input e = none := by
  cases h with
  | name => rfl
  | encoding => rfl
  | refused => rfl
  | inclusion _ _ _ hescapes => cases hescapes <;> rfl
  | artifact => rfl

/-- Failures of the notation are reported. -/
theorem report?_isSome_of_isNotation (h : Pass.isNotation e = true) (input : Path) :
    (report? input e).isSome := by
  cases e with
  | fault fault => rfl
  | _ => cases h

/-- Why a text cannot be read from something that is there is reported, but for the exceptions. -/
theorem readText_reported {path : Path} (hopens : request.Opens config files path) {node : Node}
    (hstatus : files.status path = .ok node) (h : files.readText path config = .error e) :
    (report? request.input e).isSome ∨ Unreported request config files e := by
  cases FileTree.unreadable_of_readText h with
  | name hnull => exact .inr (.name hnull)
  | @file reason hread =>
    -- What is there can only be a directory.
    unfold FileTree.read at hread
    rw [hstatus] at hread
    cases node with
    | directory =>
      obtain rfl := Except.error.inj hread
      exact .inl rfl
    | file => cases hread
  | encoding hnone => exact .inr (.encoding hnone)
  | @bytes bytes codec reason hread hcodec hdecode =>
    cases reason with
    | malformed => exact .inl rfl
    | refused => exact .inr (.refused hopens hread hcodec hdecode)

/-- What a pass over a file fails with is reported, but for the exceptions. -/
theorem processFile_reported (h : (config.processFile files request.input).result = .error e) :
    (report? request.input e).isSome ∨ Unreported request config files e := by
  simp only [Config.processFile, Pass.processFile] at h
  cases hread : Pass.readSource ⟨config, files⟩ request.input with
  | error e' =>
    rw [hread] at h
    obtain rfl := Except.error.inj h
    unfold Pass.readSource at hread
    split at hread
    case h_1 reason hfile =>
      obtain rfl := Except.error.inj hread
      refine .inl ?_
      simp only [report?, (FileTree.isFile_eq_error.1 hfile).2, reduceCtorEq, if_false]
      rfl
    case h_2 =>
      obtain rfl := Except.error.inj hread
      exact .inl rfl
    case h_3 hfile =>
      obtain ⟨bytes, time, hstatus⟩ := FileTree.isFile_eq_true.1 hfile
      exact readText_reported (.inl rfl) hstatus hread
  | ok text =>
    rw [hread] at h
    simp only at h
    -- The source has been read, which takes an encoding that the host knows.
    obtain ⟨-, codec, -, hcodec, -⟩ :=
      FileTree.readText_eq_ok.1 (Pass.readText_of_readSource hread)
    obtain hnotation | ⟨m, target, location, hm, hincludes, hescapes⟩ :=
      @Pass.run_failure ⟨config, files⟩ (Option.isSome_of_eq_some hcodec) _ (.file hread) _ _ _
        (Pass.failure_of_result h)
    · exact .inl (report?_isSome_of_isNotation hnotation _)
    · exact .inr (.inclusion hread hm hincludes hescapes)

end Report

/-- The places that a request names can be written: no file error keeps the cache from being used,
and the file for the output can have any content once the source has been processed. -/
structure Request.Writable (request : Request) (config : Config) (files : FileTree) : Prop where
  /-- The cache can be used. -/
  cache : ∀ directory, request.cacheDirectory = some directory →
    ∀ e, ¬Cache.Unusable ⟨directory, config⟩ files request.input (.file e)
  /-- The file for the output can be written. -/
  output : ∀ target, request.output = some target →
    ∀ bytes, ∃ after, (request.process config files).files.write target bytes = .ok after

/-- The place for the output takes a text. The standard output takes every text, and a file those
that the encoding can write. -/
def Request.Takes (request : Request) (config : Config) (text : String) : Prop :=
  request.output.isSome → ∃ codec bytes, config.codec? = some codec ∧
    codec.encode text = some bytes

/-- A run leaves a text where it is asked for: on the standard output, or in the file for the
output. -/
def Request.Delivered (request : Request) (config : Config) (files : FileTree) (text : String)
    (run : Run) : Prop :=
  match request.output with
  | none => run.output = text ∧ run.files = (request.process config files).files
  | some target => run.output = "" ∧
    (∃ codec bytes, config.codec? = some codec ∧ codec.encode text = some bytes ∧
      (request.process config files).files.Written run.files target bytes) ∧
    (config.Faithful → run.files.readText target config = .ok text)

/-- A run leaves the file for the output empty and ends without a status. -/
structure Request.Refused (request : Request) (config : Config) (files : FileTree) (run : Run) :
    Prop where
  /-- Nothing is on the standard output. -/
  output : run.output = ""
  /-- Nothing is in the file for the output. -/
  emptied : ∃ target, request.output = some target ∧
    (request.process config files).files.Written run.files target []
  /-- There is no status. -/
  ending : run.ending = .failed .unencodable

/-- What a failure to process a source leaves of the files: they are as they were, but for the empty
temporary file of an artifact that the encoding cannot write. -/
def Request.Leaves (request : Request) (config : Config) (files : FileTree) (e : Failure)
    (after : FileTree) : Prop :=
  after = files ∨ e = .unencodable ∧ ∃ directory artifact,
    request.cacheDirectory = some directory ∧
    Cache.artifact? ⟨directory, config⟩ files.here request.input = some artifact ∧
    (Cache.prepareDirectory files directory).1.write
      (artifact.withName (artifact.name ++ Cache.temporarySuffix)) [] = .ok after

/-- How a run settles a request, once its predefined macros are accepted. -/
structure Request.Settled (request : Request) (config : Config) (files : FileTree) (run : Run) :
    Prop where
  /-- The status is 0 exactly if processing the source gives a text that the place for it takes. -/
  success_iff : run.ending = .status 0 ↔
    ∃ text, (request.process config files).result = .ok text ∧ request.Takes config text
  /-- The text is left where it is asked for. -/
  delivered : ∀ text, (request.process config files).result = .ok text →
    request.Takes config text → request.Delivered config files text run
  /-- An encoding that can write what it reads can write the text. -/
  takes : config.Faithful → ∀ text, (request.process config files).result = .ok text →
    request.Takes config text
  /-- A text that the file for the output does not take leaves that empty, and the run without a
  status. -/
  refused : ∀ text, (request.process config files).result = .ok text →
    ¬request.Takes config text → request.Refused config files run
  /-- A failure leaves the standard output and the files as they are. -/
  untouched : ∀ e, (request.process config files).result = .error e →
    run.output = "" ∧ request.Leaves config files e run.files
  /-- Every failure is reported, by the status 1 and by a message, but for the exceptions. -/
  reported : ∀ e, (request.process config files).result = .error e →
    ¬Unreported request config files e → run.ending = .status 1 ∧
      ∃ warnings message, report? request.input e = some message ∧
        run.errors = warnings ++ messageLine message
  /-- The exceptions leave the run without a status. -/
  unreported : ∀ e, (request.process config files).result = .error e →
    Unreported request config files e → run.ending = .failed e
  /-- Processing the source is a pass over it, unless its artifact is there already or cannot be
  written. -/
  processed : (∀ directory artifact node, request.cacheDirectory = some directory →
      Cache.artifact? ⟨directory, config⟩ files.here request.input = some artifact →
      files.status artifact ≠ .ok node) →
    (request.process config files).result = (config.processFile files request.input).result ∨
      ¬config.Faithful ∧ (request.process config files).result = .error .unencodable

section Process

variable {request : Request} {source : String} {config : Config} {files : FileTree}

/-- What processing a source comes to: the result, and the files then. -/
inductive Processes (request : Request) (config : Config) (files : FileTree) :
    Except Failure String → FileTree → Prop
  /-- A text that a pass gives. -/
  | passed {text : String} {after : FileTree} :
    (config.processFile files request.input).result = .ok text →
    Processes request config files (.ok text) after
  /-- The failure of a pass. -/
  | failed {e : Failure} : (config.processFile files request.input).result = .error e →
    Processes request config files (.error e) files
  /-- What a pass gives cannot be kept as an artifact. -/
  | unencodable {directory artifact : Path} {text : String} {codec : Text.Codec}
      {after : FileTree} : request.cacheDirectory = some directory →
    Cache.artifact? ⟨directory, config⟩ files.here request.input = some artifact →
    (config.processFile files request.input).result = .ok text →
    config.codec? = some codec → codec.encode text = none →
    (Cache.prepareDirectory files directory).1.write
      (artifact.withName (artifact.name ++ Cache.temporarySuffix)) [] = .ok after →
    Processes request config files (.error .unencodable) after
  /-- What an artifact holds that is there. -/
  | kept {directory artifact : Path} {node : Node} : request.cacheDirectory = some directory →
    Cache.artifact? ⟨directory, config⟩ files.here request.input = some artifact →
    files.status artifact = .ok node →
    Processes request config files (files.readText artifact config) files

/-- Processing a source comes to one of these. -/
theorem process_processes (hinput : request.input = .ofText source)
    (hhost : config.constants = none) (htree : files.IsTree)
    (hwritable : request.Writable config files) :
    Processes request config files (request.process config files).result
      (request.process config files).files := by
  have hpass : ∀ after, (∀ e, (config.processFile files request.input).result = .error e →
      after = files) →
      Processes request config files (config.processFile files request.input).result after := by
    intro after hafter
    cases hresult : (config.processFile files request.input).result with
    | ok text => exact .passed hresult
    | error e =>
      rw [hafter e hresult]
      exact .failed hresult
  simp only [Request.process]
  cases hcache : request.cacheDirectory with
  | none => exact hpass _ fun _ _ => rfl
  | some directory =>
    have husable := hwritable.cache directory hcache
    rw [hinput] at husable
    have hcases := @Cache.fetch_cases ⟨directory, config⟩ files source htree
      (Config.fingerprint?_isSome_of_host hhost) husable
    simp only [← hinput] at hcases ⊢
    generalize Cache.fetch ⟨directory, config⟩ files request.input = fetched at hcases ⊢
    obtain ⟨hresult, hfiles⟩ |
      ⟨artifact, text, codec, hartifact, htext, hcodec, hencode, hwrite, hresult⟩ |
      ⟨artifact, node, hartifact, hstatus, hfiles, hresult⟩ := hcases
    · rw [hresult]
      exact hpass _ hfiles
    · rw [hresult]
      exact .unencodable hcache hartifact htext hcodec hencode hwrite
    · rw [hresult, hfiles]
      exact .kept hcache hartifact hstatus

/-- What processing a source gives is made of characters that the encoding reads. -/
theorem Processes.reads {text : String} {after : FileTree}
    (h : Processes request config files (.ok text) after) :
    ∃ codec, config.codec? = some codec ∧ ∀ c ∈ text.toList, codec.Reads c := by
  generalize hresult : Except.ok text = result at h
  cases h with
  | passed hpass =>
    obtain rfl := Except.ok.inj hresult
    exact Config.reads_of_processFile hpass
  | failed => cases hresult
  | unencodable => cases hresult
  | kept =>
    obtain ⟨bytes, codec, -, hcodec, hdecode⟩ := FileTree.readText_eq_ok.1 hresult.symm
    exact ⟨codec, hcodec, fun c hc => ⟨bytes, text, hdecode, hc⟩⟩

/-- What processing a source fails with is reported, but for the exceptions, and the files are as
they were but for a temporary file. -/
theorem Processes.reported {e : Failure} {after : FileTree}
    (h : Processes request config files (.error e) after) :
    ((report? request.input e).isSome ∨ Unreported request config files e) ∧
      request.Leaves config files e after := by
  generalize hresult : Except.error e = result at h
  cases h with
  | passed => cases hresult
  | failed hpass =>
    obtain rfl := Except.error.inj hresult
    exact ⟨processFile_reported hpass, .inl rfl⟩
  | unencodable hcache hartifact htext hcodec hencode hwrite =>
    obtain rfl := Except.error.inj hresult
    exact ⟨.inr (.artifact (Option.isSome_of_eq_some hcache) htext hcodec hencode),
      .inr ⟨rfl, _, _, hcache, hartifact, hwrite⟩⟩
  | kept hcache hartifact hstatus =>
    exact ⟨readText_reported (.inr ⟨_, hcache, hartifact⟩) hstatus hresult.symm, .inl rfl⟩

/-- A text that the place for it takes is left there, with the status 0. -/
theorem run_of_takes (hconfig : request.options.parseDefines request.defines = .ok config)
    (hwritable : request.Writable config files) {text : String}
    (h : (request.process config files).result = .ok text)
    (hreads : ∃ codec, config.codec? = some codec ∧ ∀ c ∈ text.toList, codec.Reads c)
    (htakes : request.Takes config text) :
    request.Delivered config files text (request.run files) ∧
      (request.run files).ending = .status 0 := by
  unfold Request.run Request.Delivered Request.deliver
  simp only [hconfig, h]
  cases houtput : request.output with
  | none => exact ⟨⟨rfl, rfl⟩, rfl⟩
  | some target =>
    obtain ⟨codec, bytes, hcodec, hencode⟩ := htakes (Option.isSome_of_eq_some houtput)
    obtain ⟨after, hwrite⟩ := hwritable.output target houtput bytes
    have hwritten := FileTree.written_of_write hwrite
    simp only [FileTree.writeText_of_encode hcodec hencode hwrite]
    refine ⟨⟨trivial, ⟨codec, bytes, hcodec, hencode, hwritten⟩, fun hfaithful => ?_⟩, trivial⟩
    obtain ⟨codec', hcodec', hreads⟩ := hreads
    obtain rfl := Option.some.inj (hcodec.symm.trans hcodec')
    obtain ⟨bytes', hencode', hdecode⟩ := hfaithful codec hcodec text hreads
    obtain rfl := Option.some.inj (hencode.symm.trans hencode')
    exact FileTree.readText_eq_ok.2 ⟨bytes, codec, hwritten.content, hcodec, hdecode⟩

/-- A text that the place for it does not take leaves the file for the output empty, and the run
without a status. -/
theorem run_of_not_takes (hconfig : request.options.parseDefines request.defines = .ok config)
    (hwritable : request.Writable config files) {text : String}
    (h : (request.process config files).result = .ok text)
    (hreads : ∃ codec, config.codec? = some codec ∧ ∀ c ∈ text.toList, codec.Reads c)
    (htakes : ¬request.Takes config text) :
    request.Refused config files (request.run files) := by
  obtain ⟨codec, hcodec, -⟩ := hreads
  obtain ⟨houtput, hnone⟩ := Classical.not_imp.1 htakes
  obtain ⟨target, houtput⟩ := Option.isSome_iff_exists.1 houtput
  have hencode : codec.encode text = none := by
    cases hencode : codec.encode text with
    | none => rfl
    | some bytes => exact absurd ⟨codec, bytes, hcodec, hencode⟩ hnone
  obtain ⟨after, hwrite⟩ := hwritable.output target houtput []
  have hrun : request.run files = { request.run files with
      files := after
      output := ""
      ending := .failed .unencodable } := by
    unfold Request.run Request.deliver
    simp only [hconfig, h, houtput, FileTree.writeText_of_encode_eq_none hcodec hencode hwrite]
  rw [hrun]
  exact ⟨rfl, ⟨target, houtput, FileTree.written_of_write hwrite⟩, rfl⟩

/-- A failure to process a source leaves the standard output empty and the files as processing left
them. The run ends with the status 1 and the report of the failure if there is one, and without a
status otherwise. -/
theorem run_of_error (hconfig : request.options.parseDefines request.defines = .ok config)
    {e : Failure} (h : (request.process config files).result = .error e) :
    (request.run files).output = "" ∧
      (request.run files).files = (request.process config files).files ∧
      match report? request.input e with
      | none => (request.run files).ending = .failed e
      | some message => (request.run files).ending = .status 1 ∧
        ∃ warnings, (request.run files).errors = warnings ++ messageLine message := by
  unfold Request.run
  simp only [hconfig, h]
  cases hreport : report? request.input e with
  | none => exact ⟨rfl, rfl, rfl⟩
  | some message => exact ⟨rfl, rfl, rfl, _, rfl⟩

/-- Unless there is an artifact already, processing a source is a pass over it, or the artifact
cannot be written. -/
theorem Processes.result_eq {result : Except Failure String} {after : FileTree}
    (h : Processes request config files result after)
    (hnone : ∀ directory artifact node, request.cacheDirectory = some directory →
      Cache.artifact? ⟨directory, config⟩ files.here request.input = some artifact →
      files.status artifact ≠ .ok node) :
    result = (config.processFile files request.input).result ∨
      ¬config.Faithful ∧ result = .error .unencodable := by
  cases h with
  | passed hpass => exact .inl hpass.symm
  | failed hpass => exact .inl hpass.symm
  | unencodable _ _ htext hcodec hencode =>
    exact .inr ⟨fun hfaithful => Config.encode_of_processFile hfaithful htext hcodec hencode, rfl⟩
  | kept hcache hartifact hstatus => exact absurd hstatus (hnone _ _ _ hcache hartifact)

/-- A request whose predefined macros are accepted, and whose places can be written, is settled. -/
theorem run_settled (hconfig : request.options.parseDefines request.defines = .ok config)
    (hinput : request.input = .ofText source) (hhost : config.constants = none)
    (htree : files.IsTree) (hwritable : request.Writable config files) :
    request.Settled config files (request.run files) := by
  have hprocesses := process_processes hinput hhost htree hwritable
  have hreads : ∀ text, (request.process config files).result = .ok text →
      ∃ codec, config.codec? = some codec ∧ ∀ c ∈ text.toList, codec.Reads c :=
    fun text htext => (htext ▸ hprocesses).reads
  have hfailed : ∀ e, (request.process config files).result = .error e →
      ((report? request.input e).isSome ∨ Unreported request config files e) ∧
        request.Leaves config files e (request.process config files).files :=
    fun e he => (he ▸ hprocesses).reported
  have htaken : ∀ text, (request.process config files).result = .ok text →
      request.Takes config text → request.Delivered config files text (request.run files) ∧
        (request.run files).ending = .status 0 :=
    fun text htext => run_of_takes hconfig hwritable htext (hreads text htext)
  have hrefused : ∀ text, (request.process config files).result = .ok text →
      ¬request.Takes config text → request.Refused config files (request.run files) :=
    fun text htext => run_of_not_takes hconfig hwritable htext (hreads text htext)
  have hunreported : ∀ e, (request.process config files).result = .error e →
      Unreported request config files e → (request.run files).ending = .failed e := by
    intro e he h
    obtain ⟨-, -, hending⟩ := run_of_error hconfig he
    rw [h.report?_eq_none] at hending
    exact hending
  have hreported : ∀ e, (request.process config files).result = .error e →
      ¬Unreported request config files e → (request.run files).ending = .status 1 ∧
        ∃ warnings message, report? request.input e = some message ∧
          (request.run files).errors = warnings ++ messageLine message := by
    intro e he h
    obtain ⟨-, -, hending⟩ := run_of_error hconfig he
    obtain ⟨message, hmessage⟩ :=
      Option.isSome_iff_exists.1 ((hfailed e he).1.resolve_right h)
    rw [hmessage] at hending
    obtain ⟨hstatus, warnings, herrors⟩ := hending
    exact ⟨hstatus, warnings, message, hmessage, herrors⟩
  refine {
    success_iff := ⟨fun h => ?_, fun ⟨text, htext, htakes⟩ => (htaken text htext htakes).2⟩
    delivered := fun text htext htakes => (htaken text htext htakes).1
    takes := fun hfaithful text htext _ => ?_
    refused := hrefused
    untouched := fun e he => ?_
    reported := hreported
    unreported := hunreported
    processed := fun hnone => hprocesses.result_eq hnone }
  · -- A failure leads to the status 1 or to none, and so does a text that is not taken.
    cases hresult : (request.process config files).result with
    | ok text =>
      by_cases htakes : request.Takes config text
      · exact ⟨text, rfl, htakes⟩
      · rw [(hrefused text hresult htakes).ending] at h
        cases h
    | error e =>
      by_cases he : Unreported request config files e
      · rw [hunreported e hresult he] at h
        cases h
      · rw [(hreported e hresult he).1] at h
        cases h
  · obtain ⟨codec, hcodec, hreads⟩ := hreads text htext
    obtain ⟨bytes, hencode, -⟩ := hfaithful codec hcodec text hreads
    exact ⟨codec, bytes, hcodec, hencode⟩
  · obtain ⟨houtput, hfiles, -⟩ := run_of_error hconfig he
    exact ⟨houtput, hfiles ▸ (hfailed e he).2⟩

end Process

end Tool

end Hashmark
