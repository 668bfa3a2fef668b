import Hashmark.Proofs.Cache.Fetch

/-!
# Reading artifacts back

The output of a pass can be written in the encoding of the pass, if that is one that every host
knows, and reads back as it was: no character of it is lost, added or translated. Storing it as an
artifact therefore fails only for the sake of the files, and what is stored is read back
(`Stores.readText`). A fetch that finds its artifact fresh gives the same text as the fetch that
built it (`artifacts_read_back`).
-/

namespace Hashmark.Cache

section Store

variable {files : FileTree} {artifact : Path} {config : Config} {text : String}
  {codec : Text.Codec} {bytes : List UInt8}

/-- An artifact that has been stored was written as a temporary file, which was then moved. -/
theorem exists_write_of_store {stored : FileTree}
    (h : store files artifact config text = (stored, .ok ())) :
    ∃ codec bytes written, config.codec? = some codec ∧ codec.encode text = some bytes ∧
      files.write (artifact.withName (artifact.name ++ temporarySuffix)) bytes = .ok written ∧
      written.rename (artifact.withName (artifact.name ++ temporarySuffix)) artifact =
        .ok stored := by
  have hsuffix : ".tmp" = temporarySuffix := rfl
  have hwrites := files.writeText_writes (artifact.withName (artifact.name ++ temporarySuffix))
    config text
  unfold store at h
  simp only [hsuffix] at h
  generalize files.writeText (artifact.withName (artifact.name ++ temporarySuffix)) config text =
    step at hwrites h
  cases hwrites with
  | @written codec bytes written hcodec hbytes hwrite =>
    simp only at h
    cases hrename : written.rename (artifact.withName (artifact.name ++ temporarySuffix)) artifact with
    | error e =>
      rw [hrename] at h
      cases h
    | ok after =>
      rw [hrename] at h
      cases h
      exact ⟨codec, bytes, written, hcodec, hbytes, hwrite, hrename⟩
  | _ => cases h

/-- A text that can be written fails to be stored only for the sake of the files. -/
theorem exists_file_of_store (hcodec : config.codec? = some codec)
    (hbytes : codec.encode text = some bytes) {e : Failure}
    (h : (store files artifact config text).2 = .error e) : ∃ reason, e = .file reason := by
  have hsuffix : ".tmp" = temporarySuffix := rfl
  have hwrites := files.writeText_writes (artifact.withName (artifact.name ++ temporarySuffix))
    config text
  unfold store at h
  simp only [hsuffix] at h
  generalize files.writeText (artifact.withName (artifact.name ++ temporarySuffix)) config text =
    step at hwrites h
  cases hwrites with
  | name => exact ⟨_, (Except.error.inj h).symm⟩
  | file => exact ⟨_, (Except.error.inj h).symm⟩
  | encoding hnone =>
    rw [hcodec] at hnone
    cases hnone
  | characters hcodec' hnone =>
    obtain rfl := Option.some.inj (hcodec.symm.trans hcodec')
    rw [hbytes] at hnone
    cases hnone
  | written =>
    simp only at h
    split at h
    · exact ⟨_, (Except.error.inj h).symm⟩
    · cases h

/-- A file is not moved into the place of a directory. -/
theorem status_ne_of_rename {written stored : FileTree} {temporary : Path}
    (hwrite : files.write temporary bytes = .ok written)
    (hrename : written.rename temporary artifact = .ok stored) :
    files.status artifact ≠ .ok .directory := by
  intro hstatus
  obtain ⟨site, hlocate, hnode⟩ := FileTree.status_eq_ok.1 hstatus
  obtain ⟨place, -, hplace, hfree, -, rfl⟩ := FileTree.write_eq_ok hwrite
  have hlocate' := FileTree.locate_mono (FileTree.put_here_now files place _).1
    (fun _ => FileTree.directory_put hplace hfree (.file bytes files.now)) hlocate
  unfold FileTree.rename at hrename
  rw [hlocate'] at hrename
  split at hrename
  · cases hrename
  · split at hrename
    case h_1 hsite =>
      obtain rfl := Except.ok.inj hsite
      rw [if_pos (FileTree.directory_put hplace hfree _ hnode)] at hrename
      cases hrename
    · cases hrename
    · cases hrename

/-- What is stored as the artifact of a source is a file in its place. -/
theorem stores_of_store (htree : files.IsTree) {cache : Cache} {here : Path} {source : String}
    (hartifact : cache.artifact? here (.ofText source) = some artifact) {stored : FileTree}
    (h : store files artifact config text = (stored, .ok ())) :
    ∃ codec bytes, config.codec? = some codec ∧ codec.encode text = some bytes ∧
      Stores files stored cache.directory artifact.name bytes := by
  obtain ⟨base, rfl⟩ := artifact?_eq_entry hartifact
  obtain ⟨codec, bytes, written, hcodec, hbytes, hwrite, hrename⟩ := exists_write_of_store h
  have hnone := status_ne_of_rename hwrite hrename
  rw [Path.withName_entry, Path.name_entry] at hwrite hrename
  obtain ⟨last, hlast, hstores⟩ :=
    stores_of_write htree (append_suffix_ne _ (by decide)) (temporary_ne base) hnone hwrite
  obtain rfl := Except.ok.inj (hrename.symm.trans hlast)
  rw [Path.name_entry]
  exact ⟨codec, bytes, hcodec, hbytes, hstores⟩

/-- An artifact that is stored reads back as the text that it was stored for. -/
theorem Stores.readText {stored : FileTree} {directory : Path} {name : String}
    (h : Stores files stored directory name bytes) (hcodec : config.codec? = some codec)
    (hdecode : codec.decode bytes = .ok text) :
    stored.readText (directory.entry name) config = .ok text :=
  FileTree.readText_eq_ok.2 ⟨bytes, codec, FileTree.read_eq_ok.2 ⟨_, h.artifact⟩, hcodec, hdecode⟩

/-- The path of an artifact is its name in the cache directory. -/
theorem entry_name {cache : Cache} {here : Path} {source : String}
    (hartifact : cache.artifact? here (.ofText source) = some artifact) :
    cache.directory.entry artifact.name = artifact := by
  obtain ⟨base, rfl⟩ := artifact?_eq_entry hartifact
  rw [Path.name_entry]

end Store

section Build

variable {cache : Cache} {files : FileTree} {source : String} {artifact : Path} {text : String}

/-- A build that gives a text gives what the pass gives, after preparing the cache directory and
storing the artifact there. -/
theorem exists_store_of_build {source : Path}
    (h : (cache.build files source artifact).result = .ok text) :
    let prepared := prepareDirectory files cache.directory
    (cache.config.processFile files source).result = .ok text ∧ prepared.2 = .ok () ∧
      store prepared.1 artifact cache.config text =
        ((cache.build files source artifact).files, .ok ()) := by
  unfold build at h ⊢
  simp only at h ⊢
  cases hpass : (cache.config.processFile files source).result with
  | error e =>
    rw [hpass] at h
    simp only at h
    rw [hpass] at h
    cases h
  | ok output =>
    simp only [hpass] at h ⊢
    generalize prepareDirectory files cache.directory = prepared at h ⊢
    obtain ⟨after, outcome⟩ := prepared
    cases outcome with
    | error e => cases h
    | ok done =>
      simp only at h ⊢
      generalize hstored : store after artifact cache.config output = stored at h ⊢
      obtain ⟨last, result⟩ := stored
      cases result with
      | error e => cases h
      | ok done =>
        obtain rfl := Except.ok.inj h
        exact ⟨rfl, trivial, hstored⟩

/-- A fetch that builds an artifact stores the output of a pass. -/
theorem stores_of_fetch (htree : files.IsTree)
    (hfinds : Finds cache files (.ofText source) artifact false)
    (h : (cache.fetch files (.ofText source)).result = .ok text) :
    ∃ codec bytes, (cache.config.processFile files (.ofText source)).result = .ok text ∧
      cache.config.codec? = some codec ∧ codec.encode text = some bytes ∧
      Stores (prepareDirectory files cache.directory).1 (cache.fetch files (.ofText source)).files
        cache.directory artifact.name bytes := by
  rw [hfinds.fetch_of_stale] at h ⊢
  obtain ⟨hpass, -, hstore⟩ := exists_store_of_build h
  have hprepared : (prepareDirectory files cache.directory).1.IsTree := by
    obtain heq | hprepares := prepareDirectory_cases htree cache.directory
    · rw [heq]
      exact htree
    · exact hprepares.isTree
  obtain ⟨codec, bytes, hcodec, hbytes, hstores⟩ := stores_of_store hprepared hfinds.name hstore
  exact ⟨codec, bytes, hpass, hcodec, hbytes, hstores⟩

/-- What a pass over a file outputs can be written in the encoding of the files, if that is one of
those that every host knows, and reads back as it was, so that storing it as an artifact fails only
for the sake of the files. After a fetch that built an artifact the text is read back from it, and a
later fetch that finds it fresh, and as it was stored, gives the same text. -/
theorem artifacts_read_back (cache : Cache) {encoding : Text.Encoding}
    (hname : Text.Encoding.ofName? cache.config.encoding = some encoding) (files : FileTree)
    (source : String) :
    (∀ state text,
      (Pass.processFile ⟨cache.config, files⟩ state (.ofText source)).result = .ok text →
      ∃ bytes, encoding.encode text = some bytes ∧ encoding.decode bytes = .ok text ∧
        ∀ (tree : FileTree) (here artifact : Path), tree.IsTree →
          cache.artifact? here (.ofText source) = some artifact →
          let stored := store tree artifact cache.config text
          (∃ e, stored.2 = .error (.file e)) ∨
            stored.2 = .ok () ∧ stored.1.read artifact = .ok bytes ∧
              stored.1.readText artifact cache.config = .ok text) ∧
    ∀ artifact text, files.IsTree → Finds cache files (.ofText source) artifact false →
      (cache.fetch files (.ofText source)).result = .ok text →
      let fetched := cache.fetch files (.ofText source)
      (cache.config.processFile files (.ofText source)).result = .ok text ∧
        fetched.files.readText artifact cache.config = .ok text ∧
        ∀ later : FileTree, later.read artifact = fetched.files.read artifact →
          Finds cache later (.ofText source) artifact true →
          (cache.fetch later (.ofText source)).result = .ok text := by
  have hfaithful := Config.faithful_of_ofName? hname
  refine ⟨fun state text hresult => ?_, fun artifact text htree hfinds hresult => ?_⟩
  · obtain ⟨codec, bytes, hcodec, hbytes, hdecode⟩ :=
      Pass.exists_encode_of_result ⟨cache.config, files⟩ hfaithful hresult
    obtain rfl := Config.codec?_of_ofName? hname hcodec
    refine ⟨bytes, hbytes, Text.Encoding.codec_decode_eq_ok.1 hdecode, ?_⟩
    intro tree here artifact htree hartifact stored
    -- Writing the temporary file may fail, and so may moving it.
    cases hresult' : stored.2 with
    | error e =>
      obtain ⟨reason, rfl⟩ := exists_file_of_store hcodec hbytes hresult'
      exact .inl ⟨reason, rfl⟩
    | ok done =>
      refine .inr ?_
      have hstore : store tree artifact cache.config text = (stored.1, .ok ()) :=
        Prod.ext rfl hresult'
      obtain ⟨found, written', hfound, hwritten, hstores⟩ := stores_of_store htree hartifact hstore
      obtain rfl := Option.some.inj (hcodec.symm.trans hfound)
      obtain rfl := Option.some.inj (hbytes.symm.trans hwritten)
      have hartifact' := hstores.artifact
      have hread := hstores.readText hcodec hdecode
      rw [entry_name hartifact] at hartifact' hread
      exact ⟨rfl, FileTree.read_eq_ok.2 ⟨_, hartifact'⟩, hread⟩
  · obtain ⟨codec, bytes, hpass, hcodec, hbytes, hstores⟩ := stores_of_fetch htree hfinds hresult
    have hread := hstores.readText hcodec
      (Config.decode_of_processFile hfaithful hpass hcodec hbytes)
    rw [entry_name hfinds.name] at hread
    -- A fetch that finds the artifact fresh reads it.
    refine ⟨hpass, hread, fun later hkept hlater => ?_⟩
    rw [hlater.fetch_of_fresh]
    simp only
    rw [← hread]
    unfold FileTree.readText
    rw [hkept]

/-- A byte order mark in front of the text, carriage returns and a null character come back from the
artifact. -/
theorem artifacts_read_back_marks :
    ∃ (cache : Cache) (files : FileTree) (artifact : Path) (text : String),
      text = "\uFEFF\x00\r\r\n\r\nb\r" ∧
      Finds cache files (.ofText "s") artifact false ∧
      (cache.fetch files (.ofText "s")).result = .ok text ∧
      Finds cache (cache.fetch files (.ofText "s")).files (.ofText "s") artifact true ∧
      (cache.fetch (cache.fetch files (.ofText "s")).files (.ofText "s")).result = .ok text := by
  obtain ⟨cache, hcache⟩ : ∃ cache, cache = Cache.mk (.ofText "cache")
      { constants := some .none, encoding := "utf-8-sig" } := ⟨_, rfl⟩
  obtain ⟨files, hfiles⟩ : ∃ files, files = FileTree.mk
      [(["i"], .file (Text.Encoding.signature ++
        Text.Encoding.encodeUtf8 "\uFEFF\x00\r\r\n") 0),
        (["s"], .file (Text.Encoding.signature ++
          Text.Encoding.encodeUtf8 "#include \"i\"\r\nb\r") 0)] ⟨"/", []⟩ 1 := ⟨_, rfl⟩
  obtain ⟨artifact, hartifact⟩ : ∃ artifact,
      artifact = Path.ofText "cache/s_7c7c83340d232eed6a4da8f3339f4a88.py" := ⟨_, rfl⟩
  have hstale : Finds cache files (.ofText "s") artifact false := by
    subst hcache hfiles hartifact
    exact ⟨by decide +kernel, by decide +kernel, by decide +kernel⟩
  have hresult : (cache.fetch files (.ofText "s")).result =
      .ok "\uFEFF\x00\r\r\n\r\nb\r" := by
    subst hcache hfiles
    decide +kernel
  have hfresh :
      Finds cache (cache.fetch files (.ofText "s")).files (.ofText "s") artifact true := by
    subst hcache hfiles hartifact
    exact ⟨by decide +kernel, by decide +kernel, by decide +kernel⟩
  have htree : files.IsTree := by
    rw [hfiles]
    exact FileTree.isTree_of_length_le (by decide)
  have hname : Text.Encoding.ofName? cache.config.encoding = some .signedUtf8 := by
    subst hcache
    decide +kernel
  obtain ⟨-, hbuilt⟩ := artifacts_read_back cache hname files "s"
  obtain ⟨-, -, hlater⟩ := hbuilt artifact _ htree hstale hresult
  exact ⟨cache, files, artifact, _, rfl, hstale, hresult, hfresh, hlater _ rfl hfresh⟩

end Build

end Hashmark.Cache
