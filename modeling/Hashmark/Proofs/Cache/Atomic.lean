import Hashmark.Proofs.Cache.RoundTrip

/-!
# What a fetch leaves behind

A fetch that fails because its source does so leaves every file as it is: the pass comes before the
first change. A fetch that builds an artifact changes one file, and makes one more if the cache
directory was missing (`Rebuilds`): what the preparation of that directory adds
(`prepareDirectory_ok`) and what storing an artifact changes (`Stores.nodeAt?_eq`) are put together.
A fetch that finds its artifact fresh changes nothing. All of this is `fetch_atomic`.
-/

namespace Hashmark.Cache

open Text.Encoding (encodeUtf8)

/-- A cache directory that can be used was there, and nothing changes; or it was missing, and is
made with the file for version control, which is the only new file. -/
theorem prepareDirectory_ok {files : FileTree} {directory : Path}
    (h : (prepareDirectory files directory).2 = .ok ()) :
    let prepared := (prepareDirectory files directory).1
    files.isPresent directory = .ok true ∧ prepared = files ∨
    files.isPresent directory = .ok false ∧
      ∃ site, prepared.locate (directory.child ignoreName) = .ok site ∧
        prepared.nodeAt? site = some (.file (encodeUtf8 ignoreText) files.now) ∧
        ∀ other bytes time, other ≠ site → prepared.nodeAt? other = some (.file bytes time) →
          files.nodeAt? other = some (.file bytes time) := by
  unfold prepareDirectory at h ⊢
  cases hpresent : files.isPresent directory with
  | error e => simp [hpresent] at h
  | ok present =>
    cases present with
    | true => exact .inl ⟨rfl, rfl⟩
    | false =>
      refine .inr ⟨rfl, ?_⟩
      simp only [hpresent] at h ⊢
      cases hmade : files.makeDirectories directory with
      | error e => simp [hmade] at h
      | ok made =>
        simp only [hmade] at h ⊢
        obtain ⟨above, hgrows, hlast⟩ := FileTree.exists_makeDirectory hmade
        have hall := hgrows.trans (FileTree.grows_makeDirectory hlast)
        cases hwrite : made.write (directory.child ignoreName) (encodeUtf8 ignoreText) with
        | error e => simp [hwrite] at h
        | ok written =>
          simp only
          -- Of the files only the list of ignored ones is new; what was made before it are
          -- directories.
          obtain ⟨site, hlocate, hsite, hfree, -, rfl⟩ := FileTree.write_eq_ok hwrite
          refine ⟨site, ?_, ?_, fun other bytes time hother hnode => ?_⟩
          · exact FileTree.locate_mono (FileTree.put_here_now made site _).1
              (fun _ => FileTree.directory_put hsite hfree _) hlocate
          · rw [FileTree.nodeAt?_put _ hsite, if_pos rfl, hall.now]
          · rw [FileTree.nodeAt?_put _ hsite, if_neg hother] at hnode
            exact hall.files other bytes time hnode

section Stores

variable {files stored : FileTree} {directory : Path} {name : String} {bytes : List UInt8}

/-- The places of an artifact and of its temporary file in the cache directory. -/
theorem Stores.exists_place (h : Stores files stored directory name bytes) (hname : name ≠ "..") :
    ∃ place, files.follow [] (directory.absolute files.here).names = .ok place ∧
      stored.locate (directory.entry name) = .ok (place ++ [name]) ∧
      ∀ site, stored.nodeAt? site =
        if site = place ++ [name] then some (.file bytes files.now)
        else if site = place ++ [name ++ temporarySuffix] then none else files.nodeAt? site := by
  obtain ⟨place, hplace, -, -, hnodes⟩ := h.nodes
  obtain ⟨site, hlocate, -⟩ := FileTree.status_eq_ok.1 h.artifact
  obtain rfl := site_of_entry hname hplace (h.locate_iff.1 hlocate)
  exact ⟨place, hplace, hlocate, hnodes⟩

/-- Storing an artifact changes only its place, if there was no temporary file. -/
theorem Stores.nodeAt?_eq (h : Stores files stored directory name bytes) (hname : name ≠ "..")
    (htemporary : name ++ temporarySuffix ≠ "..")
    {temporary : Site} (hlocate : files.locate (directory.entry (name ++ temporarySuffix)) =
      .ok temporary) (hfree : files.nodeAt? temporary = none) {site : Site}
    (hsite : stored.locate (directory.entry name) ≠ .ok site) :
    stored.nodeAt? site = files.nodeAt? site := by
  obtain ⟨place, hplace, hartifact, hnodes⟩ := h.exists_place hname
  obtain rfl := site_of_entry htemporary hplace hlocate
  rw [hnodes, if_neg]
  · split
    case isTrue heq =>
      rw [heq]
      exact hfree.symm
    · rfl
  · rintro rfl
    exact hsite hartifact

/-- Nothing is at the path of the temporary file once an artifact is stored. -/
theorem Stores.status_temporary_ne (h : Stores files stored directory name bytes)
    (hname : name ≠ "..") (htemporary : name ++ temporarySuffix ≠ "..") (node : Node) :
    stored.status (directory.entry (name ++ temporarySuffix)) ≠ .ok node := by
  intro hstatus
  obtain ⟨place, hplace, hartifact, hnodes⟩ := h.exists_place hname
  obtain ⟨site, hlocate, hnode⟩ := FileTree.status_eq_ok.1 hstatus
  obtain rfl := site_of_entry htemporary hplace (h.locate_iff.1 hlocate)
  rw [hnodes, if_neg (place_ne_temporary place name).symm, if_pos rfl] at hnode
  cases hnode

end Stores

/-- What building an artifact changes. -/
structure Rebuilds (files rebuilt : FileTree) (directory artifact : Path) (bytes : List UInt8) :
    Prop where
  /-- The artifact is a file of these bytes, changed now. -/
  made : rebuilt.status artifact = .ok (.file bytes files.now)
  /-- There is no temporary file. -/
  moved : ∀ node,
    rebuilt.status (artifact.withName (artifact.name ++ temporarySuffix)) ≠ .ok node
  /-- If the cache directory was there, everything else is as it was. -/
  kept : files.isPresent directory = .ok true → ∀ site, rebuilt.locate artifact ≠ .ok site →
    rebuilt.nodeAt? site = files.nodeAt? site
  /-- If the cache directory was missing, it has the file for version control. -/
  ignored : files.isPresent directory = .ok false →
    rebuilt.status (directory.child ignoreName) = .ok (.file (encodeUtf8 ignoreText) files.now)
  /-- No other file is new or changed or gone. -/
  others : files.isPresent directory = .ok false → ∀ site, rebuilt.locate artifact ≠ .ok site →
    rebuilt.locate (directory.child ignoreName) ≠ .ok site →
    ∀ bytes time, rebuilt.nodeAt? site = some (.file bytes time) ↔
      files.nodeAt? site = some (.file bytes time)
  /-- No directory is gone. -/
  directories : ∀ site, files.nodeAt? site = some .directory →
    rebuilt.nodeAt? site = some .directory

section Fetch

variable {cache : Cache} {files : FileTree} {source : String} {artifact : Path} {text : String}

/-- What stands at the path of a temporary file once the cache directory is prepared, and the file
can be written there. -/
theorem exists_temporary (htree : files.IsTree) {base : String} {bytes : List UInt8}
    {written : FileTree}
    (hwrite : (prepareDirectory files cache.directory).1.write
      (cache.directory.entry (base ++ artifactSuffix ++ temporarySuffix)) bytes = .ok written)
    (hfree : ∀ bytes time,
      files.status (cache.directory.entry (base ++ artifactSuffix ++ temporarySuffix)) ≠
        .ok (.file bytes time)) :
    ∃ site, (prepareDirectory files cache.directory).1.locate
        (cache.directory.entry (base ++ artifactSuffix ++ temporarySuffix)) = .ok site ∧
      (prepareDirectory files cache.directory).1.nodeAt? site = none := by
  obtain ⟨site, hlocate, -, hdirectory, -, -⟩ := FileTree.write_eq_ok hwrite
  refine ⟨site, hlocate, ?_⟩
  -- The list of ignored files, the only one in a new cache directory, has another name.
  have hignored : base ++ artifactSuffix ++ temporarySuffix ≠ ignoreName := by
    intro heq
    have hlast := congrArg (fun s : String => s.toList.getLast?) heq
    simp [artifactSuffix, temporarySuffix, ignoreName] at hlast
  obtain heq | hprepares := prepareDirectory_cases htree cache.directory
  · rw [heq] at hlocate hdirectory ⊢
    cases hnode : files.nodeAt? site with
    | none => rfl
    | some node =>
      cases node with
      | directory => exact absurd hnode hdirectory
      | file content time =>
        exact absurd (FileTree.status_eq_ok.2 ⟨site, hlocate, hnode⟩) (hfree content time)
  · cases hnode : (prepareDirectory files cache.directory).1.nodeAt? site with
    | none => rfl
    | some node =>
      exact absurd (FileTree.status_eq_ok.2 ⟨site, hlocate, hnode⟩)
        (hprepares.empty _ node hignored (temporary_ne base))

/-- A prepared directory adds to the files, at the same time. -/
theorem within_prepareDirectory (htree : files.IsTree) (directory : Path) :
    files.Within (prepareDirectory files directory).1 ∧
      (prepareDirectory files directory).1.now = files.now := by
  obtain heq | hprepares := prepareDirectory_cases htree directory
  · rw [heq]
    exact ⟨.refl files, rfl⟩
  · exact ⟨hprepares.toWithin, hprepares.now⟩

/-- An artifact that is stored in a prepared directory is built. -/
theorem rebuilds_of_stores (htree : files.IsTree) {directory : Path}
    (hprepared : (prepareDirectory files directory).2 = .ok ()) {base : String}
    {bytes : List UInt8} {rebuilt : FileTree}
    (hstores : Stores (prepareDirectory files directory).1 rebuilt directory
      (base ++ artifactSuffix) bytes) {temporary : Site}
    (hlocate : (prepareDirectory files directory).1.locate
      (directory.entry (base ++ artifactSuffix ++ temporarySuffix)) = .ok temporary)
    (hnone : (prepareDirectory files directory).1.nodeAt? temporary = none) :
    Rebuilds files rebuilt directory (directory.entry (base ++ artifactSuffix)) bytes := by
  obtain ⟨hwithin, hnow⟩ := within_prepareDirectory htree directory
  have hcases := prepareDirectory_ok hprepared
  generalize (prepareDirectory files directory).1 = prepared
    at hstores hlocate hnone hwithin hnow hcases
  have hup : base ++ artifactSuffix ≠ ".." := append_suffix_ne _ (by decide)
  -- Besides the artifact and its temporary file, which is gone, storing changes nothing.
  have hsame : ∀ site, rebuilt.locate (directory.entry (base ++ artifactSuffix)) ≠ .ok site →
      rebuilt.nodeAt? site = prepared.nodeAt? site :=
    fun _ => hstores.nodeAt?_eq hup (temporary_ne base) hlocate hnone
  have hmade := hstores.artifact
  rw [hnow] at hmade
  refine ⟨hmade, fun node => ?_, fun hpresent site hsite => ?_, fun hmissing => ?_,
    fun hmissing site hsite hignore content time => ?_, fun site hdirectory => ?_⟩
  · rw [Path.withName_entry, Path.name_entry]
    exact hstores.status_temporary_ne hup (temporary_ne base) node
  · obtain ⟨-, heq⟩ | ⟨hmissing, -⟩ := hcases
    · rw [hsame site hsite, heq]
    · rw [hpresent] at hmissing
      cases hmissing
  · obtain ⟨hpresent, -⟩ | ⟨-, ignore, hignore, hnode, -⟩ := hcases
    · rw [hmissing] at hpresent
      cases hpresent
    · refine FileTree.status_eq_ok.2 ⟨ignore, hstores.locate_iff.2 hignore, ?_⟩
      rw [hsame, hnode]
      -- The file for version control has another name than an artifact.
      intro hartifact
      obtain ⟨place, hplace, hlocated, -⟩ := hstores.exists_place hup
      obtain rfl := Except.ok.inj (hlocated.symm.trans hartifact)
      rw [Path.child_eq_entry _ (by decide) (by decide) (by decide)] at hignore
      have hsite := site_of_entry (by decide) hplace hignore
      exact append_suffix_ne base (by decide)
        (List.singleton_injective (List.append_cancel_left hsite))
  -- Every file that is there now was there before, or is one of these two.
  · obtain ⟨hpresent, -⟩ | ⟨-, ignore, hlocated, -, hfiles⟩ := hcases
    · rw [hmissing] at hpresent
      cases hpresent
    · rw [hsame site hsite]
      refine ⟨hfiles site content time ?_, hwithin.nodes site _⟩
      rintro rfl
      exact hignore (hstores.locate_iff.2 hlocated)
  · exact (hstores.directory_iff site).2 (hwithin.nodes site _ hdirectory)

/-- A fetch that builds an artifact changes it, and makes the file for version control if the cache
directory was missing. -/
theorem rebuilds_of_fetch (htree : files.IsTree)
    (hfinds : Finds cache files (.ofText source) artifact false)
    (hresult : (cache.fetch files (.ofText source)).result = .ok text)
    (hfree : ∀ bytes time,
      files.status (artifact.withName (artifact.name ++ temporarySuffix)) ≠
        .ok (.file bytes time)) :
    (cache.config.processFile files (.ofText source)).result = .ok text ∧
    ∃ codec bytes, cache.config.codec? = some codec ∧ codec.encode text = some bytes ∧
      (cache.config.Faithful → codec.decode bytes = .ok text) ∧
      Rebuilds files (cache.fetch files (.ofText source)).files cache.directory artifact bytes := by
  obtain ⟨codec, bytes, hpass, hcodec, hbytes, hstores⟩ := stores_of_fetch htree hfinds hresult
  refine ⟨hpass, codec, bytes, hcodec, hbytes,
    fun hfaithful => Config.decode_of_processFile hfaithful hpass hcodec hbytes, ?_⟩
  rw [hfinds.fetch_of_stale] at hresult hstores ⊢
  obtain ⟨-, hprepared, hstore⟩ := exists_store_of_build hresult
  obtain ⟨base, rfl⟩ := artifact?_eq_entry hfinds.name
  -- The temporary file was written, so that its path leads to a place where nothing was.
  obtain ⟨codec', bytes', written, hcodec', hbytes', hwrite, -⟩ := exists_write_of_store hstore
  obtain rfl := Option.some.inj (hcodec.symm.trans hcodec')
  obtain rfl := Option.some.inj (hbytes.symm.trans hbytes')
  rw [Path.withName_entry, Path.name_entry] at hwrite hfree
  rw [Path.name_entry] at hstores
  obtain ⟨temporary, hlocate, hnone⟩ := exists_temporary htree hwrite hfree
  exact rebuilds_of_stores htree hprepared hstores hlocate hnone

/-- A fetch of a source that is missing or cannot be processed fails and leaves every file as it is.
A fetch that finds a fresh artifact changes no file either. A fetch that builds an artifact gives
the text that the artifact then holds, which reads back if the encoding can write what it reads; and
if there was no temporary file, no other file has changed, but for the one for version control in a
cache directory that was missing. -/
theorem fetch_atomic (cache : Cache) {files : FileTree} (htree : files.IsTree) (source : String) :
    let pass := cache.config.processFile files (.ofText source)
    let fetched := cache.fetch files (.ofText source)
    (files.isFile (.ofText source) = .ok false → fetched.files = files ∧
      fetched.result = .error (.at (.notFound (.ofText source)) .unknown)) ∧
    (∀ e, pass.result = .error e → fetched.files = files ∧
      ∀ artifact, Finds cache files (.ofText source) artifact false → fetched.result = .error e) ∧
    (∀ artifact, Finds cache files (.ofText source) artifact true → fetched.files = files) ∧
    (∀ artifact text, Finds cache files (.ofText source) artifact false →
      fetched.result = .ok text →
      (∀ bytes time, files.status (artifact.withName (artifact.name ++ temporarySuffix)) ≠
        .ok (.file bytes time)) →
      pass.result = .ok text ∧ ∃ codec bytes, cache.config.codec? = some codec ∧
        codec.encode text = some bytes ∧
        (cache.config.Faithful → codec.decode bytes = .ok text) ∧
        Rebuilds files fetched.files cache.directory artifact bytes) ∧
    ∀ text, fetched.result = .ok text →
      ∃ artifact fresh, Finds cache files (.ofText source) artifact fresh := by
  intro pass fetched
  have hfails : ∀ e, pass.result = .error e →
      ∀ artifact, Finds cache files (.ofText source) artifact false →
      fetched.result = .error e ∧ fetched.files = files := by
    intro e hpass artifact hfinds
    simp only [fetched, hfinds.fetch_of_stale]
    exact build_of_error hpass
  have hfresh : ∀ artifact, Finds cache files (.ofText source) artifact true →
      fetched.files = files := by
    intro artifact hfinds
    simp only [fetched, hfinds.fetch_of_fresh]
  refine ⟨fun hmissing => ?_, fun e hpass => ⟨?_, fun artifact hfinds => ?_⟩, hfresh,
    fun artifact text => rebuilds_of_fetch htree, fun text hresult => ?_⟩
  · simp only [fetched, fetch, hmissing]
    exact ⟨trivial, trivial⟩
  -- A fetch that finds no artifact to read or to build fails before it touches any file.
  · obtain ⟨reason, heq⟩ | ⟨artifact, fresh, hfinds⟩ :=
      fetch_eq_or_finds cache files (.ofText source)
    · simp only [fetched, heq]
    · cases fresh with
      | true => exact hfresh artifact hfinds
      | false => exact (hfails e hpass artifact hfinds).2
  · exact (hfails e hpass artifact hfinds).1
  · obtain ⟨reason, heq⟩ | hfinds := fetch_eq_or_finds cache files (.ofText source)
    · simp only [fetched, heq] at hresult
      cases hresult
    · exact hfinds

/-- A source is built in a cache directory that was missing; one that does not close its blocks, and
has an artifact that is older, is not. -/
theorem fetch_atomic_rebuilt :
    (∃ (cache : Cache) (files : FileTree) (artifact : Path) (text : String) (bytes : List UInt8),
      files.IsTree ∧ files.isPresent cache.directory = .ok false ∧
      Finds cache files (.ofText "s") artifact false ∧
      (cache.fetch files (.ofText "s")).result = .ok text ∧
      Rebuilds files (cache.fetch files (.ofText "s")).files cache.directory artifact bytes) ∧
    ∃ (cache : Cache) (files : FileTree) (artifact : Path) (e : Failure),
      files.isPresent artifact = .ok true ∧ Finds cache files (.ofText "s") artifact false ∧
      (cache.config.processFile files (.ofText "s")).result = .error e ∧
      (cache.fetch files (.ofText "s")).result = .error e ∧
      (cache.fetch files (.ofText "s")).files = files := by
  refine ⟨?_, ?_⟩
  · obtain ⟨cache, hcache⟩ : ∃ cache, cache = Cache.mk (.ofText "cache")
        { constants := some .none } := ⟨_, rfl⟩
    obtain ⟨files, hfiles⟩ : ∃ files, files = FileTree.mk
        [(["s"], .file (encodeUtf8 "a\n") 0)] ⟨"/", []⟩ 1 := ⟨_, rfl⟩
    obtain ⟨artifact, hartifact⟩ : ∃ artifact,
        artifact = Path.ofText "cache/s_a9dec18c7111a07b8067b918f36866b0.py" := ⟨_, rfl⟩
    have htree : files.IsTree := by
      rw [hfiles]
      exact FileTree.isTree_of_length_le (by decide)
    -- Neither the cache directory nor a temporary file is there.
    have hmissing : files.isPresent cache.directory = .ok false ∧
        files.isPresent (artifact.withName (artifact.name ++ temporarySuffix)) = .ok false := by
      subst hcache hfiles hartifact
      decide +kernel
    have hfinds : Finds cache files (.ofText "s") artifact false := by
      subst hcache hfiles hartifact
      exact ⟨by decide +kernel, by decide +kernel, by decide +kernel⟩
    have hresult : (cache.fetch files (.ofText "s")).result = .ok "a\n" := by
      subst hcache hfiles
      decide +kernel
    obtain ⟨-, -, -, hbuilt, -⟩ := fetch_atomic cache htree "s"
    obtain ⟨-, codec, bytes, -, -, -, hrebuilds⟩ := hbuilt artifact _ hfinds hresult
      fun content time hstatus => by
        have hpresent := hmissing.2
        rw [FileTree.isPresent, FileTree.status?_eq_some.2 hstatus] at hpresent
        cases hpresent
    exact ⟨cache, files, artifact, _, bytes, htree, hmissing.1, hfinds, hresult, hrebuilds⟩
  · obtain ⟨cache, hcache⟩ : ∃ cache, cache = Cache.mk (.ofText "/")
        { constants := some .none } := ⟨_, rfl⟩
    obtain ⟨files, hfiles⟩ : ∃ files, files = FileTree.mk
        [(["s"], .file (encodeUtf8 "#if 1\n") 1),
          (["s_a9dec18c7111a07b8067b918f36866b0.py"], .file (encodeUtf8 "a\n") 0)]
        ⟨"/", []⟩ 1 := ⟨_, rfl⟩
    obtain ⟨artifact, hartifact⟩ : ∃ artifact,
        artifact = Path.ofText "/s_a9dec18c7111a07b8067b918f36866b0.py" := ⟨_, rfl⟩
    obtain ⟨e, he⟩ : ∃ e, e = Failure.at (.unbalanced (.unterminated 1)) ⟨some (.ofText "/s"), 0⟩ :=
      ⟨_, rfl⟩
    have htree : files.IsTree := by
      rw [hfiles]
      exact FileTree.isTree_of_length_le (by decide)
    -- The artifact is older than the source, which opens a block and does not close it.
    have hpresent : files.isPresent artifact = .ok true := by
      subst hfiles hartifact
      decide +kernel
    have hfinds : Finds cache files (.ofText "s") artifact false := by
      subst hcache hfiles hartifact
      exact ⟨by decide +kernel, by decide +kernel, by decide +kernel⟩
    have hresult : (cache.config.processFile files (.ofText "s")).result = .error e := by
      subst hcache hfiles he
      decide +kernel
    obtain ⟨-, hfails, -⟩ := fetch_atomic cache htree "s"
    obtain ⟨hkept, hfailed⟩ := hfails e hresult
    exact ⟨cache, files, artifact, e, hpresent, hfinds, hresult, hfailed artifact hfinds, hkept⟩

end Fetch

end Hashmark.Cache
