import Hashmark.Proofs.Cache.Fingerprint
import Hashmark.Proofs.FileTree.Operation
import Hashmark.Proofs.FileTree.Text

/-!
# Storing artifacts

An artifact is a file in the cache directory, under a name with the suffix of artifacts
(`artifact?_eq_entry`). A cache directory that is made on the way holds nothing but the file for
version control (`prepareDirectory_cases`). Storing an artifact either fails to write the temporary
file and changes nothing but that, or puts the artifact in its place and leaves everything else as
it was but for the temporary file, which is gone (`store_storesText`): the second of its two steps,
the renaming, cannot fail once the first has succeeded.
-/

namespace Hashmark.Cache

/-- A text whose last character is another one does not end as artifacts do. -/
theorem append_suffix_ne (base : String) {text : String} (h : text.toList.getLast? ≠ some 'y') :
    base ++ artifactSuffix ≠ text := by
  rintro rfl
  apply h
  rw [String.toList_append]
  simp [artifactSuffix]

/-- An artifact is a file in the cache directory, under the stem of its source and a digest. -/
theorem artifact?_eq_stem {cache : Cache} {here artifact : Path} {source : String}
    (h : cache.artifact? here (.ofText source) = some artifact) :
    ∃ digest, artifact =
      cache.directory.entry ((Path.ofText source).stem ++ "_" ++ digest ++ artifactSuffix) := by
  obtain ⟨fingerprint, -, hname⟩ := artifact?_eq_some.1 h
  have hnone := slash_notMem_keyDigest (key here (.ofText source) fingerprint)
  generalize keyDigest (key here (.ofText source) fingerprint) = digest at hname hnone
  have hslash : '/' ∉ ((Path.ofText source).stem ++ "_" ++ (digest ++ artifactSuffix)).toList := by
    have hsuffix : '/' ∉ artifactSuffix.toList := by decide
    simp only [String.toList_append, List.mem_append, not_or]
    exact ⟨⟨Path.slash_notMem_stem source, by decide⟩, hnone, hsuffix⟩
  have hend : (Path.ofText source).stem ++ "_" ++ (digest ++ artifactSuffix) =
      ((Path.ofText source).stem ++ "_" ++ digest) ++ artifactSuffix := by
    simp only [String.append_assoc]
  refine ⟨digest, ?_⟩
  rw [hname, Path.child_eq_entry _ hslash, hend]
  · rw [hend]
    exact append_suffix_ne _ (by decide)
  · rw [hend]
    exact append_suffix_ne _ (by decide)

/-- An artifact is a file in the cache directory, under a name with the suffix of artifacts. -/
theorem artifact?_eq_entry {cache : Cache} {here artifact : Path} {source : String}
    (h : cache.artifact? here (.ofText source) = some artifact) :
    ∃ base, artifact = cache.directory.entry (base ++ artifactSuffix) := by
  obtain ⟨digest, hstem⟩ := artifact?_eq_stem h
  exact ⟨_, hstem⟩

/-- A cache directory that was missing has been made, and no name leads to anything in it but that
of the file for version control. -/
structure Prepares (files prepared : FileTree) (directory : Path) : Prop extends
    FileTree.Within files prepared where
  /-- The time is the same. -/
  now : prepared.now = files.now
  /-- What was a tree is one. -/
  isTree : prepared.IsTree
  /-- The directory is empty otherwise. -/
  empty : ∀ name node, name ≠ ignoreName → name ≠ ".." →
    prepared.status (directory.entry name) ≠ .ok node

/-- What is in a directory stands below the place of the directory. -/
theorem exists_place_of_entry {files : FileTree} {directory : Path} {site : Site} {name : String}
    (hname : name ≠ "..") (h : files.locate (directory.entry name) = .ok site) :
    ∃ place, files.follow [] (directory.absolute files.here).names = .ok place ∧
      site = place ++ [name] := by
  obtain ⟨-, -, hfollow⟩ := FileTree.locate_eq_ok.1 h
  rw [Path.absolute_entry] at hfollow
  obtain ⟨place, hplace, -, -, hsite⟩ := (FileTree.follow_snoc hname).1 hfollow
  exact ⟨place, hplace, hsite⟩

/-- What is in a directory stands at one place below that to which its path leads. -/
theorem site_of_entry {files : FileTree} {directory : Path} {place site : Site} {name : String}
    (hname : name ≠ "..")
    (hplace : files.follow [] (directory.absolute files.here).names = .ok place)
    (h : files.locate (directory.entry name) = .ok site) : site = place ++ [name] := by
  obtain ⟨place', hplace', rfl⟩ := exists_place_of_entry hname h
  obtain rfl := Except.ok.inj (hplace.symm.trans hplace')
  rfl

/-- Preparing a cache directory changes nothing if something is there or nothing can be made, and
otherwise makes an empty one. -/
theorem prepareDirectory_cases {files : FileTree} (htree : files.IsTree) (directory : Path) :
    (prepareDirectory files directory).1 = files ∨
      Prepares files (prepareDirectory files directory).1 directory := by
  unfold prepareDirectory
  split
  · exact .inl rfl
  · exact .inl rfl
  · split
    · exact .inl rfl
    case h_2 made hmade =>
      refine .inr ?_
      obtain ⟨above, hgrows, hlast⟩ := FileTree.exists_makeDirectory hmade
      have hgrown := FileTree.grows_makeDirectory hlast
      have hall := hgrows.trans hgrown
      -- Of the directories that are made, the last one is the cache directory.
      obtain ⟨site, hlocate, hsite, hnone, hparent, rfl⟩ := FileTree.makeDirectory_eq_ok hlast
      -- Nothing was below the directory when it was made last.
      have hbelow : ∀ name, (above.put site .directory).nodeAt? (site ++ [name]) = none := by
        intro name
        rw [FileTree.nodeAt?_put _ hsite, if_neg (by simp)]
        exact (hgrows.isTree htree).nodeAt?_append (by simp [hnone]) [name] (by simp)
      have hplace := (FileTree.locate_eq_ok.1 (hgrown.toWithin.locate hlocate)).2.2
      -- So whatever name is looked up in it leads nowhere.
      have hempty : ∀ name node, name ≠ ".." →
          (above.put site .directory).status (directory.entry name) ≠ .ok node := by
        intro name node hname hstatus
        obtain ⟨other, hother, hnode⟩ := FileTree.status_eq_ok.1 hstatus
        obtain rfl := site_of_entry hname hplace hother
        rw [hbelow] at hnode
        cases hnode
      split
      · exact ⟨hall.toWithin, hall.now, hall.isTree htree, fun name node _ => hempty name node⟩
      case h_2 written hwritten =>
        -- Besides, the list of ignored files is written into it, or that fails.
        have hignore : directory.child ignoreName = directory.entry ignoreName :=
          Path.child_eq_entry _ (by decide) (by decide) (by decide)
        rw [hignore] at hwritten
        obtain ⟨file, hfile, hne, hnode, hparent', rfl⟩ := FileTree.write_eq_ok hwritten
        obtain rfl := site_of_entry (by decide) hplace hfile
        have hwithin := FileTree.within_put _ hne (hbelow ignoreName)
          (.file (Text.Encoding.encodeUtf8 ignoreText) (above.put site .directory).now)
        refine ⟨hall.toWithin.trans hwithin, ?_, ?_, ?_⟩
        · rw [(FileTree.put_here_now _ _ _).2, hall.now]
        · exact (hall.isTree htree).put hne hparent' hnode _
        · intro name node hignored hname hstatus
          obtain ⟨other, hother, hfound⟩ := FileTree.status_eq_ok.1 hstatus
          have hplace' := (FileTree.locate_eq_ok.1
            (hwithin.locate (hgrown.toWithin.locate hlocate))).2.2
          obtain rfl := site_of_entry hname hplace' hother
          rw [FileTree.nodeAt?_put _ hne, if_neg (by simpa using hignored), hbelow] at hfound
          cases hfound

/-- What the temporary name of an artifact ends in. -/
def temporarySuffix : String := ".tmp"

/-- An artifact and its temporary file have different places. -/
theorem place_ne_temporary (place : Site) (name : String) :
    place ++ [name] ≠ place ++ [name ++ temporarySuffix] := by
  intro heq
  have hlength := congrArg (fun s : String => s.toList.length)
    (List.singleton_injective (List.append_cancel_left heq))
  simp [temporarySuffix] at hlength

/-- The temporary name of an artifact does not lead to the directory above. -/
theorem temporary_ne (base : String) : base ++ artifactSuffix ++ temporarySuffix ≠ ".." := by
  intro heq
  have hlength := congrArg (fun s : String => s.toList.length) heq
  simp [artifactSuffix, temporarySuffix] at hlength

/-- An artifact has been stored: the file is in its place, nothing is in that of the temporary one,
and everything else is as it was. -/
structure Stores (files stored : FileTree) (directory : Path) (name : String)
    (bytes : List UInt8) : Prop where
  /-- The working directory is the same. -/
  here : stored.here = files.here
  /-- The time is the same. -/
  now : stored.now = files.now
  /-- What was a tree is one. -/
  isTree : stored.IsTree
  /-- The artifact is a file. -/
  artifact : stored.status (directory.entry name) = .ok (.file bytes files.now)
  /-- What stands at each place, given that of the cache directory. -/
  nodes : ∃ place, files.follow [] (directory.absolute files.here).names = .ok place ∧
    files.nodeAt? (place ++ [name]) ≠ some .directory ∧
    files.nodeAt? (place ++ [name ++ temporarySuffix]) ≠ some .directory ∧
    ∀ site, stored.nodeAt? site =
      if site = place ++ [name] then some (.file bytes files.now)
      else if site = place ++ [name ++ temporarySuffix] then none else files.nodeAt? site

/-- Storing an artifact makes and removes no directory. -/
theorem Stores.directory_iff {files stored : FileTree} {directory : Path} {name : String}
    {bytes : List UInt8} (h : Stores files stored directory name bytes) (site : Site) :
    stored.nodeAt? site = some .directory ↔ files.nodeAt? site = some .directory := by
  obtain ⟨place, -, hartifact, htemporary, hnodes⟩ := h.nodes
  rw [hnodes]
  split
  case isTrue hsite =>
    rw [hsite]
    simp [hartifact]
  · split
    case isTrue hsite =>
      rw [hsite]
      simp [htemporary]
    · rfl

/-- Storing an artifact leaves every path where it leads. -/
theorem Stores.locate_iff {files stored : FileTree} {directory : Path} {name : String}
    {bytes : List UInt8} (h : Stores files stored directory name bytes) {path : Path} {site : Site} :
    stored.locate path = .ok site ↔ files.locate path = .ok site :=
  ⟨FileTree.locate_mono h.here.symm fun other => (h.directory_iff other).1,
    FileTree.locate_mono h.here fun other => (h.directory_iff other).2⟩

/-- The path of an artifact leads somewhere if that of its temporary file does. -/
theorem locate_of_temporary {files : FileTree} {directory : Path} {name : String} {site : Site}
    (hname : name ≠ "..") (htemporary : name ++ temporarySuffix ≠ "..")
    (h : files.locate (directory.entry (name ++ temporarySuffix)) = .ok site) :
    ∃ place, files.follow [] (directory.absolute files.here).names = .ok place ∧
      files.nodeAt? place = some .directory ∧ site = place ++ [name ++ temporarySuffix] ∧
      files.locate (directory.entry name) = .ok (place ++ [name]) := by
  -- The name of the artifact is the shorter one, and fits if that of its temporary file does.
  have hlength : ∀ one other : String,
      FileTree.byteLength one ≤ FileTree.byteLength (one ++ other) := by
    intro one other
    simp only [FileTree.byteLength, Text.Encoding.encodeUtf8, String.toList_append,
      List.flatMap_append, List.length_append]
    omega
  obtain ⟨hnull, hshort, hfollow⟩ := FileTree.locate_eq_ok.1 h
  rw [Path.text_entry_append] at hnull hshort
  rw [Path.absolute_entry] at hfollow
  obtain ⟨place, hplace, hdirectory, hbytes, rfl⟩ := (FileTree.follow_snoc htemporary).1 hfollow
  refine ⟨place, hplace, hdirectory, rfl, FileTree.locate_eq_ok.2 ⟨?_, ?_, ?_⟩⟩
  · rw [String.toList_append, List.contains_append, Bool.or_eq_false_iff] at hnull
    exact hnull.1
  · exact Nat.le_trans (hlength _ _) hshort
  · rw [Path.absolute_entry]
    exact (FileTree.follow_snoc hname).2
      ⟨place, hplace, hdirectory, Nat.le_trans (hlength _ _) hbytes, rfl⟩

/-- Writing the temporary file and moving it stores an artifact. -/
theorem stores_of_write {files written : FileTree} (htree : files.IsTree) {directory : Path}
    {name : String} (hname : name ≠ "..") (htemporary : name ++ temporarySuffix ≠ "..")
    (hartifact : files.status (directory.entry name) ≠ .ok .directory) {bytes : List UInt8}
    (h : files.write (directory.entry (name ++ temporarySuffix)) bytes = .ok written) :
    ∃ stored, written.rename (directory.entry (name ++ temporarySuffix)) (directory.entry name) =
      .ok stored ∧ Stores files stored directory name bytes := by
  obtain ⟨site, hlocate, hsite, hnode, hparent, rfl⟩ := FileTree.write_eq_ok h
  obtain ⟨place, hplace, hdirectory, rfl, hlocate'⟩ :=
    locate_of_temporary hname htemporary hlocate
  have hne := place_ne_temporary place name
  -- The place of the artifact is free or that of a file, which moving replaces.
  have hfree : files.nodeAt? (place ++ [name]) ≠ some .directory := fun hnode =>
    hartifact (FileTree.status_eq_ok.2 ⟨_, hlocate', hnode⟩)
  obtain ⟨hhere, hnow⟩ := FileTree.put_here_now files (place ++ [name ++ temporarySuffix])
    (.file bytes files.now)
  have hput := FileTree.nodeAt?_put files hsite (.file bytes files.now)
  have htree' := htree.put hsite hparent hnode (.file bytes files.now)
  have hdirectories : ∀ other, files.nodeAt? other = some .directory →
      (files.put (place ++ [name ++ temporarySuffix]) (.file bytes files.now)).nodeAt? other =
        some .directory :=
    fun _ => FileTree.directory_put hsite hnode _
  -- From here on, what has been written matters only through these facts.
  generalize files.put (place ++ [name ++ temporarySuffix]) (.file bytes files.now) = written
    at hhere hnow hput htree' hdirectories
  have hstatus : written.status (directory.entry (name ++ temporarySuffix)) =
      .ok (.file bytes files.now) := by
    refine FileTree.status_eq_ok.2 ⟨_, FileTree.locate_mono hhere hdirectories hlocate, ?_⟩
    rw [hput, if_pos rfl]
  refine ⟨(written.prune (place ++ [name ++ temporarySuffix])).put (place ++ [name])
    (.file bytes files.now), ?_, ?_⟩
  -- Moving the temporary file succeeds.
  · unfold FileTree.rename
    rw [hstatus, FileTree.locate_mono hhere hdirectories hlocate,
      FileTree.locate_mono hhere hdirectories hlocate']
    simp only
    rw [if_neg]
    rw [hput, if_neg hne]
    exact hfree
  · have hplace' : place ++ [name] ≠ [] := by simp
    -- It leaves nothing in its old place.
    have hmoved : ∀ other, (written.prune (place ++ [name ++ temporarySuffix])).nodeAt? other =
        if other = place ++ [name ++ temporarySuffix] then none else files.nodeAt? other := by
      intro other
      have hleaf : written.nodeAt? (place ++ [name ++ temporarySuffix]) ≠ some .directory := by
        rw [hput, if_pos rfl]
        exact nofun
      rw [htree'.nodeAt?_prune_eq hsite hleaf, hput]
      split <;> rfl
    -- The artifact is in the new place, and every other place is as it was.
    have hstored : ∀ other, ((written.prune (place ++ [name ++ temporarySuffix])).put
        (place ++ [name]) (.file bytes files.now)).nodeAt? other =
          if other = place ++ [name] then some (.file bytes files.now)
          else if other = place ++ [name ++ temporarySuffix] then none
          else files.nodeAt? other := by
      intro other
      rw [FileTree.nodeAt?_put _ hplace', hmoved]
    have hhere' := (FileTree.put_here_now (written.prune (place ++ [name ++ temporarySuffix]))
      (place ++ [name]) (.file bytes files.now)).1.trans hhere
    refine ⟨hhere', ?_, ?_, ?_, place, hplace, hfree, hnode, hstored⟩
    · rw [(FileTree.put_here_now _ _ _).2]
      exact hnow
    · refine (htree'.prune _).put hplace' ?_ ?_ _
      · rw [List.dropLast_concat, hmoved, if_neg]
        · exact hdirectory
        · intro heq
          have hlength := congrArg List.length heq
          simp at hlength
      · rw [hmoved, if_neg hne]
        exact hfree
    · refine FileTree.status_eq_ok.2 ⟨_, FileTree.locate_mono hhere' ?_ hlocate', ?_⟩
      · intro other hother
        rw [hstored, if_neg, if_neg]
        · exact hother
        · rintro rfl
          exact hnode hother
        · rintro rfl
          exact hfree hother
      · rw [hstored, if_pos rfl]

/-- What comes of storing a text as an artifact: the files then, and the failure if there is one. -/
inductive StoresText (files : FileTree) (directory : Path) (name : String) (config : Config)
    (text : String) : FileTree × Except Failure Unit → Prop
  /-- The temporary file cannot be written. -/
  | unwritten {bytes : List UInt8} {e : FileError} :
    files.write (directory.entry (name ++ temporarySuffix)) bytes = .error e →
    StoresText files directory name config text (files, .error (.file e))
  /-- The encoding does not have all characters, and the temporary file is left empty. -/
  | unencodable {codec : Text.Codec} {emptied : FileTree} : config.codec? = some codec →
    codec.encode text = none →
    files.write (directory.entry (name ++ temporarySuffix)) [] = .ok emptied →
    StoresText files directory name config text (emptied, .error .unencodable)
  /-- The artifact is in its place. -/
  | stored {codec : Text.Codec} {bytes : List UInt8} {stored : FileTree} :
    config.codec? = some codec → codec.encode text = some bytes →
    Stores files stored directory name bytes →
    StoresText files directory name config text (stored, .ok ())

/-- Storing a text in an encoding that the host knows comes to one of these. -/
theorem store_storesText {files : FileTree} (htree : files.IsTree) {directory : Path}
    {name : String} (hname : name ≠ "..") (htemporary : name ++ temporarySuffix ≠ "..")
    (hartifact : files.status (directory.entry name) ≠ .ok .directory) {config : Config}
    (hcodec : config.codec?.isSome) (text : String) :
    StoresText files directory name config text
      (store files (directory.entry name) config text) := by
  have hsuffix : ".tmp" = temporarySuffix := rfl
  have hwrites := files.writeText_writes (directory.entry (name ++ temporarySuffix)) config text
  unfold store
  simp only [hsuffix, Path.withName_entry, Path.name_entry]
  generalize files.writeText (directory.entry (name ++ temporarySuffix)) config text = step
    at hwrites ⊢
  cases hwrites with
  | name hnull =>
    obtain ⟨codec, hcodec⟩ := Option.isSome_iff_exists.1 hcodec
    rw [Config.null_notMem_encoding hcodec] at hnull
    cases hnull
  | file hwrite => exact .unwritten hwrite
  | encoding hnone =>
    rw [hnone] at hcodec
    cases hcodec
  | characters hcodec hnone hwrite => exact .unencodable hcodec hnone hwrite
  | written hcodec hbytes hwrite =>
    -- What has been written can be moved.
    obtain ⟨stored, hrename, hstores⟩ := stores_of_write htree hname htemporary hartifact hwrite
    simp only [hrename]
    exact .stored hcodec hbytes hstores

end Hashmark.Cache
