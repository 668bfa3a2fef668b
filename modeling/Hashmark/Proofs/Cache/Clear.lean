import Hashmark.Proofs.Cache.Atomic
import Hashmark.Proofs.Cache.Transparency
import Hashmark.Proofs.FileTree.Listing

/-!
# What clearing a cache removes

Clearing goes by names alone: it removes the regular files in the cache directory that have the
suffix of artifacts (`exists_clears`). After any run of fetches these are the artifacts that the
fetches stored there, all of which are still there, and the files of that suffix that stood there
before (`collects_fetchAll`). What one fetch does is put together from the preparation of the
directory, which makes no such file, and the storing of an artifact, which makes one and leaves the
others (`collects_call`). Nothing is left that a later fetch could take for an artifact, unless a
directory stands in the place of one (`clear_after_fetches`).
-/

namespace Hashmark.Cache

/-- A place whose name has the suffix of artifacts. -/
def ArtifactSite (site : Site) : Prop :=
  ∃ place name, site = place ++ [name] ∧ isArtifactName name = true

/-- A name that ends in the suffix of artifacts has it, unless it consists of the suffix. -/
theorem isArtifactName_append {base : String} (h : base ≠ "") :
    isArtifactName (base ++ artifactSuffix) = true := by
  have hsuffix : artifactSuffix = String.ofList ('.' :: ['p', 'y']) := rfl
  rw [isArtifactName, hsuffix, Path.splitName_suffix _ (by simp) (by simp), if_neg h]
  exact beq_self_eq_true _

/-- The name of a temporary file does not have the suffix of artifacts. -/
theorem isArtifactName_temporary (name : String) :
    isArtifactName (name ++ temporarySuffix) = false := by
  have hsuffix : temporarySuffix = String.ofList ('.' :: ['t', 'm', 'p']) := rfl
  rw [isArtifactName, hsuffix, Path.splitName_suffix _ (by simp) (by simp)]
  split <;> decide

/-- The name of an artifact has the suffix of artifacts. -/
theorem isArtifactName_of_artifact? {cache : Cache} {here artifact : Path} {source : String}
    (h : cache.artifact? here (.ofText source) = some artifact) :
    isArtifactName artifact.name = true := by
  obtain ⟨digest, rfl⟩ := artifact?_eq_stem h
  rw [Path.name_entry]
  apply isArtifactName_append
  intro hempty
  have hlength := congrArg (fun s : String => s.toList.length) hempty
  simp at hlength

/-- What a run of fetches does to the files, as far as clearing is concerned: which files with the
suffix of artifacts there are, given the places where the run has stored one. -/
structure Collects (files after : FileTree) (stored : Site → Prop) : Prop where
  /-- The working directory is the same. -/
  here : after.here = files.here
  /-- What was a tree is one. -/
  isTree : after.IsTree
  /-- It lists each place once. -/
  unique : after.Unique
  /-- No directory is gone. -/
  directories : ∀ site, files.nodeAt? site = some .directory → after.nodeAt? site = some .directory
  /-- A file with the suffix is not gone. -/
  kept : ∀ site, ArtifactSite site → files.FileAt site → after.FileAt site
  /-- A file with the suffix was there or has been stored. -/
  origin : ∀ site, ArtifactSite site → after.FileAt site → files.FileAt site ∨ stored site
  /-- What has been stored is a file with the suffix. -/
  stored : ∀ site, stored site → ArtifactSite site ∧ after.FileAt site

section Collects

variable {files between after : FileTree} {first second : Site → Prop}

/-- Nothing is stored where nothing happens. -/
theorem Collects.refl (htree : files.IsTree) (hunique : files.Unique) :
    Collects files files fun _ => False :=
  ⟨rfl, htree, hunique, fun _ h => h, fun _ _ h => h, fun _ _ h => .inl h, fun _ h => h.elim⟩

/-- What is stored in two runs, one after the other, is stored in one of them. -/
theorem Collects.trans (h : Collects files between first) (h' : Collects between after second) :
    Collects files after fun site => first site ∨ second site := by
  refine ⟨h'.here.trans h.here, h'.isTree, h'.unique, fun site hsite => ?_,
    fun site hname hfile => ?_, fun site hname hfile => ?_, fun site hsite => ?_⟩
  · exact h'.directories site (h.directories site hsite)
  · exact h'.kept site hname (h.kept site hname hfile)
  · obtain hbetween | hsecond := h'.origin site hname hfile
    · exact (h.origin site hname hbetween).imp_right .inl
    · exact .inr (.inr hsecond)
  · obtain hfirst | hsecond := hsite
    · obtain ⟨hname, hfile⟩ := h.stored site hfirst
      exact ⟨hname, h'.kept site hname hfile⟩
    · exact h'.stored site hsecond

/-- The places may be described otherwise. -/
theorem Collects.of_iff (h : Collects files after first) (hiff : ∀ site, first site ↔ second site) :
    Collects files after second := by
  obtain rfl : first = second := funext fun site => propext (hiff site)
  exact h

end Collects

section Fetch

variable {files : FileTree}

/-- A prepared directory lists each place once. -/
theorem unique_prepareDirectory (hunique : files.Unique) (directory : Path) :
    (prepareDirectory files directory).1.Unique := by
  unfold prepareDirectory
  split
  · exact hunique
  · exact hunique
  · split
    · exact hunique
    case h_2 made hmade =>
      have hmade' : made.Unique := hunique.makeDirectoriesWithin hmade
      split
      · exact hmade'
      case h_2 hwritten => exact hmade'.write hwritten

/-- Preparing a directory makes no file with the suffix of artifacts. -/
theorem fileAt_of_prepareDirectory {directory : Path} {site : Site} (hsite : ArtifactSite site)
    (h : (prepareDirectory files directory).1.FileAt site) : files.FileAt site := by
  unfold prepareDirectory at h
  split at h
  · exact h
  · exact h
  · split at h
    · exact h
    case h_2 made hmade =>
      obtain ⟨above, hgrows, hlast⟩ := FileTree.exists_makeDirectory hmade
      have hgrown := hgrows.trans (FileTree.grows_makeDirectory hlast)
      have hmade' : made.FileAt site → files.FileAt site := by
        rintro ⟨bytes, time, hnode⟩
        exact ⟨bytes, time, hgrown.files site bytes time hnode⟩
      split at h
      · exact hmade' h
      case h_2 written hwritten =>
        -- The file for version control has another suffix.
        obtain ⟨ignored, hlocate, hne, -, -, rfl⟩ := FileTree.write_eq_ok hwritten
        rw [Path.child_eq_entry _ (by decide) (by decide) (by decide)] at hlocate
        obtain ⟨place, -, rfl⟩ := exists_place_of_entry (by decide) hlocate
        obtain ⟨bytes, time, hnode⟩ := h
        rw [FileTree.nodeAt?_put _ hne] at hnode
        split at hnode
        case isTrue heq =>
          obtain ⟨other, name, rfl, hname⟩ := hsite
          obtain ⟨-, hsame⟩ := List.append_inj' heq rfl
          obtain rfl := List.singleton_injective hsame
          have hignored : isArtifactName ignoreName = false := by decide +kernel
          rw [hignored] at hname
          cases hname
        · exact hmade' ⟨bytes, time, hnode⟩

/-- Preparing a directory stores nothing. -/
theorem collects_prepareDirectory (htree : files.IsTree) (hunique : files.Unique)
    (directory : Path) :
    Collects files (prepareDirectory files directory).1 fun _ => False := by
  have hunique' := unique_prepareDirectory hunique directory
  have horigin := @fileAt_of_prepareDirectory files directory
  obtain heq | hprepares := prepareDirectory_cases htree directory
  · rw [heq]
    exact .refl htree hunique
  · refine ⟨hprepares.here, hprepares.isTree, hunique', fun site => hprepares.nodes site _, ?_,
      fun site hname hfile => .inl (horigin hname hfile), fun _ h => h.elim⟩
    rintro site - ⟨bytes, time, hnode⟩
    exact ⟨bytes, time, hprepares.nodes site _ hnode⟩

/-- The place of a temporary file is not that of a file with the suffix of artifacts. -/
theorem ArtifactSite.ne_temporary {site : Site} (h : ArtifactSite site) (place : Site)
    (name : String) : site ≠ place ++ [name ++ temporarySuffix] := by
  rintro heq
  obtain ⟨other, last, rfl, hlast⟩ := h
  obtain ⟨-, hsame⟩ := List.append_inj' heq rfl
  rw [List.singleton_injective hsame, isArtifactName_temporary] at hlast
  cases hlast

/-- Writing a temporary file stores nothing. -/
theorem collects_of_write_temporary (htree : files.IsTree) (hunique : files.Unique)
    {directory : Path} {name : String} (htemporary : name ++ temporarySuffix ≠ "..")
    {bytes : List UInt8} {written : FileTree}
    (h : files.write (directory.entry (name ++ temporarySuffix)) bytes = .ok written) :
    Collects files written fun _ => False := by
  have hunique' := hunique.write h
  obtain ⟨site, hlocate, hsite, hnode, hparent, rfl⟩ := FileTree.write_eq_ok h
  obtain ⟨place, -, rfl⟩ := exists_place_of_entry htemporary hlocate
  have hput := FileTree.nodeAt?_put files hsite (.file bytes files.now)
  refine ⟨(FileTree.put_here_now _ _ _).1, htree.put hsite hparent hnode _, hunique',
    fun other => FileTree.directory_put hsite hnode _, fun other hother hold => ?_,
    fun other hother hnew => .inl ?_, fun _ hstored => hstored.elim⟩
  · obtain ⟨content, time, hfile⟩ := hold
    exact ⟨content, time, by rw [hput, if_neg (hother.ne_temporary place name), hfile]⟩
  · obtain ⟨content, time, hfile⟩ := hnew
    rw [hput, if_neg (hother.ne_temporary place name)] at hfile
    exact ⟨content, time, hfile⟩

/-- Storing an artifact adds it to the files with the suffix of artifacts. -/
theorem collects_of_stores {stored : FileTree} {directory : Path} {name : String}
    {bytes : List UInt8} (h : Stores files stored directory name bytes)
    (hunique : stored.Unique) (hup : name ≠ "..") (hname : isArtifactName name = true) :
    Collects files stored fun site => stored.locate (directory.entry name) = .ok site := by
  obtain ⟨place, -, hlocate, hnodes⟩ := h.exists_place hup
  have hfile : stored.FileAt (place ++ [name]) := ⟨bytes, files.now, by rw [hnodes, if_pos rfl]⟩
  refine ⟨h.here, h.isTree, hunique, fun site => (h.directory_iff site).2,
    fun site hsite hold => ?_, fun site hsite hnew => ?_, fun site hsite => ?_⟩
  · -- A file with the suffix is not the temporary one, the only file that goes.
    by_cases hsame : site = place ++ [name]
    · exact hsame ▸ hfile
    · obtain ⟨content, time, hnode⟩ := hold
      exact ⟨content, time,
        by rw [hnodes, if_neg hsame, if_neg (hsite.ne_temporary place name), hnode]⟩
  · by_cases hsame : site = place ++ [name]
    · exact .inr (hsame ▸ hlocate)
    · obtain ⟨content, time, hnode⟩ := hnew
      rw [hnodes, if_neg hsame, if_neg (hsite.ne_temporary place name)] at hnode
      exact .inl ⟨content, time, hnode⟩
  · obtain rfl := Except.ok.inj (hlocate.symm.trans hsite)
    exact ⟨⟨place, name, rfl, hname⟩, hfile⟩

/-- Writing a text keeps each place listed once. -/
theorem unique_writeText (hunique : files.Unique) (path : Path) (config : Config) (text : String) :
    (files.writeText path config text).1.Unique := by
  have hwrites := files.writeText_writes path config text
  generalize files.writeText path config text = step at hwrites ⊢
  cases hwrites with
  | name => exact hunique
  | file => exact hunique
  | encoding _ hwrite => exact hunique.write hwrite
  | characters _ _ hwrite => exact hunique.write hwrite
  | written _ _ hwrite => exact hunique.write hwrite

/-- Storing an artifact keeps each place listed once. -/
theorem unique_store (hunique : files.Unique) (artifact : Path) (config : Config)
    (text : String) : (store files artifact config text).1.Unique := by
  unfold store
  simp only
  have hwritten := unique_writeText hunique
    (artifact.withName (artifact.name ++ temporarySuffix)) config text
  have hsuffix : ".tmp" = temporarySuffix := rfl
  rw [hsuffix]
  generalize files.writeText (artifact.withName (artifact.name ++ temporarySuffix)) config text =
    step at hwritten
  obtain ⟨written, outcome⟩ := step
  cases outcome with
  | error e => exact hwritten
  | ok done =>
    simp only
    split
    · exact hwritten
    case h_2 hrenamed => exact hwritten.rename hrenamed

/-- A fetch keeps each place listed once. -/
theorem unique_fetch (hunique : files.Unique) (cache : Cache) (source : Path) :
    (cache.fetch files source).files.Unique := by
  obtain ⟨e, heq⟩ | ⟨artifact, fresh, hfinds⟩ := fetch_eq_or_finds cache files source
  · rw [heq]
    exact hunique
  · cases fresh with
    | true =>
      rw [hfinds.fetch_of_fresh]
      exact hunique
    | false =>
      rw [hfinds.fetch_of_stale]
      have hprepared := unique_prepareDirectory hunique cache.directory
      unfold build
      simp only
      split
      · exact hunique
      · generalize prepareDirectory files cache.directory = prepared at hprepared
        obtain ⟨between, outcome⟩ := prepared
        cases outcome with
        | error e => exact hprepared
        | ok done => exact unique_store hprepared _ _ _

end Fetch

/-- A fetch of a source through a cache, at a time. -/
structure Call where
  /-- The cache. -/
  cache : Cache
  /-- The text of the path of the source. -/
  source : String
  /-- The time. -/
  time : Nat

namespace Call

/-- The files at the time of the fetch. -/
def found (call : Call) (files : FileTree) : FileTree :=
  { files with now := call.time }

/-- What comes of the fetch. -/
def outcome (call : Call) (files : FileTree) : Outcome String :=
  call.cache.fetch (call.found files) (.ofText call.source)

/-- The fetch stores an artifact at a place: it finds none that is fresh, gives a text, and the path
of the artifact leads to the place. -/
def StoresAt (call : Call) (files : FileTree) (site : Site) : Prop :=
  ∃ artifact text, Finds call.cache (call.found files) (.ofText call.source) artifact false ∧
    (call.outcome files).result = .ok text ∧
    (call.outcome files).files.locate artifact = .ok site

end Call

/-- The files after fetches, one after the other. -/
def fetchAll : List Call → FileTree → FileTree
  | [], files => files
  | call :: calls, files => fetchAll calls (call.outcome files).files

/-- The places where fetches, one after the other, have stored artifacts. -/
def Stored : List Call → FileTree → Site → Prop
  | [], _, _ => False
  | call :: calls, files, site =>
    call.StoresAt files site ∨ Stored calls (call.outcome files).files site

section Run

variable {files : FileTree}

/-- The artifact that a fetch stores is that of its source. -/
theorem Call.storesAt_iff {call : Call} {artifact : Path} {text : String}
    (hfinds : Finds call.cache (call.found files) (.ofText call.source) artifact false)
    (hresult : (call.outcome files).result = .ok text) (site : Site) :
    call.StoresAt files site ↔ (call.outcome files).files.locate artifact = .ok site := by
  constructor
  · rintro ⟨other, -, hother, -, hlocate⟩
    obtain rfl := Option.some.inj (hfinds.name.symm.trans hother.name)
    exact hlocate
  · exact fun hlocate => ⟨artifact, text, hfinds, hresult, hlocate⟩

/-- A fetch stores nothing and does no more than to prepare the cache directory and to leave an empty
temporary file there, or it finds no fresh artifact and stores one in the prepared directory. -/
theorem Call.outcome_cases (htree : files.IsTree) (call : Call) :
    let prepared := (prepareDirectory (call.found files) call.cache.directory).1
    let after := (call.outcome files).files
    (∀ site, ¬call.StoresAt files site) ∧ (after = call.found files ∨ after = prepared ∨
      ∃ base, prepared.write
        (call.cache.directory.entry (base ++ artifactSuffix ++ temporarySuffix)) [] = .ok after) ∨
    ∃ artifact text bytes,
      Finds call.cache (call.found files) (.ofText call.source) artifact false ∧
      (call.outcome files).result = .ok text ∧
      Stores prepared after call.cache.directory artifact.name bytes := by
  intro prepared after
  have htree' : (call.found files).IsTree := htree
  -- A fetch that fails stores nothing.
  have herror : ∀ e, (call.outcome files).result = .error e →
      ∀ site, ¬call.StoresAt files site := by
    rintro e he site ⟨_, text, -, hresult, -⟩
    rw [he] at hresult
    cases hresult
  obtain ⟨e, heq⟩ | ⟨artifact, fresh, hfinds⟩ :=
    fetch_eq_or_finds call.cache (call.found files) (.ofText call.source)
  · have hfiles : after = call.found files := by simp only [after, Call.outcome, heq]
    exact .inl ⟨herror e (by rw [Call.outcome, heq]), .inl hfiles⟩
  cases fresh with
  | true =>
    -- The artifact of the source is the one that was found fresh.
    refine .inl ⟨?_, .inl ?_⟩
    · rintro site ⟨other, -, hother, -, -⟩
      obtain rfl := Option.some.inj (hfinds.name.symm.trans hother.name)
      cases Except.ok.inj (hfinds.freshness.symm.trans hother.freshness)
    · simp only [after, Call.outcome, hfinds.fetch_of_fresh]
  | false =>
    -- What is found is stale, so that the artifact is built.
    have houtcome : call.outcome files =
        call.cache.build (call.found files) (.ofText call.source) artifact :=
      hfinds.fetch_of_stale
    obtain ⟨base, rfl, hbuilds⟩ := hfinds.exists_builds htree'
    rw [← houtcome] at hbuilds
    simp only [after, prepared] at hbuilds ⊢
    generalize (call.outcome files).files = after at hbuilds ⊢
    generalize hresult : (call.outcome files).result = result at hbuilds
    cases hbuilds with
    | fails => exact .inl ⟨herror _ hresult, .inl rfl⟩
    | unprepared => exact .inl ⟨herror _ hresult, .inr (.inl rfl)⟩
    | unwritten => exact .inl ⟨herror _ hresult, .inr (.inl rfl)⟩
    | unencodable _ _ _ hwrite => exact .inl ⟨herror _ hresult, .inr (.inr ⟨base, hwrite⟩)⟩
    | @stored text codec bytes _ _ _ _ hstores =>
      refine .inr ⟨_, text, bytes, hfinds, rfl, ?_⟩
      rw [Path.name_entry]
      exact hstores

/-- A fetch adds the artifact that it stores to the files with the suffix of artifacts. -/
theorem collects_call (htree : files.IsTree) (hunique : files.Unique) (call : Call) :
    Collects files (call.outcome files).files (call.StoresAt files) := by
  have hfound : Collects files (call.found files) fun _ => False :=
    ⟨rfl, htree, hunique, fun _ h => h, fun _ _ h => h, fun _ _ h => .inl h, fun _ h => h.elim⟩
  have hprepared := hfound.trans
    (collects_prepareDirectory hfound.isTree hfound.unique call.cache.directory)
  obtain ⟨hnone, hfiles | hfiles | ⟨base, hwrite⟩⟩ |
    ⟨artifact, text, bytes, hfinds, hresult, hstores⟩ := call.outcome_cases htree
  -- The fetch has changed nothing, has prepared the directory, in which it may have left a temporary
  -- file, or has stored an artifact.
  · rw [hfiles]
    exact hfound.of_iff fun site => by simp [hnone site]
  · rw [hfiles]
    exact hprepared.of_iff fun site => by simp [hnone site]
  · have hemptied := collects_of_write_temporary hprepared.isTree hprepared.unique
      (temporary_ne base) hwrite
    exact (hprepared.trans hemptied).of_iff fun site => by simp [hnone site]
  · have hname := isArtifactName_of_artifact? hfinds.name
    have hup : artifact.name ≠ ".." := by
      obtain ⟨base, rfl⟩ := artifact?_eq_entry hfinds.name
      rw [Path.name_entry]
      exact append_suffix_ne _ (by decide)
    have hstored := collects_of_stores hstores (unique_fetch hfound.unique _ _) hup hname
    rw [entry_name hfinds.name] at hstored
    refine (hprepared.trans hstored).of_iff fun site => ?_
    rw [Call.storesAt_iff hfinds hresult]
    simp

/-- Fetches, one after the other, add the artifacts that they store to the files with the suffix of
artifacts. -/
theorem collects_fetchAll (htree : files.IsTree) (hunique : files.Unique) (calls : List Call) :
    Collects files (fetchAll calls files) (Stored calls files) := by
  induction calls generalizing files with
  | nil => exact .refl htree hunique
  | cons call calls ih =>
    have hcall := collects_call htree hunique call
    exact hcall.trans (ih hcall.isTree hcall.unique)

end Run

/-- A directory has been cleared: certain places are empty, and everything else is as it was. -/
structure Clears (files cleared : FileTree) (place : Site) (removed : List Site) : Prop where
  /-- The places are different. -/
  nodup : removed.Nodup
  /-- They are those of the regular files in the directory with the suffix of artifacts. -/
  mem_iff : ∀ site, site ∈ removed ↔
    ∃ name, site = place ++ [name] ∧ isArtifactName name = true ∧ files.FileAt site
  /-- Nothing is left there. -/
  gone : ∀ site ∈ removed, cleared.nodeAt? site = none
  /-- What stands elsewhere is left. -/
  kept : ∀ site, site ∉ removed → cleared.nodeAt? site = files.nodeAt? site
  /-- The working directory is the same. -/
  here : cleared.here = files.here
  /-- What was a tree is one. -/
  isTree : cleared.IsTree
  /-- It lists each place once. -/
  unique : cleared.Unique

section Clear

variable {files : FileTree} {directory : Path} {place : Site}

/-- Clearing places keeps each of the others listed once. -/
theorem unique_foldl_prune (hunique : files.Unique) (site : Site) (names : List String) :
    (names.foldl (fun files name => files.prune (site ++ [name])) files).Unique := by
  induction names generalizing files with
  | nil => exact hunique
  | cons name names ih => exact ih (hunique.prune _)

/-- Clearing a cache directory clears the places of certain names in it, one after another, and gives
their number: the names of the regular files in it that have the suffix of artifacts. -/
theorem exists_names_of_clear (hunique : files.Unique)
    (hlocate : files.locate directory = .ok place)
    (hdirectory : files.nodeAt? place = some .directory) :
    ∃ names : List String, clear files directory =
        (names.foldl (fun files name => files.prune (place ++ [name])) files, .ok names.length) ∧
      names.Nodup ∧
      ∀ name, name ∈ names ↔ isArtifactName name = true ∧ files.FileAt (place ++ [name]) := by
  have hstatus := FileTree.status?_eq_some.2 (FileTree.status_eq_ok.2 ⟨place, hlocate, hdirectory⟩)
  unfold clear
  rw [hstatus]
  simp only [hlocate]
  refine ⟨_, rfl, (FileTree.children_nodup hunique place).filter _, fun name => ?_⟩
  rw [List.mem_filter, FileTree.mem_children, Bool.and_eq_true]
  constructor
  · rintro ⟨-, hname, hfile⟩
    refine ⟨hname, ?_⟩
    split at hfile
    case h_1 bytes time hnode => exact ⟨bytes, time, hnode⟩
    · cases hfile
  · rintro ⟨hname, bytes, time, hnode⟩
    exact ⟨FileTree.mem_nodes_of_nodeAt? hnode, hname, by rw [hnode]⟩

/-- Clearing a cache directory empties the places of the regular files in it that have the suffix of
artifacts, and gives their number. -/
theorem exists_clears (htree : files.IsTree) (hunique : files.Unique)
    (hlocate : files.locate directory = .ok place)
    (hdirectory : files.nodeAt? place = some .directory) :
    ∃ removed, (clear files directory).2 = .ok removed.length ∧
      Clears files (clear files directory).1 place removed := by
  obtain ⟨hwithin, hkeeps⟩ := clear_within files directory
  have htree' := hkeeps htree
  obtain ⟨names, hclear, hnodup, hnames⟩ := exists_names_of_clear hunique hlocate hdirectory
  have hnode := FileTree.nodeAt?_foldl_prune files place names
  refine ⟨names.map fun name => place ++ [name], by rw [hclear, List.length_map], ?_⟩
  rw [hclear] at hwithin htree' ⊢
  refine ⟨?_, fun site => ?_, fun site hsite => ?_, fun site hsite => ?_, hwithin.here.symm, htree',
    unique_foldl_prune hunique place names⟩
  · refine hnodup.map fun one other hsame => ?_
    exact List.singleton_injective (List.append_cancel_left hsame)
  · rw [List.mem_map]
    constructor
    · rintro ⟨name, hname, rfl⟩
      exact ⟨name, rfl, (hnames name).1 hname⟩
    · rintro ⟨name, rfl, hname⟩
      exact ⟨name, (hnames name).2 hname, rfl⟩
  · obtain ⟨name, hname, rfl⟩ := List.mem_map.1 hsite
    rw [hnode, if_pos ⟨name, hname, List.prefix_refl _⟩]
  · rw [hnode]
    split
    case isTrue hbelow =>
      -- Nothing stands below a file.
      obtain ⟨name, hname, rest, rfl⟩ := hbelow
      obtain ⟨-, bytes, time, hfile⟩ := (hnames name).1 hname
      refine (htree.nodeAt?_append (by rw [hfile]; simp) rest ?_).symm
      rintro rfl
      exact hsite (List.mem_map.2 ⟨name, hname, (List.append_nil _).symm⟩)
    · rfl

/-- Clearing a cache directory removes no directory. -/
theorem Clears.nodeAt?_directory {cleared : FileTree} {removed : List Site}
    (h : Clears files cleared place removed) {site : Site}
    (hsite : files.nodeAt? site = some .directory) : cleared.nodeAt? site = some .directory := by
  rw [h.kept site, hsite]
  intro hmem
  obtain ⟨-, -, -, bytes, time, hfile⟩ := (h.mem_iff site).1 hmem
  rw [hsite] at hfile
  cases hfile

/-- No regular file with the suffix of artifacts is left in a directory that has been cleared. -/
theorem Clears.not_fileAt {cleared : FileTree} {removed : List Site}
    (h : Clears files cleared place removed) {name : String} (hname : isArtifactName name = true) :
    ¬cleared.FileAt (place ++ [name]) := by
  rintro ⟨bytes, time, hfile⟩
  by_cases hmem : place ++ [name] ∈ removed
  · rw [h.gone _ hmem] at hfile
    cases hfile
  · rw [h.kept _ hmem] at hfile
    exact hmem ((h.mem_iff _).2 ⟨name, rfl, hname, bytes, time, hfile⟩)

/-- The artifact of a source has a name with the suffix of artifacts in its cache directory. -/
theorem locate_artifact {cache : Cache} {here artifact : Path} {source : String} {site : Site}
    (hartifact : cache.artifact? here (.ofText source) = some artifact)
    (hdirectory : files.locate cache.directory = .ok place)
    (hsite : files.locate artifact = .ok site) :
    ∃ name, site = place ++ [name] ∧ isArtifactName name = true := by
  have hname := isArtifactName_of_artifact? hartifact
  obtain ⟨base, rfl⟩ := artifact?_eq_entry hartifact
  rw [Path.name_entry] at hname
  have hplace := (FileTree.locate_eq_ok.1 hdirectory).2.2
  exact ⟨_, site_of_entry (append_suffix_ne _ (by decide)) hplace hsite, hname⟩

/-- After a clearing, a fetch finds a fresh artifact only if that has been stored since, or a
directory stands in its place. -/
theorem Clears.stale {cleared : FileTree} {removed : List Site}
    (h : Clears files cleared place removed) (later : List Call) {call : Call} {artifact : Path}
    {fresh : Bool} (hlocate : files.locate call.cache.directory = .ok place)
    (hfinds : Finds call.cache (call.found (fetchAll later cleared)) (.ofText call.source) artifact
      fresh)
    (hfree : (call.found (fetchAll later cleared)).status artifact ≠ .ok .directory)
    (hnew : ∀ site, Stored later cleared site →
      (call.found (fetchAll later cleared)).locate artifact ≠ .ok site) : fresh = false := by
  have hcollects := collects_fetchAll h.isTree h.unique later
  cases fresh with
  | false => rfl
  | true =>
    obtain ⟨bytes, made, -, -, hmade, -, -⟩ | hdirectory := isFresh_eq_true hfinds.freshness
    · obtain ⟨site, hsite, hnode⟩ := FileTree.status_eq_ok.1 hmade
      have hhere : (call.found (fetchAll later cleared)).here = files.here :=
        hcollects.here.trans h.here
      have hdirectories : ∀ other, files.nodeAt? other = some .directory →
          (call.found (fetchAll later cleared)).nodeAt? other = some .directory :=
        fun other hother => hcollects.directories other (h.nodeAt?_directory hother)
      have hlocate' := FileTree.locate_mono hhere hdirectories hlocate
      obtain ⟨name, rfl, hname⟩ := locate_artifact hfinds.name hlocate' hsite
      -- What is there now was there when the directory was cleared, or has been stored since.
      obtain hold | hstored := hcollects.origin _ ⟨place, name, rfl, hname⟩ ⟨bytes, made, hnode⟩
      · exact absurd hold (h.not_fileAt hname)
      · exact absurd hsite (hnew _ hstored)
    · exact absurd (FileTree.status?_eq_some.1 hdirectory) hfree

/-- A fetch that finds no fresh artifact and gives a text gives that of a pass, and stores it. -/
theorem exists_storesAt (htree : files.IsTree) {call : Call} {artifact : Path} {text : String}
    (hfinds : Finds call.cache (call.found files) (.ofText call.source) artifact false)
    (hresult : (call.outcome files).result = .ok text) :
    (call.cache.config.processFile (call.found files) (.ofText call.source)).result = .ok text ∧
      ∃ site, call.StoresAt files site := by
  have htree' : (call.found files).IsTree := htree
  obtain ⟨-, bytes, hpass, -, -, hstores⟩ := stores_of_fetch htree' hfinds hresult
  have hstatus := hstores.artifact
  rw [entry_name hfinds.name] at hstatus
  obtain ⟨site, hlocate, -⟩ := FileTree.status_eq_ok.1 hstatus
  exact ⟨hpass, site, (Call.storesAt_iff hfinds hresult site).2 hlocate⟩

end Clear

/-- After any run of fetches, clearing a directory removes the artifacts that were stored in it, and
besides them the regular files with the suffix of artifacts that were in it before, and gives their
number. Everything else is as it was, the file for version control included. If there is no such
directory, nothing happens. A fetch through a cache on the directory is then a build, unless a
directory stands in the place of the artifact or a fetch has stored it since. -/
theorem clear_after_fetches {start : FileTree} (htree : start.IsTree) (hunique : start.Unique)
    (calls : List Call) (directory : Path) :
    let files := fetchAll calls start
    let cleared := clear files directory
    (files.status? directory = .ok none → cleared = (files, .ok 0)) ∧
    ∀ place, files.locate directory = .ok place → files.nodeAt? place = some .directory →
      (∃ removed : List Site, removed.Nodup ∧ cleared.2 = .ok removed.length ∧
        (∀ site, site ∈ removed ↔ ∃ name, site = place ++ [name] ∧
          (Stored calls start site ∨ (Path.splitName name).2 = ".py" ∧ start.FileAt site)) ∧
        (∀ site ∈ removed, files.FileAt site ∧ cleared.1.nodeAt? site = none) ∧
        (∀ site, site ∉ removed → cleared.1.nodeAt? site = files.nodeAt? site) ∧
        place ++ [".gitignore"] ∉ removed) ∧
      ∀ (later : List Call) (call : Call) (artifact : Path) (fresh : Bool),
        let next := fetchAll later cleared.1
        files.locate call.cache.directory = .ok place →
        Finds call.cache (call.found next) (.ofText call.source) artifact fresh →
        (call.found next).status artifact ≠ .ok .directory →
        (∀ site, Stored later cleared.1 site → (call.found next).locate artifact ≠ .ok site) →
        fresh = false ∧
        call.outcome next =
          call.cache.build (call.found next) (.ofText call.source) artifact ∧
        ∀ text, (call.outcome next).result = .ok text →
          (call.cache.config.processFile (call.found next) (.ofText call.source)).result =
            .ok text ∧ ∃ site, call.StoresAt next site := by
  intro files cleared
  -- The fetches collect artifacts, and leave the regular files with the suffix alone.
  have hcollects : Collects start files (Stored calls start) :=
    collects_fetchAll htree hunique calls
  have hsuffix : ∀ name, isArtifactName name = true ↔ (Path.splitName name).2 = ".py" :=
    fun name => beq_iff_eq
  refine ⟨fun hmissing => ?_, fun place hlocate hdirectory => ?_⟩
  · simp only [cleared, clear, hmissing]
  obtain ⟨removed, hnumber, hclears⟩ :=
    exists_clears hcollects.isTree hcollects.unique hlocate hdirectory
  refine ⟨⟨removed, hclears.nodup, hnumber, fun site => ?_, fun site hsite => ?_, hclears.kept, ?_⟩,
    ?_⟩
  · -- The files with the suffix come from the fetches or from before them, and none has gone.
    rw [hclears.mem_iff]
    constructor
    · rintro ⟨name, rfl, hname, hfile⟩
      obtain hold | hstored := hcollects.origin _ ⟨place, name, rfl, hname⟩ hfile
      · exact ⟨name, rfl, .inr ⟨(hsuffix name).1 hname, hold⟩⟩
      · exact ⟨name, rfl, .inl hstored⟩
    · rintro ⟨name, rfl, hstored | ⟨hname, hold⟩⟩
      · obtain ⟨⟨other, last, hsame, hname⟩, hfile⟩ := hcollects.stored _ hstored
        obtain ⟨-, hlast⟩ := List.append_inj' hsame rfl
        obtain rfl := List.singleton_injective hlast
        exact ⟨name, rfl, hname, hfile⟩
      · have hname' := (hsuffix name).2 hname
        exact ⟨name, rfl, hname', hcollects.kept _ ⟨place, name, rfl, hname'⟩ hold⟩
  · obtain ⟨-, -, -, hfile⟩ := (hclears.mem_iff site).1 hsite
    exact ⟨hfile, hclears.gone site hsite⟩
  -- The file for version control has another suffix.
  · intro hmem
    obtain ⟨name, hsame, hname, -⟩ := (hclears.mem_iff _).1 hmem
    obtain rfl := List.singleton_injective (List.append_cancel_left hsame)
    have hignored : isArtifactName ".gitignore" = false := by decide +kernel
    rw [hignored] at hname
    cases hname
  -- What could be fresh has been removed or stored since.
  · intro later call artifact fresh next hplace hfinds hfree hnew
    obtain rfl := hclears.stale later hplace hfinds hfree hnew
    have htree' := (collects_fetchAll hclears.isTree hclears.unique later).isTree
    exact ⟨rfl, hfinds.fetch_of_stale, fun text => exists_storesAt htree' hfinds⟩

/-- A cache directory is made by a fetch, cleared of the one artifact in it, and used again. -/
theorem clear_after_fetches_once :
    ∃ (start : FileTree) (call : Call) (artifact : Path) (site : Site),
      start.IsTree ∧ start.Unique ∧ Stored [call] start site ∧
      (clear (fetchAll [call] start) call.cache.directory).2 = .ok 1 ∧
      (clear (fetchAll [call] start) call.cache.directory).1.nodeAt? site = none ∧
      call.outcome (clear (fetchAll [call] start) call.cache.directory).1 =
        call.cache.build (call.found (clear (fetchAll [call] start) call.cache.directory).1)
          (.ofText call.source) artifact := by
  obtain ⟨start, hstart⟩ : ∃ start, start = FileTree.mk
      [(["s"], .file (Text.Encoding.encodeUtf8 "a\n") 0)] ⟨"/", []⟩ 1 := ⟨_, rfl⟩
  obtain ⟨call, hcall⟩ : ∃ call, call =
      Call.mk ⟨.ofText "cache", { constants := some .none }⟩ "s" 1 := ⟨_, rfl⟩
  obtain ⟨artifact, hartifact⟩ : ∃ artifact,
      artifact = Path.ofText "cache/s_a9dec18c7111a07b8067b918f36866b0.py" := ⟨_, rfl⟩
  have htree : start.IsTree := by
    rw [hstart]
    exact FileTree.isTree_of_length_le (by decide)
  have hunique : start.Unique := by
    rw [hstart]
    exact List.nodup_singleton _
  have hlocate : (fetchAll [call] start).locate call.cache.directory = .ok ["cache"] ∧
      (fetchAll [call] start).nodeAt? ["cache"] = some .directory := by
    subst hstart hcall
    decide +kernel
  -- The fetch has made the directory, which the theorem is about.
  obtain ⟨-, hclear⟩ := clear_after_fetches htree hunique [call] call.cache.directory
  obtain ⟨⟨removed, -, hnumber, hmem, hgone, -⟩, hbuild⟩ := hclear ["cache"] hlocate.1 hlocate.2
  have hone : (clear (fetchAll [call] start) call.cache.directory).2 = .ok 1 := by
    subst hstart hcall
    decide +kernel
  obtain ⟨site, rfl⟩ := List.length_eq_one_iff.1 (Except.ok.inj (hnumber.symm.trans hone))
  -- The artifact has been removed, so that it is not fresh.
  have hfinds : Finds call.cache
      (call.found (clear (fetchAll [call] start) call.cache.directory).1) (.ofText call.source)
      artifact false := by
    subst hstart hcall hartifact
    exact ⟨by decide +kernel, by decide +kernel, by decide +kernel⟩
  have hfree : (call.found (clear (fetchAll [call] start) call.cache.directory).1).status
      artifact ≠ .ok .directory := by
    subst hstart hcall hartifact
    decide +kernel
  obtain ⟨-, hagain, -⟩ := hbuild [] call artifact false hlocate.1 hfinds hfree (fun _ h => h.elim)
  refine ⟨start, call, artifact, site, htree, hunique, ?_, hone,
    (hgone site List.mem_cons_self).2, hagain⟩
  obtain ⟨name, rfl, hstored | ⟨-, bytes, time, hold⟩⟩ := (hmem site).1 List.mem_cons_self
  · exact hstored
  · -- Nothing was in the cache directory before.
    rw [hstart] at hold
    cases hold

/-- A file in the cache directory that no fetch has stored is removed for the sake of its suffix,
and counted. -/
theorem clear_removes_other :
    ∃ (start : FileTree) (call : Call), start.IsTree ∧ start.Unique ∧
      start.FileAt ["cache", "mine.py"] ∧ (fetchAll [call] start).FileAt ["cache", "mine.py"] ∧
      ¬Stored [call] start ["cache", "mine.py"] ∧
      (clear (fetchAll [call] start) call.cache.directory).1.nodeAt? ["cache", "mine.py"] = none ∧
      (clear (fetchAll [call] start) call.cache.directory).2 = .ok 2 := by
  obtain ⟨start, hstart⟩ : ∃ start, start = FileTree.mk
      [(["s"], .file (Text.Encoding.encodeUtf8 "a\n") 0), (["cache"], .directory),
        (["cache", "mine.py"], .file [] 0)] ⟨"/", []⟩ 1 := ⟨_, rfl⟩
  obtain ⟨call, hcall⟩ : ∃ call, call =
      Call.mk ⟨.ofText "cache", { constants := some .none }⟩ "s" 1 := ⟨_, rfl⟩
  have htree : start.IsTree := by
    rw [hstart]
    exact FileTree.isTree_of_listed (by decide)
  have hunique : start.Unique := by
    rw [hstart]
    unfold FileTree.Unique
    decide
  have hfile : start.FileAt ["cache", "mine.py"] := by
    rw [hstart]
    exact ⟨[], 0, rfl⟩
  have hsite : ArtifactSite ["cache", "mine.py"] := ⟨["cache"], "mine.py", rfl, by decide +kernel⟩
  -- The fetch leaves the file alone, and clearing does not.
  have hkept := (collects_fetchAll htree hunique [call]).kept _ hsite hfile
  refine ⟨start, call, htree, hunique, hfile, hkept, ?_, ?_, ?_⟩
  · rintro (⟨artifact, -, hfinds, -, hlocate⟩ | hnone)
    -- The fetch stores an artifact of another name.
    · have hother : (call.cache.artifact? (call.found start).here (.ofText call.source)).all
          (fun artifact => decide ((call.outcome start).files.locate artifact ≠
            .ok ["cache", "mine.py"])) = true := by
        subst hstart hcall
        decide +kernel
      rw [hfinds.name] at hother
      exact of_decide_eq_true hother hlocate
    · exact hnone
  · subst hstart hcall
    decide +kernel
  · subst hstart hcall
    decide +kernel

end Hashmark.Cache
