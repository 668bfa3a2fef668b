import Hashmark.Proofs.Cache.Fetch
import Mathlib.Data.Set.Defs

/-!
# Caches are transparent

Files change as sources are fetched through caches on one directory, rewritten and deleted, and as
the directory is cleared, in any order. Throughout, an artifact that is not older than its source
holds the output of a pass over it (`Coherent`), so that every fetch gives what a pass over the files
at that moment gives, or fails because the cache cannot be used (`fetch_transparent`). The invariant
needs that a rewritten source is newer than all artifacts, that included files stay as they are, that
only fetches write artifacts, and that no two different sources or configurations share one.
-/

namespace Hashmark.Cache

/-- A source to be fetched through the cache of a configuration. -/
structure Request where
  /-- The configuration. -/
  config : Config
  /-- The text of the path of the source. -/
  source : String

namespace Request

/-- The path of the source. -/
def path (request : Request) : Path :=
  .ofText request.source

/-- The cache of the configuration. -/
def cache (request : Request) (directory : Path) : Cache :=
  ⟨directory, request.config⟩

/-- The path of the artifact. -/
def artifact? (request : Request) (directory here : Path) : Option Path :=
  (request.cache directory).artifact? here request.path

/-- What a pass over the source gives. -/
def processed (request : Request) (files : FileTree) : Except Failure String :=
  (request.config.processFile files request.path).result

/-- The files that a pass over the source reads for an include. -/
def includes (request : Request) (files : FileTree) : List Path :=
  (Pass.processFile ⟨request.config, files⟩ (.start request.config.mode) request.path).1.reads

/-- The artifact is a file that was made at this time. -/
def Made (request : Request) (directory : Path) (files : FileTree) (time : Nat) : Prop :=
  ∃ artifact bytes, request.artifact? directory files.here = some artifact ∧
    files.status artifact = .ok (.file bytes time)

end Request

/-- What happens to files. -/
inductive Action where
  /-- A source is fetched. -/
  | fetch (request : Request)
  /-- The cache directory is cleared. -/
  | clear
  /-- A source is written, with this time as that of its last change. -/
  | rewrite (source : String) (bytes : List UInt8) (time : Nat)
  /-- A source is deleted. -/
  | delete (source : String)
  /-- The clock shows another time. -/
  | wait (time : Nat)

/-- The files after an action; a source that cannot be written is left as it is. -/
def perform (directory : Path) (files : FileTree) : Action → FileTree
  | .fetch request => ((request.cache directory).fetch files request.path).files
  | .clear => (clear files directory).1
  | .rewrite source bytes time =>
    match ({ files with now := time } : FileTree).write (.ofText source) bytes with
    | .ok written => { written with now := files.now }
    | .error _ => files
  | .delete source =>
    match files.isFile (.ofText source) with
    | .ok true => files.remove (.ofText source)
    | _ => files
  | .wait time => { files with now := time }

/-- A source that a step has changed is newer than all artifacts that were there. -/
def Later (directory : Path) (requests : Set Request) (files after : FileTree) : Prop :=
  ∀ request ∈ requests, ∀ bytes time, after.status request.path = .ok (.file bytes time) →
    files.status request.path = .ok (.file bytes time) ∨
      ∀ other ∈ requests, ∀ made, other.Made directory files made → made < time

/-- What passes that do well include reads as before. -/
def IncludesKept (requests : Set Request) (files after : FileTree) : Prop :=
  ∀ request ∈ requests, ∀ text, request.processed files = .ok text →
    ∀ target ∈ request.includes files,
      files.readText target request.config = after.readText target request.config

/-- No artifact is new. -/
def ArtifactsKept (directory : Path) (requests : Set Request) (files after : FileTree) : Prop :=
  ∀ request ∈ requests, ∀ artifact, request.artifact? directory files.here = some artifact →
    ∀ bytes made, after.status artifact = .ok (.file bytes made) →
      files.status artifact = .ok (.file bytes made)

/-- Two paths lead to the same place. -/
def SamePlace (files : FileTree) (one other : Path) : Prop :=
  ∃ site, files.locate one = .ok site ∧ files.locate other = .ok site

/-- The actions that may happen to files. Included files stay as they are. A source is written at a
time after that of every artifact, and not in the place of one. If the artifact of a fetch is itself
the source of a request, then fetching it writes a source, and the same holds of its time. -/
inductive Allowed (directory : Path) (requests : Set Request) (files : FileTree) : Action → Prop
  /-- A request may be fetched. -/
  | fetch {request : Request} : request ∈ requests →
    IncludesKept requests files (perform directory files (.fetch request)) →
    (∀ artifact, request.artifact? directory files.here = some artifact →
      ∀ other ∈ requests,
        SamePlace (perform directory files (.fetch request)) other.path artifact →
      ∀ another ∈ requests, ∀ made, another.Made directory files made → made < files.now) →
    Allowed directory requests files (.fetch request)
  /-- The cache directory may be cleared. -/
  | clear : IncludesKept requests files (perform directory files .clear) →
    Allowed directory requests files .clear
  /-- A source may be written. -/
  | rewrite {source : String} {bytes : List UInt8} {time : Nat} :
    IncludesKept requests files (perform directory files (.rewrite source bytes time)) →
    (∀ other ∈ requests, ∀ made, other.Made directory files made → made < time) →
    (∀ other ∈ requests, ∀ artifact, other.artifact? directory files.here = some artifact →
      ¬SamePlace files (.ofText source) artifact) →
    Allowed directory requests files (.rewrite source bytes time)
  /-- A source may be deleted. -/
  | delete {source : String} :
    IncludesKept requests files (perform directory files (.delete source)) →
    Allowed directory requests files (.delete source)
  /-- Time may pass. -/
  | wait (time : Nat) : Allowed directory requests files (.wait time)

/-- Requests that share an artifact have the configuration and the source in common. -/
def Distinct (directory : Path) (requests : Set Request) (here : Path) : Prop :=
  ∀ one ∈ requests, ∀ other ∈ requests, ∀ artifact,
    one.artifact? directory here = some artifact → other.artifact? directory here = some artifact →
    one.config = other.config ∧ one.path.absolute here = other.path.absolute here

/-- The files to which actions lead, one after another. -/
inductive Reached (directory : Path) (requests : Set Request) (start : FileTree) : FileTree → Prop
  /-- The files at the start. -/
  | start : Reached directory requests start start
  /-- The files after one more action. -/
  | step {files : FileTree} {action : Action} : Reached directory requests start files →
    Allowed directory requests files action →
    Reached directory requests start (perform directory files action)

section Step

variable {directory : Path} {requests : Set Request} {files after : FileTree}

/-- A pass over a source gives the same while the source and what it includes read the same. -/
theorem processed_eq {request : Request} (hhere : after.here = files.here)
    (hsource : after.status request.path = files.status request.path)
    (hincludes : ∀ target ∈ request.includes files,
      files.readText target request.config =
        after.readText target request.config) :
    request.processed after = request.processed files := by
  have hread : Pass.readSource ⟨request.config, files⟩ request.path =
      Pass.readSource ⟨request.config, after⟩ request.path := by
    simp only [Pass.readSource, FileTree.isFile, FileTree.status?, FileTree.readText, FileTree.read,
      hsource]
  unfold Request.includes at hincludes
  have hagree := @Pass.processFile_agree ⟨request.config, files⟩ ⟨request.config, after⟩
    ⟨rfl, .of_eq rfl rfl rfl, hhere.symm⟩ rfl (fun _ => rfl) request.path hread hincludes
  obtain ⟨hresult, -⟩ := hagree.result_eq
  simp only [Request.processed, Config.processFile, hresult]

/-- An artifact that was there before a step holds the output of a pass after it, unless the source
has become newer. -/
theorem output_kept (hhere : after.here = files.here)
    (hlater : Later directory requests files after) (hincludes : IncludesKept requests files after)
    {request : Request} (hrequest : request ∈ requests)
    (h : Faithful (request.cache directory) files request.path) {artifact : Path}
    (hartifact : request.artifact? directory files.here = some artifact)
    {bytes content : List UInt8} {made changed : Nat}
    (hmade : files.status artifact = .ok (.file bytes made))
    (hchanged : after.status request.path = .ok (.file content changed)) (hle : changed ≤ made) :
    ∃ text codec, request.processed after = .ok text ∧
      request.config.codec? = some codec ∧ codec.encode text = some bytes := by
  obtain hsame | hnewer := hlater request hrequest content changed hchanged
  · obtain ⟨text, codec, hresult, hcodec, hbytes⟩ :=
      h artifact hartifact bytes made content changed hmade hsame hle
    refine ⟨text, codec, ?_, hcodec, hbytes⟩
    rw [← hresult]
    exact processed_eq hhere (hchanged.trans hsame.symm) (hincludes request hrequest text hresult)
  · have hless := hnewer request hrequest made ⟨artifact, bytes, hartifact, hmade⟩
    omega

/-- Artifacts stay faithful if none is new, included files stay as they are, and changed sources are
newer than artifacts. -/
theorem faithful_step (hhere : after.here = files.here)
    (hartifacts : ArtifactsKept directory requests files after)
    (hlater : Later directory requests files after) (hincludes : IncludesKept requests files after)
    {request : Request} (hrequest : request ∈ requests)
    (h : Faithful (request.cache directory) files request.path) :
    Faithful (request.cache directory) after request.path := by
  intro artifact hartifact bytes made content changed hmade hchanged hle
  rw [hhere] at hartifact
  exact output_kept hhere hlater hincludes hrequest h hartifact
    (hartifacts request hrequest artifact hartifact bytes made hmade) hchanged hle

/-- Requests with the same configuration, in an encoding that the host knows, and the same source
from the root give the same, however the path of the source is written. -/
theorem processed_congr {one other : Request} (hconfig : one.config = other.config)
    {codec : Text.Codec} (hcodec : other.config.codec? = some codec)
    (habsolute : one.path.absolute files.here = other.path.absolute files.here)
    {bytes : List UInt8} {time : Nat} (h : files.status one.path = .ok (.file bytes time))
    (h' : files.status other.path = .ok (.file bytes time)) :
    one.processed files = other.processed files := by
  have hresolve : one.path.resolve files.here = other.path.resolve files.here := by
    rw [Path.resolve, Path.resolve, habsolute]
  have hread : Pass.readSource ⟨other.config, files⟩ one.path =
      Pass.readSource ⟨other.config, files⟩ other.path := by
    simp only [Pass.readSource, FileTree.isFile, FileTree.status?, FileTree.readText, FileTree.read,
      h, h', Config.null_notMem_encoding hcodec]
    rfl
  simp only [Request.processed, Config.processFile, Pass.processFile, hconfig, hread, hresolve]

/-- Where nothing is added, no artifact is new. -/
theorem artifactsKept_of_within (h : after.Within files) :
    ArtifactsKept directory requests files after :=
  fun _ _ _ _ _ _ hmade => h.status hmade

/-- Where nothing is added, no source is changed. -/
theorem later_of_within (h : after.Within files) : Later directory requests files after :=
  fun _ _ _ _ hchanged => .inl (h.status hchanged)

/-- The clock does not change what is read from files. -/
theorem readText_clock (files : FileTree) (time : Nat) (target : Path) (config : Config) :
    ({ files with now := time } : FileTree).readText target config =
      files.readText target config := by
  have hfollow : ∀ (names : List String) (start : Site),
      ({ files with now := time } : FileTree).follow start names = files.follow start names := by
    intro names
    induction names with
    | nil => exact fun _ => rfl
    | cons name names ih =>
      intro start
      rw [FileTree.follow, FileTree.follow, ih, ih]
      rfl
  have hlocate : ({ files with now := time } : FileTree).locate target = files.locate target := by
    simp only [FileTree.locate, hfollow]
  have hstatus : ({ files with now := time } : FileTree).status target = files.status target := by
    simp only [FileTree.status, hlocate]
    rfl
  simp only [FileTree.readText, FileTree.read, hstatus]

/-- Clearing places one after another adds nothing and keeps a tree a tree. -/
theorem foldl_prune (site : Site) (names : List String) (files : FileTree) :
    (names.foldl (fun files name => files.prune (site ++ [name])) files).Within files ∧
      (files.IsTree →
        (names.foldl (fun files name => files.prune (site ++ [name])) files).IsTree) := by
  induction names generalizing files with
  | nil => exact ⟨.refl files, id⟩
  | cons name names ih =>
    obtain ⟨hwithin, htree⟩ := ih (files.prune (site ++ [name]))
    exact ⟨hwithin.trans (FileTree.prune_within files _), fun h => htree (h.prune _)⟩

/-- Clearing a cache directory adds nothing and keeps a tree a tree. -/
theorem clear_within (files : FileTree) (directory : Path) :
    (clear files directory).1.Within files ∧ (files.IsTree → (clear files directory).1.IsTree) := by
  unfold clear
  split
  · exact ⟨.refl files, id⟩
  · exact ⟨.refl files, id⟩
  · exact ⟨.refl files, id⟩
  · split
    · exact ⟨.refl files, id⟩
    · exact foldl_prune _ _ files

/-- Deleting a source adds nothing and keeps a tree a tree. -/
theorem delete_within (directory : Path) (files : FileTree) (source : String) :
    (perform directory files (.delete source)).Within files ∧
      (files.IsTree → (perform directory files (.delete source)).IsTree) := by
  unfold perform
  simp only
  split
  · unfold FileTree.remove
    split
    · exact ⟨FileTree.prune_within files _, fun h => h.prune _⟩
    · exact ⟨.refl files, id⟩
  · exact ⟨.refl files, id⟩

/-- A source that is written is a file with the given time, and nothing else changes. -/
theorem perform_rewrite (directory : Path) (files : FileTree) (source : String)
    (bytes : List UInt8) (time : Nat) :
    perform directory files (.rewrite source bytes time) = files ∨
      ∃ site, files.locate (.ofText source) = .ok site ∧
        (perform directory files (.rewrite source bytes time)).here = files.here ∧
        (files.IsTree → (perform directory files (.rewrite source bytes time)).IsTree) ∧
        ∀ other, (perform directory files (.rewrite source bytes time)).nodeAt? other =
          if other = site then some (.file bytes time) else files.nodeAt? other := by
  unfold perform
  simp only
  split
  case h_1 written hwritten =>
    have hclock : ({ files with now := time } : FileTree).Within files := ⟨rfl, fun _ _ h => h⟩
    obtain ⟨site, hlocate, hsite, hnode, hparent, hput⟩ := FileTree.write_eq_ok hwritten
    refine .inr ⟨site, hclock.locate hlocate, ?_, ?_, ?_⟩
    · have hhere := (FileTree.put_here_now { files with now := time } site (.file bytes time)).1
      rw [hput]
      exact hhere
    · intro htree
      have hput' := @FileTree.IsTree.put { files with now := time } htree site hsite hparent hnode
        (.file bytes time)
      rw [hput]
      exact hput'
    · intro other
      have hnodes := FileTree.nodeAt?_put { files with now := time } hsite (.file bytes time) other
      rw [hput]
      exact hnodes
  · exact .inl rfl

/-- What a path leads to after a source is written is the source, or was there. -/
theorem status_rewritten {site : Site} {bytes : List UInt8} {time : Nat}
    (hhere : after.here = files.here)
    (hnodes : ∀ other, after.nodeAt? other =
      if other = site then some (.file bytes time) else files.nodeAt? other)
    {path : Path} {node : Node} (h : after.status path = .ok node) :
    files.locate path = .ok site ∧ node = .file bytes time ∨ files.status path = .ok node := by
  obtain ⟨other, hlocate, hfound⟩ := FileTree.status_eq_ok.1 h
  have hdirectories : ∀ other, after.nodeAt? other = some .directory →
      files.nodeAt? other = some .directory := by
    intro other hother
    rw [hnodes] at hother
    split at hother
    · cases hother
    · exact hother
  have hlocate' := FileTree.locate_mono hhere.symm hdirectories hlocate
  rw [hnodes] at hfound
  split at hfound
  case isTrue hsame =>
    refine .inl ⟨hsame ▸ hlocate', ?_⟩
    exact (Option.some.inj hfound).symm
  case isFalse => exact .inr (FileTree.status_eq_ok.2 ⟨other, hlocate', hfound⟩)

end Step

/-- What holds of the files throughout. -/
structure Coherent (directory : Path) (requests : Set Request) (start files : FileTree) : Prop where
  /-- The working directory stays. -/
  here : files.here = start.here
  /-- Everything stands in a directory. -/
  isTree : files.IsTree
  /-- No artifact is a directory. -/
  noDirectory : ∀ request ∈ requests, ∀ artifact,
    request.artifact? directory files.here = some artifact → files.status artifact ≠ .ok .directory
  /-- Artifacts that are not older than their sources hold the output of passes over them. -/
  faithful : ∀ request ∈ requests, Faithful (request.cache directory) files request.path

section Coherent

variable {directory : Path} {requests : Set Request} {start files : FileTree}

/-- A step after which no artifact is new keeps files coherent. -/
theorem Coherent.step (h : Coherent directory requests start files) {after : FileTree}
    (hhere : after.here = files.here) (htree : after.IsTree)
    (hdirectories : ∀ path, after.status path = .ok .directory → files.status path = .ok .directory)
    (hartifacts : ArtifactsKept directory requests files after)
    (hlater : Later directory requests files after)
    (hincludes : IncludesKept requests files after) :
    Coherent directory requests start after where
  here := hhere.trans h.here
  isTree := htree
  noDirectory := fun request hrequest artifact hartifact hstatus =>
    h.noDirectory request hrequest artifact (hhere ▸ hartifact) (hdirectories artifact hstatus)
  faithful := fun request hrequest =>
    faithful_step hhere hartifacts hlater hincludes hrequest (h.faithful request hrequest)

/-- Writing a source keeps files coherent. -/
theorem Coherent.rewrite (h : Coherent directory requests start files) {source : String}
    {bytes : List UInt8} {time : Nat}
    (hincludes : IncludesKept requests files
      (perform directory files (.rewrite source bytes time)))
    (hlater : ∀ other ∈ requests, ∀ made, other.Made directory files made → made < time)
    (hplace : ∀ other ∈ requests, ∀ artifact,
      other.artifact? directory files.here = some artifact →
      ¬SamePlace files (.ofText source) artifact) :
    Coherent directory requests start (perform directory files (.rewrite source bytes time)) := by
  obtain hsame | ⟨site, hlocate, hhere, htree, hnodes⟩ :=
    perform_rewrite directory files source bytes time
  · rw [hsame]
    exact h
  · refine h.step hhere (htree h.isTree) ?_ ?_ ?_ hincludes
    · intro path hstatus
      obtain ⟨-, hnew⟩ | hkept := status_rewritten hhere hnodes hstatus
      · cases hnew
      · exact hkept
    -- No artifact stands in the place of the source, so that all of them are kept.
    · intro other hother artifact hartifact content made hmade
      obtain ⟨hfound, -⟩ | hkept := status_rewritten hhere hnodes hmade
      · exact absurd ⟨site, hlocate, hfound⟩ (hplace other hother artifact hartifact)
      · exact hkept
    -- What has changed is younger than all artifacts.
    · intro request hrequest content changed hchanged
      obtain ⟨-, hnew⟩ | hkept := status_rewritten hhere hnodes hchanged
      · obtain ⟨-, rfl⟩ := Node.file.inj hnew
        exact .inr hlater
      · exact .inl hkept

/-- In a cache directory that has been made there is no artifact yet. -/
theorem status_ne_of_prepares {prepared : FileTree} (h : Prepares files prepared directory)
    {request : Request} {here artifact : Path}
    (hartifact : request.artifact? directory here = some artifact) (node : Node) :
    prepared.status artifact ≠ .ok node := by
  obtain ⟨base, rfl⟩ := artifact?_eq_entry hartifact
  exact h.empty _ _ (append_suffix_ne _ (by decide)) (append_suffix_ne _ (by decide))

section Stored

variable {request : Request} {base text : String} {codec : Text.Codec}
  {bytes content : List UInt8} {prepared after : FileTree} {changed : Nat}

/-- A source stands in another place than an artifact that is stored for it, because the artifact
would be fresh otherwise. -/
theorem source_ne_artifact
    (hartifact : request.artifact? directory files.here =
      some (directory.entry (base ++ artifactSuffix)))
    (hfresh : isFresh files request.path (directory.entry (base ++ artifactSuffix)) = .ok false)
    (hsource : files.status request.path = .ok (.file content changed))
    (hprepared : prepared = files ∨ Prepares files prepared directory) {site : Site}
    (hsite : prepared.locate (directory.entry (base ++ artifactSuffix)) = .ok site) :
    prepared.nodeAt? site ≠ some (.file content changed) := by
  intro hnode
  have hstatus := FileTree.status_eq_ok.2 ⟨site, hsite, hnode⟩
  obtain rfl | hprepares := hprepared
  · have hless := (isFresh_eq_false hfresh hsource).2 content changed hstatus
    omega
  · exact status_ne_of_prepares hprepares hartifact _ hstatus

/-- The source of an artifact that has been stored reads as before, however its path is written. -/
theorem source_stored
    (hartifact : request.artifact? directory files.here =
      some (directory.entry (base ++ artifactSuffix)))
    (hfresh : isFresh files request.path (directory.entry (base ++ artifactSuffix)) = .ok false)
    (hsource : files.status request.path = .ok (.file content changed))
    (hprepared : prepared = files ∨ Prepares files prepared directory)
    (hstores : Stores prepared after directory (base ++ artifactSuffix) bytes) {site : Site}
    (hsite : prepared.locate (directory.entry (base ++ artifactSuffix)) = .ok site)
    {other : Request} (habsolute : other.path.absolute files.here = request.path.absolute files.here)
    {content' : List UInt8} {changed' : Nat}
    (hchanged : after.status other.path = .ok (.file content' changed')) :
    after.status other.path = .ok (.file content changed) ∧
      after.status request.path = .ok (.file content changed) := by
  have hwithin : files.Within prepared := by
    obtain rfl | hprepares := hprepared
    · exact .refl _
    · exact hprepares.toWithin
  obtain ⟨place, hplace, -, -, hnodes⟩ := hstores.nodes
  obtain rfl := site_of_entry (append_suffix_ne _ (by decide)) hplace hsite
  obtain ⟨found, hfound, hnode⟩ := FileTree.status_eq_ok.1 (hwithin.status hsource)
  obtain ⟨found', hfound', hnode'⟩ := FileTree.status_eq_ok.1 hchanged
  -- One absolute path leads to one place.
  have hsame : found' = found := by
    have hfollow := (FileTree.locate_eq_ok.1 hfound).2.2
    have hfollow' := (FileTree.locate_eq_ok.1 (hstores.locate_iff.1 hfound')).2.2
    rw [hwithin.here] at hfollow hfollow'
    rw [habsolute, hfollow] at hfollow'
    exact (Except.ok.inj hfollow').symm
  subst hsame
  -- The artifact is not stored in the place of its own source.
  have hne : found' ≠ place ++ [base ++ artifactSuffix] := by
    rintro rfl
    exact source_ne_artifact hartifact hfresh hsource hprepared hsite hnode
  -- A file is left there, so that it is not the place of the temporary one.
  have hkept : after.nodeAt? found' = some (.file content changed) := by
    rw [hnodes, if_neg hne] at hnode' ⊢
    split at hnode'
    · cases hnode'
    case isFalse htemporary =>
      rw [if_neg htemporary]
      exact hnode
  exact ⟨FileTree.status_eq_ok.2 ⟨found', hfound', hkept⟩,
    FileTree.status_eq_ok.2 ⟨found', hstores.locate_iff.2 hfound, hkept⟩⟩

/-- A source that storing an artifact has changed is the artifact itself. -/
theorem later_stored
    (hnested : ∀ other ∈ requests,
      SamePlace after other.path (directory.entry (base ++ artifactSuffix)) →
      ∀ another ∈ requests, ∀ made, another.Made directory files made → made < files.now)
    (hprepared : prepared = files ∨ Prepares files prepared directory)
    (hstores : Stores prepared after directory (base ++ artifactSuffix) bytes) :
    Later directory requests files after := by
  intro other hother content time hchanged
  obtain ⟨site, hsite, hnode⟩ := FileTree.status_eq_ok.1 hchanged
  obtain ⟨place, hplace, -, -, hnodes⟩ := hstores.nodes
  obtain ⟨site', hsite', -⟩ := FileTree.status_eq_ok.1 hstores.artifact
  obtain rfl := site_of_entry (append_suffix_ne _ (by decide)) hplace (hstores.locate_iff.1 hsite')
  rw [hnodes] at hnode
  split at hnode
  case isTrue hsame =>
    have hnow : prepared.now = files.now := by
      obtain rfl | hprepares := hprepared
      · rfl
      · exact hprepares.now
    obtain ⟨-, rfl⟩ := Node.file.inj (Option.some.inj hnode)
    rw [hnow]
    exact .inr (hnested other hother ⟨_, hsite, hsame ▸ hsite'⟩)
  case isFalse =>
    split at hnode
    · cases hnode
    · obtain rfl | hprepares := hprepared
      · exact .inl (FileTree.status_eq_ok.2 ⟨site, hstores.locate_iff.1 hsite, hnode⟩)
      · refine .inr fun another _ made hmade => ?_
        obtain ⟨artifact, old, hartifact, hstatus⟩ := hmade
        exact absurd (hprepares.toWithin.status hstatus)
          (status_ne_of_prepares hprepares hartifact _)

/-- Storing an artifact keeps files coherent. -/
theorem Coherent.store (h : Coherent directory requests start files) (hrequest : request ∈ requests)
    (hdistinct : Distinct directory requests files.here)
    (hartifact : request.artifact? directory files.here =
      some (directory.entry (base ++ artifactSuffix)))
    (hfresh : isFresh files request.path (directory.entry (base ++ artifactSuffix)) = .ok false)
    (hsource : files.status request.path = .ok (.file content changed))
    (hresult : request.processed files = .ok text)
    (hcodec : request.config.codec? = some codec) (hbytes : codec.encode text = some bytes)
    (hprepared : prepared = files ∨ Prepares files prepared directory)
    (hstores : Stores prepared after directory (base ++ artifactSuffix) bytes)
    (hlater : Later directory requests files after)
    (hincludes : IncludesKept requests files after) :
    Coherent directory requests start after := by
  have hhere : after.here = files.here := by
    rw [hstores.here]
    obtain rfl | hprepares := hprepared
    · rfl
    · exact hprepares.here
  refine ⟨hhere.trans h.here, hstores.isTree, ?_, ?_⟩
  -- No artifact is a directory: storing makes none, and a cache directory that is made is empty.
  · intro other hother artifact hartifact' hstatus
    obtain ⟨site, hsite, hnode⟩ := FileTree.status_eq_ok.1 hstatus
    have hstatus' := FileTree.status_eq_ok.2
      ⟨site, hstores.locate_iff.1 hsite, (hstores.directory_iff site).1 hnode⟩
    rw [hhere] at hartifact'
    obtain rfl | hprepares := hprepared
    · exact h.noDirectory other hother artifact hartifact' hstatus'
    · exact status_ne_of_prepares hprepares hartifact' _ hstatus'
  -- An artifact that is found may be the one that was stored.
  intro other hother artifact hartifact' content' made source changed' hmade hchanged hle
  rw [hhere] at hartifact'
  obtain ⟨base', rfl⟩ := artifact?_eq_entry hartifact'
  obtain ⟨place, hplace, -, -, hnodes⟩ := hstores.nodes
  obtain ⟨site, hsite, hnode⟩ := FileTree.status_eq_ok.1 hmade
  have hlocate := hstores.locate_iff.1 hsite
  obtain rfl := site_of_entry (append_suffix_ne _ (by decide)) hplace hlocate
  rw [hnodes] at hnode
  by_cases hsame : base' ++ artifactSuffix = base ++ artifactSuffix
  · rw [hsame] at hartifact' hnode hlocate
    rw [if_pos rfl] at hnode
    -- It may have been stored for another request, which is then one for the same source with the
    -- same options.
    obtain ⟨rfl, -⟩ := Node.file.inj (Option.some.inj hnode)
    obtain ⟨hconfig, habsolute⟩ := hdistinct other hother request hrequest _ hartifact' hartifact
    obtain ⟨hsource', hsource''⟩ :=
      source_stored hartifact hfresh hsource hprepared hstores hlocate habsolute hchanged
    have hcodec' : other.config.codec? = some codec := by
      rw [hconfig]
      exact hcodec
    refine ⟨text, codec, ?_, hcodec', hbytes⟩
    rw [← hresult]
    have hkept := processed_eq hhere (hsource''.trans hsource.symm)
      (hincludes request hrequest text hresult)
    rw [← hhere] at habsolute
    exact (processed_congr hconfig hcodec habsolute hsource' hsource'').trans hkept
  -- Another artifact was there before, and is as faithful as it was; a new directory has none.
  · have hne : place ++ [base' ++ artifactSuffix] ≠ place ++ [base ++ artifactSuffix] :=
      fun heq => hsame (List.singleton_injective (List.append_cancel_left heq))
    rw [if_neg hne] at hnode
    split at hnode
    · cases hnode
    · have hmade' := FileTree.status_eq_ok.2 ⟨_, hlocate, hnode⟩
      obtain rfl | hprepares := hprepared
      · exact output_kept hhere hlater hincludes hother (h.faithful other hother) hartifact'
          hmade' hchanged hle
      · exact absurd hmade' (status_ne_of_prepares hprepares hartifact' _)

end Stored

/-- Fetching a source keeps files coherent. -/
theorem Coherent.fetch (h : Coherent directory requests start files) {request : Request}
    (hrequest : request ∈ requests) (hfaithful : request.config.Faithful)
    (hdistinct : Distinct directory requests files.here)
    (hincludes : IncludesKept requests files (perform directory files (.fetch request)))
    (hnested : ∀ artifact, request.artifact? directory files.here = some artifact →
      ∀ other ∈ requests,
        SamePlace (perform directory files (.fetch request)) other.path artifact →
      ∀ another ∈ requests, ∀ made, another.Made directory files made → made < files.now) :
    Coherent directory requests start (perform directory files (.fetch request)) := by
  have hfiles := @fetch_files (request.cache directory) files request.source h.isTree hfaithful
  have hperform : perform directory files (.fetch request) =
      ((request.cache directory).fetch files (.ofText request.source)).files := rfl
  rw [hperform] at hincludes hnested ⊢
  generalize ((request.cache directory).fetch files (.ofText request.source)).files = after
    at hfiles hincludes hnested ⊢
  -- The fetch changes nothing, prepares the directory only, or stores what it has built.
  obtain rfl | hprepares | ⟨base, text, codec, bytes, prepared, content, changed, hartifact,
    hfresh, hsource, hresult, hcodec, hbytes, hprepared, hstores⟩ := hfiles
  · exact h
  · refine ⟨hprepares.here.trans h.here, hprepares.isTree, ?_, ?_⟩
    · exact fun other _ artifact hartifact => status_ne_of_prepares hprepares hartifact _
    · exact fun other _ artifact hartifact _ _ _ _ hmade =>
        absurd hmade (status_ne_of_prepares hprepares hartifact _)
  · exact h.store hrequest hdistinct hartifact hfresh hsource hresult hcodec hbytes hprepared
      hstores (later_stored (hnested _ hartifact) hprepared hstores) hincludes

/-- Every action that may happen keeps files coherent. -/
theorem Coherent.next (h : Coherent directory requests start files)
    (hfaithful : ∀ request ∈ requests, request.config.Faithful)
    (hdistinct : Distinct directory requests start.here) {action : Action}
    (hallowed : Allowed directory requests files action) :
    Coherent directory requests start (perform directory files action) := by
  rw [← h.here] at hdistinct
  cases hallowed with
  | fetch hrequest hincludes hnested =>
    exact h.fetch hrequest (hfaithful _ hrequest) hdistinct hincludes hnested
  | clear hincludes =>
    obtain ⟨hwithin, htree⟩ := clear_within files directory
    exact h.step hwithin.here.symm (htree h.isTree) (fun _ => hwithin.status)
      (artifactsKept_of_within hwithin) (later_of_within hwithin) hincludes
  | rewrite hincludes hlater hplace => exact h.rewrite hincludes hlater hplace
  | @delete source hincludes =>
    obtain ⟨hwithin, htree⟩ := delete_within directory files source
    exact h.step hwithin.here.symm (htree h.isTree) (fun _ => hwithin.status)
      (artifactsKept_of_within hwithin) (later_of_within hwithin) hincludes
  | wait time =>
    have hwithin : FileTree.Within (perform directory files (.wait time)) files :=
      ⟨rfl, fun _ _ h => h⟩
    refine h.step rfl h.isTree (fun _ => hwithin.status) (artifactsKept_of_within hwithin)
      (later_of_within hwithin) ?_
    intro other _ _ _ target _
    exact (readText_clock files time target other.config).symm

/-- Files are coherent at the start, when there are no artifacts, and stay so. -/
theorem Reached.coherent (htree : start.IsTree)
    (hfaithful : ∀ request ∈ requests, request.config.Faithful)
    (hnone : ∀ request ∈ requests, ∀ artifact,
      request.artifact? directory start.here = some artifact →
      ∀ node, start.status artifact ≠ .ok node)
    (hdistinct : Distinct directory requests start.here)
    (h : Reached directory requests start files) : Coherent directory requests start files := by
  induction h with
  | start =>
    refine ⟨rfl, htree, ?_, ?_⟩
    · exact fun request hrequest artifact hartifact => hnone request hrequest artifact hartifact _
    · exact fun request hrequest artifact hartifact _ _ _ _ hmade =>
        absurd hmade (hnone request hrequest artifact hartifact _)
  | step _ hallowed ih => exact ih.next hfaithful hdistinct hallowed

end Coherent

/-- There is no artifact while the cache directory leads to no directory. -/
theorem status_ne_of_missing {directory : Path} {files : FileTree} (place : Site)
    (hplace : files.follow [] (directory.absolute files.here).names = .ok place)
    (hnode : files.nodeAt? place ≠ some .directory) {request : Request} {here artifact : Path}
    (hartifact : request.artifact? directory here = some artifact) (node : Node) :
    files.status artifact ≠ .ok node := by
  intro hstatus
  obtain ⟨base, rfl⟩ := artifact?_eq_entry hartifact
  obtain ⟨site, hlocate, -⟩ := FileTree.status_eq_ok.1 hstatus
  obtain ⟨-, -, hfollow⟩ := FileTree.locate_eq_ok.1 hlocate
  rw [Path.absolute_entry] at hfollow
  obtain ⟨place', hplace', hdirectory, -, -⟩ :=
    (FileTree.follow_snoc (append_suffix_ne _ (by decide))).1 hfollow
  obtain rfl := Except.ok.inj (hplace.symm.trans hplace')
  exact hnode hdirectory

/-- No artifact is in the place of something that is not in the cache directory. -/
theorem not_samePlace {directory path : Path} {files : FileTree} (place site : Site)
    (hplace : files.follow [] (directory.absolute files.here).names = .ok place)
    (hpath : files.locate path = .ok site) (hsite : site.dropLast ≠ place)
    {request : Request} {here artifact : Path}
    (hartifact : request.artifact? directory here = some artifact) :
    ¬SamePlace files path artifact := by
  rintro ⟨site', hlocate, hlocate'⟩
  obtain rfl := Except.ok.inj (hpath.symm.trans hlocate)
  obtain ⟨base, rfl⟩ := artifact?_eq_entry hartifact
  obtain rfl := site_of_entry (append_suffix_ne _ (by decide)) hplace hlocate'
  exact hsite (List.dropLast_concat)

/-- Whatever happens to files in which there are no artifacts at first, a fetch gives what a pass
over the files at that moment gives, or fails because the cache cannot be used, if the encodings of
all configurations can write what they read, as those do that every host knows. -/
theorem fetch_transparent {directory : Path} {requests : Set Request} {start files : FileTree}
    (htree : start.IsTree) (hfaithful : ∀ request ∈ requests, request.config.Faithful)
    (hnone : ∀ request ∈ requests, ∀ artifact,
      request.artifact? directory start.here = some artifact →
      ∀ node, start.status artifact ≠ .ok node)
    (hdistinct : Distinct directory requests start.here)
    (hreached : Reached directory requests start files) {request : Request}
    (hrequest : request ∈ requests) :
    ((request.cache directory).fetch files request.path).result = request.processed files ∨
      ∃ e, ((request.cache directory).fetch files request.path).result = .error e ∧
        Unusable (request.cache directory) files request.path e := by
  have hcoherent := hreached.coherent htree hfaithful hnone hdistinct
  exact fetch_of_faithful hcoherent.isTree (hfaithful request hrequest)
    (hcoherent.noDirectory request hrequest)
    (hcoherent.faithful request hrequest)

/-- A source that includes a file is fetched, rewritten, and fetched again. -/
theorem fetch_transparent_rewritten :
    ∃ (directory : Path) (start : FileTree) (request : Request) (files : FileTree),
      Reached directory {request} start files ∧ request.processed start = .ok "i\n\na" ∧
      request.processed files = .ok "b" ∧
      (((request.cache directory).fetch files request.path).result = request.processed files ∨
        ∃ e, ((request.cache directory).fetch files request.path).result = .error e ∧
          Unusable (request.cache directory) files request.path e) := by
  obtain ⟨directory, hdirectory⟩ : ∃ directory, directory = Path.ofText "cache" := ⟨_, rfl⟩
  obtain ⟨request, hrequest⟩ : ∃ request, request = Request.mk { constants := some .none } "s" :=
    ⟨_, rfl⟩
  obtain ⟨start, hstart⟩ : ∃ start, start = FileTree.mk
      [(["i"], .file (Text.Encoding.encodeUtf8 "i\n") 0),
        (["s"], .file (Text.Encoding.encodeUtf8 "#include \"i\"\na") 0)] ⟨"/", []⟩ 1 := ⟨_, rfl⟩
  obtain ⟨fetched, hfetched⟩ : ∃ fetched, fetched = perform directory start (.fetch request) :=
    ⟨_, rfl⟩
  -- Nothing is below the cache directory at the start.
  have hnone : ∀ other ∈ ({request} : Set Request), ∀ artifact,
      other.artifact? directory start.here = some artifact →
      ∀ node, start.status artifact ≠ .ok node := by
    subst hdirectory hstart
    exact fun other _ artifact hartifact node =>
      status_ne_of_missing ["cache"] (by decide) (by decide) hartifact node
  -- The first fetch builds the artifact, which is neither the included file nor the source.
  have hfetch : Allowed directory {request} start (.fetch request) := by
    refine .fetch rfl ?_ ?_
    · rintro _ rfl text -
      subst hdirectory hrequest hstart
      decide +kernel
    · rintro artifact hartifact _ rfl hsame
      refine absurd hsame (not_samePlace ["cache"] ["s"] ?_ ?_ (by decide) hartifact)
      · subst hdirectory hrequest hstart
        decide +kernel
      · subst hdirectory hrequest hstart
        decide +kernel
  -- The source is rewritten later than the artifact was made, and no longer includes the file.
  have hrewrite : Allowed directory {request} fetched
      (.rewrite "s" (Text.Encoding.encodeUtf8 "b") 2) := by
    have hmade : (request.artifact? directory fetched.here).all (fun artifact =>
        decide (fetched.status artifact =
          .ok (.file (Text.Encoding.encodeUtf8 "i\n\na") 1))) = true := by
      subst hfetched hdirectory hrequest hstart
      decide +kernel
    refine .rewrite ?_ ?_ ?_
    · rintro _ rfl text -
      subst hfetched hdirectory hrequest hstart
      decide +kernel
    · rintro _ rfl made ⟨artifact, bytes, hartifact, hstatus⟩
      rw [hartifact] at hmade
      have hfile := of_decide_eq_true hmade
      obtain ⟨-, rfl⟩ := Node.file.inj (Except.ok.inj (hstatus.symm.trans hfile))
      decide
    · rintro _ rfl artifact hartifact
      refine not_samePlace ["cache"] ["s"] ?_ ?_ (by decide) hartifact
      · subst hfetched hdirectory hrequest hstart
        decide +kernel
      · subst hfetched hdirectory hrequest hstart
        decide +kernel
  have hreached : Reached directory {request} start
      (perform directory fetched (.rewrite "s" (Text.Encoding.encodeUtf8 "b") 2)) := by
    rw [hfetched] at hrewrite ⊢
    exact (Reached.start.step hfetch).step hrewrite
  refine ⟨directory, start, request, _, hreached, ?_, ?_, ?_⟩
  · subst hrequest hstart
    decide +kernel
  · subst hfetched hdirectory hrequest hstart
    decide +kernel
  · refine fetch_transparent ?_ ?_ hnone ?_ hreached rfl
    · rw [hstart]
      exact FileTree.isTree_of_length_le (by decide)
    · rintro _ rfl
      rw [hrequest]
      exact @Config.faithful_of_ofName? _ .utf8 (by decide +kernel)
    · rintro _ rfl _ rfl _ - -
      exact ⟨rfl, rfl⟩

/-- With a file in the place of the cache directory, a fetch fails where a pass does not. -/
theorem fetch_occupied :
    ∃ (directory : Path) (requests : Set Request) (start : FileTree), start.IsTree ∧
      (∀ request ∈ requests, request.config.Faithful) ∧
      (∀ request ∈ requests, ∀ artifact,
        request.artifact? directory start.here = some artifact →
        ∀ node, start.status artifact ≠ .ok node) ∧
      Distinct directory requests start.here ∧
      ∃ files, Reached directory requests start files ∧ ∃ request ∈ requests,
        ((request.cache directory).fetch files request.path).result ≠ request.processed files := by
  refine ⟨.ofText "cache", {⟨{ constants := some .none }, "s"⟩},
    ⟨[(["cache"], .file [0x78] 0), (["s"], .file [0x79] 0)], ⟨"/", []⟩, 1⟩, ?_, ?_, ?_, ?_,
    _, .start, _, rfl, by decide +kernel⟩
  · exact FileTree.isTree_of_length_le (by decide)
  · rintro _ rfl
    exact @Config.faithful_of_ofName? _ .utf8 (by decide +kernel)
  · intro request _ artifact hartifact node
    exact status_ne_of_missing ["cache"] (by decide) (by decide) hartifact node
  · rintro _ rfl _ rfl _ - -
    exact ⟨rfl, rfl⟩

end Hashmark.Cache
