import Hashmark.FileTree

/-!
# Where paths lead

A path that can be followed leads to the place that it names when every pair of full stops is folded
with the name before it, whatever the tree holds (`locate_eq`). The tree decides only whether the
path can be followed. What is read from a file is therefore what stands at one place of the tree
(`read_eq_ok`), and a tree has no more files than it lists places. If nothing can be read, the
report names the path as it was given, and says of a path with the null character that it holds one
(`read_eq_error`). Whether a path leads to a file can be told unless the path is too long
(`isFile_eq_error`, `TooLong.not_fits`).
-/

namespace Hashmark.FileTree

/-- A name that is not too long is followed from a directory, two full stops to the one above. -/
theorem follow_cons {tree : FileTree} {start : Site} {name : String}
    (hstart : tree.nodeAt? start = some .directory) (hshort : byteLength name ≤ 255)
    (names : List String) :
    tree.follow start (name :: names) =
      tree.follow (if name = ".." then start.dropLast else start ++ [name]) names := by
  rw [follow, hstart]
  simp only
  rw [if_neg (Nat.not_lt.2 hshort)]
  split <;> rfl

/-- A name is followed from a directory if it is not too long, and otherwise the fault says why it is
not. -/
theorem follow_cons_cases (tree : FileTree) (start : Site) (name : String) (names : List String) :
    (tree.nodeAt? start = some .directory ∧ byteLength name ≤ 255) ∨
    tree.follow start (name :: names) = .error .missing ∨
    tree.follow start (name :: names) = .error .notDirectory ∨
    tree.follow start (name :: names) = .error .tooLong ∧ 255 < byteLength name := by
  rw [follow]
  match tree.nodeAt? start with
  | none => exact .inr (.inl rfl)
  | some (.file _ _) => exact .inr (.inr (.inl rfl))
  | some .directory =>
    by_cases hlong : 255 < byteLength name
    · exact .inr (.inr (.inr ⟨if_pos hlong, hlong⟩))
    · exact .inl ⟨rfl, Nat.not_lt.1 hlong⟩

/-- Names are followed to a place one after the other, each from a directory. -/
theorem follow_cons_eq_ok {tree : FileTree} {start site : Site} {name : String}
    {names : List String} :
    tree.follow start (name :: names) = .ok site ↔
      tree.nodeAt? start = some .directory ∧ byteLength name ≤ 255 ∧
        tree.follow (if name = ".." then start.dropLast else start ++ [name]) names = .ok site := by
  constructor
  · intro h
    obtain ⟨hstart, hshort⟩ | herror | herror | ⟨herror, -⟩ :=
      tree.follow_cons_cases start name names
    · exact ⟨hstart, hshort, follow_cons hstart hshort names ▸ h⟩
    all_goals
      rw [herror] at h
      cases h
  · rintro ⟨hstart, hshort, h⟩
    rw [follow_cons hstart hshort]
    exact h

/-- Names that can be followed lead to the place that folding them gives. -/
theorem follow_eq (tree : FileTree) (names : List String) (done : List String) {site : Site}
    (h : tree.follow done.reverse names = .ok site) : site = Path.foldNames done names := by
  induction names generalizing done with
  | nil => exact (Except.ok.inj h).symm
  | cons name names ih =>
    obtain ⟨-, -, h⟩ := follow_cons_eq_ok.1 h
    rw [Path.foldNames]
    by_cases hup : name = ".."
    · rw [if_pos hup] at h ⊢
      apply ih
      rw [← h, List.dropLast_reverse]
    · rw [if_neg hup] at h ⊢
      apply ih
      rw [← h, List.reverse_cons]

/-- A path leads to the place that it names from the root, if it leads anywhere. -/
theorem locate_eq {tree : FileTree} {path : Path} {site : Site} (h : tree.locate path = .ok site) :
    site = (path.resolve tree.here).names := by
  unfold locate at h
  split at h
  · cases h
  · split at h
    · cases h
    · split at h
      case h_1 hfollow =>
        obtain rfl := Except.ok.inj h
        exact follow_eq tree _ [] hfollow
      case h_2 => cases h

/-- A file stands at a place that the tree lists. -/
theorem mem_nodes_of_nodeAt? {tree : FileTree} {site : Site} {bytes : List UInt8} {time : Nat}
    (h : tree.nodeAt? site = some (.file bytes time)) : site ∈ tree.nodes.map Prod.fst := by
  unfold nodeAt? at h
  split at h
  · cases h
  · obtain ⟨entry, hfind, -⟩ := Option.map_eq_some_iff.1 h
    have hsite : entry.1 = site := by simpa using List.find?_some hfind
    rw [← hsite]
    exact List.mem_map_of_mem (List.mem_of_find?_eq_some hfind)

/-- The status of a path is what stands at the place that it leads to. -/
theorem status_eq_ok {tree : FileTree} {path : Path} {node : Node} :
    tree.status path = .ok node ↔
      ∃ site, tree.locate path = .ok site ∧ tree.nodeAt? site = some node := by
  unfold status
  cases hl : tree.locate path with
  | error e => simp
  | ok site =>
    cases hn : tree.nodeAt? site with
    | none => simp [hn]
    | some found => simp [hn]

/-- A path leads to a node, if anything is there. -/
theorem status?_eq_some {tree : FileTree} {path : Path} {node : Node} :
    tree.status? path = .ok (some node) ↔ tree.status path = .ok node := by
  unfold status?
  cases tree.status path with
  | ok found => simp
  | error e =>
    simp only
    split <;> simp

/-- A regular file is where a path leads. -/
def HasFile (tree : FileTree) (path : Path) : Prop :=
  ∃ bytes time, tree.status path = .ok (.file bytes time)

/-- A path is refused because it is too long. -/
def TooLong (tree : FileTree) (path : Path) (reason : FileError) : Prop :=
  tree.status path = .error reason ∧ reason.fault = .tooLong

/-- No regular file is where a path leads, which is not too long. -/
def LacksFile (tree : FileTree) (path : Path) : Prop :=
  ¬tree.HasFile path ∧ ∀ reason, ¬tree.TooLong path reason

/-- A path is told to lead to a file if it does. -/
theorem isFile_eq_true {tree : FileTree} {path : Path} :
    tree.isFile path = .ok true ↔ tree.HasFile path := by
  simp only [HasFile, ← status?_eq_some, isFile]
  cases tree.status? path with
  | error e => simp [Except.map]
  | ok found =>
    match found with
    | none => simp [Except.map]
    | some .directory => simp [Except.map]
    | some (.file bytes time) => simp [Except.map]

/-- Only a path that is too long keeps from telling whether it leads to a file. -/
theorem isFile_eq_error {tree : FileTree} {path : Path} {e : FileError} :
    tree.isFile path = .error e ↔ tree.TooLong path e := by
  unfold TooLong isFile status?
  cases hstatus : tree.status path with
  | ok node => simp [Except.map]
  | error reason =>
    simp only [Except.error.injEq]
    by_cases hlong : reason.fault = .tooLong
    · rw [if_pos hlong]
      constructor
      · intro h
        obtain rfl := Except.error.inj h
        exact ⟨rfl, hlong⟩
      · rintro ⟨rfl, -⟩
        rfl
    · rw [if_neg hlong]
      constructor
      · exact fun h => nomatch h
      · rintro ⟨rfl, hlong'⟩
        exact absurd hlong' hlong

/-- A path is told to lead to no file if it does not and is not too long. -/
theorem isFile_eq_false {tree : FileTree} {path : Path} :
    tree.isFile path = .ok false ↔ tree.LacksFile path := by
  simp only [LacksFile, ← isFile_eq_true, ← isFile_eq_error]
  cases tree.isFile path with
  | error e => simp
  | ok found => simp

/-- A path is refused, unless for the null character, if the first name that leads to it from the
root is too long. -/
theorem tooLong_of_name {tree : FileTree} {path : Path} {name : String} {names : List String}
    (hnull : '\x00' ∉ path.text.toList) (hnames : (path.absolute tree.here).names = name :: names)
    (hlong : 255 < byteLength name) : tree.TooLong path ⟨.tooLong, path⟩ := by
  have hlocate : tree.locate path = .error ⟨.tooLong, path⟩ := by
    unfold locate
    rw [if_neg (fun hmem => hnull (List.contains_iff_mem.1 hmem)), hnames]
    simp only [follow, nodeAt?, List.isEmpty_nil, if_pos, if_pos hlong, ite_self]
  exact ⟨by rw [status, hlocate], rfl⟩

/-- A path is not too long for the system: it has at most 4095 bytes, and each name that leads to it
from the root has at most 255. -/
def Fits (tree : FileTree) (path : Path) : Prop :=
  byteLength path.text ≤ 4095 ∧ ∀ name ∈ (path.absolute tree.here).names, byteLength name ≤ 255

/-- Names are too long to be followed only if one of them is. -/
theorem exists_of_follow_tooLong {tree : FileTree} {start : Site} {names : List String}
    (h : tree.follow start names = .error .tooLong) : ∃ name ∈ names, 255 < byteLength name := by
  induction names generalizing start with
  | nil => cases h
  | cons name names ih =>
    obtain ⟨hstart, hshort⟩ | herror | herror | ⟨-, hlong⟩ :=
      tree.follow_cons_cases start name names
    · rw [follow_cons hstart hshort] at h
      obtain ⟨other, hother, hlong⟩ := ih h
      exact ⟨other, List.mem_cons_of_mem _ hother, hlong⟩
    · rw [herror] at h
      cases h
    · rw [herror] at h
      cases h
    · exact ⟨name, List.mem_cons_self, hlong⟩

/-- What is refused because it is too long is too long. -/
theorem TooLong.not_fits {tree : FileTree} {path : Path} {e : FileError}
    (h : tree.TooLong path e) : ¬tree.Fits path := by
  obtain ⟨h, hlong⟩ := h
  rintro ⟨htext, hnames⟩
  unfold status locate at h
  simp only at h
  split at h
  case h_1 reason hlocate =>
    obtain rfl := Except.error.inj h
    split at hlocate
    · obtain rfl := Except.error.inj hlocate
      cases hlong
    · rw [if_neg (Nat.not_lt.2 htext)] at hlocate
      split at hlocate
      · cases hlocate
      case h_2 fault hfollow =>
        obtain rfl := Except.error.inj hlocate
        obtain rfl : fault = .tooLong := hlong
        obtain ⟨name, hname, hless⟩ := exists_of_follow_tooLong hfollow
        have hle := hnames name hname
        omega
  · split at h
    · cases h
    · obtain rfl := Except.error.inj h
      cases hlong

/-- What is read from a file stands at the place that its path leads to. -/
theorem read_eq_ok {tree : FileTree} {path : Path} {bytes : List UInt8} :
    tree.read path = .ok bytes ↔ ∃ time, tree.status path = .ok (.file bytes time) := by
  unfold read
  match tree.status path with
  | .error e => simp
  | .ok .directory => simp
  | .ok (.file found time) => simp

/-- Names are followed whatever characters they hold. -/
theorem follow_ne_nullCharacter (tree : FileTree) (start : Site) (names : List String) :
    tree.follow start names ≠ .error .nullCharacter := by
  induction names generalizing start with
  | nil => exact fun h => nomatch h
  | cons name names ih =>
    obtain ⟨hstart, hshort⟩ | herror | herror | ⟨herror, -⟩ :=
      tree.follow_cons_cases start name names
    · rw [follow_cons hstart hshort]
      exact ih _
    all_goals
      rw [herror]
      exact fun h => nomatch h

/-- A path that leads nowhere is reported as it was given, and for the null character exactly if it
holds that. -/
theorem locate_eq_error {tree : FileTree} {path : Path} {e : FileError}
    (h : tree.locate path = .error e) :
    e.path = path ∧ (e.fault = .nullCharacter ↔ '\x00' ∈ path.text.toList) := by
  unfold locate at h
  by_cases hnull : path.text.toList.contains '\x00' = true
  · rw [if_pos hnull] at h
    obtain rfl := Except.error.inj h
    exact ⟨rfl, fun _ => List.contains_iff_mem.1 hnull, fun _ => rfl⟩
  rw [if_neg hnull] at h
  have hmem : '\x00' ∉ path.text.toList := fun hmem => hnull (List.contains_iff_mem.2 hmem)
  suffices hfault : e.path = path ∧ e.fault ≠ .nullCharacter from
    ⟨hfault.1, fun heq => absurd heq hfault.2, fun h => absurd h hmem⟩
  split at h
  · obtain rfl := Except.error.inj h
    exact ⟨rfl, fun h => nomatch h⟩
  · split at h
    · cases h
    · next fault hfollow =>
      obtain rfl := Except.error.inj h
      refine ⟨rfl, ?_⟩
      rintro rfl
      exact follow_ne_nullCharacter tree [] _ hfollow

/-- A path from which nothing can be read is reported as it was given, and for the null character
exactly if it holds that. -/
theorem read_eq_error {tree : FileTree} {path : Path} {e : FileError}
    (h : tree.read path = .error e) :
    e.path = path ∧ (e.fault = .nullCharacter ↔ '\x00' ∈ path.text.toList) := by
  unfold read status at h
  cases hlocate : tree.locate path with
  | error reason =>
    rw [hlocate] at h
    obtain rfl := Except.error.inj h
    exact locate_eq_error hlocate
  | ok site =>
    -- A path that leads somewhere holds no null character.
    have hmem : '\x00' ∉ path.text.toList := by
      intro hmem
      unfold locate at hlocate
      rw [if_pos (List.contains_iff_mem.2 hmem)] at hlocate
      cases hlocate
    suffices hfault : e.path = path ∧ e.fault ≠ .nullCharacter from
      ⟨hfault.1, fun heq => absurd heq hfault.2, fun h => absurd h hmem⟩
    rw [hlocate] at h
    match hnode : tree.nodeAt? site with
    | none =>
      simp only [hnode] at h
      obtain rfl := Except.error.inj h
      exact ⟨rfl, fun h => nomatch h⟩
    | some .directory =>
      simp only [hnode] at h
      obtain rfl := Except.error.inj h
      exact ⟨rfl, fun h => nomatch h⟩
    | some (.file bytes time) =>
      simp only [hnode] at h
      cases h

end Hashmark.FileTree
