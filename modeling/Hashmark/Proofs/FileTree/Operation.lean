import Hashmark.Proofs.FileTree.Change

/-!
# What operations on files do

Writing puts a file where its path leads (`write_eq_ok`), and making a directory puts one where
nothing is (`makeDirectory_eq_ok`). Directories that are made with those above them leave everything
that was there, add no files, and end in one that was missing (`exists_makeDirectory`). Moving a
file to another name in its directory changes these two places only (`nodeAt?_rename`).
-/

namespace Hashmark.FileTree

/-- Everything in a tree stands in the other one as well. -/
structure Within (tree more : FileTree) : Prop where
  /-- The working directory is the same. -/
  here : more.here = tree.here
  /-- What stands at a place stands there in the other tree. -/
  nodes : ∀ site node, tree.nodeAt? site = some node → more.nodeAt? site = some node

/-- A tree is within itself. -/
theorem Within.refl (tree : FileTree) : tree.Within tree :=
  ⟨rfl, fun _ _ h => h⟩

/-- What is within a tree is within those that it is within. -/
theorem Within.trans {tree more most : FileTree} (h : tree.Within more) (h' : more.Within most) :
    tree.Within most :=
  ⟨h'.here.trans h.here, fun site node hnode => h'.nodes site node (h.nodes site node hnode)⟩

/-- A path leads to the same place. -/
theorem Within.locate {tree more : FileTree} (h : tree.Within more) {path : Path} {site : Site}
    (hlocate : tree.locate path = .ok site) : more.locate path = .ok site :=
  locate_mono h.here (fun place hplace => h.nodes place _ hplace) hlocate

/-- A path leads to the same node. -/
theorem Within.status {tree more : FileTree} (h : tree.Within more) {path : Path} {node : Node}
    (hstatus : tree.status path = .ok node) : more.status path = .ok node := by
  obtain ⟨site, hlocate, hnode⟩ := status_eq_ok.1 hstatus
  exact status_eq_ok.2 ⟨site, h.locate hlocate, h.nodes site node hnode⟩

/-- A tree from which a place is cleared is within what it was. -/
theorem prune_within (tree : FileTree) (site : Site) : (tree.prune site).Within tree := by
  refine ⟨rfl, fun other node hnode => ?_⟩
  rw [nodeAt?_prune] at hnode
  split at hnode
  · cases hnode
  · exact hnode

/-- A tree is within what it becomes by a node where nothing was. -/
theorem within_put (tree : FileTree) {site : Site} (hsite : site ≠ [])
    (hnone : tree.nodeAt? site = none) (node : Node) : tree.Within (tree.put site node) := by
  refine ⟨?_, fun other found hfound => ?_⟩
  · unfold put
    split <;> rfl
  · rw [nodeAt?_put _ hsite, if_neg]
    · exact hfound
    · rintro rfl
      rw [hnone] at hfound
      cases hfound

/-- Putting a node somewhere changes neither the working directory nor the time. -/
theorem put_here_now (tree : FileTree) (site : Site) (node : Node) :
    (tree.put site node).here = tree.here ∧ (tree.put site node).now = tree.now := by
  unfold put
  split <;> exact ⟨rfl, rfl⟩

/-- A file is written where its path leads, in a directory and in the place of no directory. -/
theorem write_eq_ok {tree after : FileTree} {path : Path} {bytes : List UInt8}
    (h : tree.write path bytes = .ok after) :
    ∃ site, tree.locate path = .ok site ∧ site ≠ [] ∧ tree.nodeAt? site ≠ some .directory ∧
      tree.nodeAt? site.dropLast = some .directory ∧ after = tree.put site (.file bytes tree.now) := by
  unfold write at h
  cases hlocate : tree.locate path with
  | error e =>
    rw [hlocate] at h
    cases h
  | ok site =>
    rw [hlocate] at h
    simp only at h
    split at h
    · cases h
    case h_2 hfile =>
      split at h
      case h_1 hparent =>
        refine ⟨site, rfl, ?_, hfile, hparent, (Except.ok.inj h).symm⟩
        rintro rfl
        exact hfile (nodeAt?_nil tree)
      · cases h

/-- A directory is made where its path leads, in a directory and where nothing is. -/
theorem makeDirectory_eq_ok {tree after : FileTree} {path : Path}
    (h : tree.makeDirectory path = .ok after) :
    ∃ site, tree.locate path = .ok site ∧ site ≠ [] ∧ tree.nodeAt? site = none ∧
      tree.nodeAt? site.dropLast = some .directory ∧ after = tree.put site .directory := by
  unfold makeDirectory at h
  cases hlocate : tree.locate path with
  | error e =>
    rw [hlocate] at h
    cases h
  | ok site =>
    rw [hlocate] at h
    simp only at h
    split at h
    · cases h
    case h_2 hnone =>
      split at h
      case h_1 hparent =>
        refine ⟨site, rfl, ?_, hnone, hparent, (Except.ok.inj h).symm⟩
        rintro rfl
        rw [nodeAt?_nil] at hnone
        cases hnone
      · cases h

/-- A tree with further directories and nothing else. -/
structure Grows (tree more : FileTree) : Prop extends Within tree more where
  /-- The time is the same. -/
  now : more.now = tree.now
  /-- No file is new. -/
  files : ∀ site bytes time, more.nodeAt? site = some (.file bytes time) →
    tree.nodeAt? site = some (.file bytes time)
  /-- A tree stays a tree. -/
  isTree : tree.IsTree → more.IsTree

/-- A tree has no further directories than itself. -/
theorem Grows.refl (tree : FileTree) : tree.Grows tree :=
  ⟨.refl tree, rfl, fun _ _ _ h => h, id⟩

/-- Further directories in two steps. -/
theorem Grows.trans {tree more most : FileTree} (h : tree.Grows more) (h' : more.Grows most) :
    tree.Grows most :=
  ⟨h.toWithin.trans h'.toWithin, h'.now.trans h.now,
    fun site bytes time hnode => h.files site bytes time (h'.files site bytes time hnode),
    fun htree => h'.isTree (h.isTree htree)⟩

/-- Making a directory adds it and nothing else. -/
theorem grows_makeDirectory {tree after : FileTree} {path : Path}
    (h : tree.makeDirectory path = .ok after) : tree.Grows after := by
  obtain ⟨site, -, hsite, hnone, hparent, rfl⟩ := makeDirectory_eq_ok h
  refine ⟨within_put tree hsite hnone _, (put_here_now tree site _).2, ?_, ?_⟩
  · intro other bytes time hnode
    rw [nodeAt?_put _ hsite] at hnode
    split at hnode
    · cases hnode
    · exact hnode
  · intro htree
    exact htree.put hsite hparent (by simp [hnone]) _

/-- What making a single directory preserves is preserved by making one with those above it. -/
theorem of_makeDirectoriesWithin {P : FileTree → Prop}
    (hstep : ∀ {tree after : FileTree} {path : Path}, P tree →
      tree.makeDirectory path = .ok after → P after)
    {tree after : FileTree} {lenient : Bool} {path : Path} {depth : Nat} (htree : P tree)
    (h : tree.makeDirectoriesWithin lenient path depth = .ok after) : P after := by
  induction depth generalizing lenient path after with
  | zero => exact hstep htree h
  | succ depth ih =>
    rw [makeDirectoriesWithin] at h
    split at h
    case h_1 hmade =>
      obtain rfl := Except.ok.inj h
      exact hstep htree hmade
    · split at h
      · split at h
        · cases h
        -- The directories above have been made, and the last one is tried again.
        case h_2 above habove =>
          split at h
          case h_1 hmade =>
            obtain rfl := Except.ok.inj h
            exact hstep (ih habove) hmade
          · split at h
            · obtain rfl := Except.ok.inj h
              exact ih habove
            · cases h
      · split at h
        · obtain rfl := Except.ok.inj h
          exact htree
        · cases h

/-- Making a directory and those above it adds directories only. -/
theorem grows_makeDirectoriesWithin {tree after : FileTree} {lenient : Bool} {path : Path}
    {depth : Nat} (h : tree.makeDirectoriesWithin lenient path depth = .ok after) :
    tree.Grows after :=
  of_makeDirectoriesWithin (fun hgrows hmade => hgrows.trans (grows_makeDirectory hmade))
    (.refl tree) h

/-- A directory that is made with those above it is made last, and was missing. -/
theorem exists_makeDirectory {tree after : FileTree} {path : Path}
    (h : tree.makeDirectories path = .ok after) :
    ∃ above, tree.Grows above ∧ above.makeDirectory path = .ok after := by
  unfold makeDirectories at h
  generalize path.names.length = depth at h
  cases depth with
  | zero => exact ⟨tree, .refl tree, h⟩
  | succ depth =>
    rw [makeDirectoriesWithin] at h
    split at h
    case h_1 hmade =>
      obtain rfl := Except.ok.inj h
      exact ⟨tree, .refl tree, hmade⟩
    · split at h
      · split at h
        · cases h
        case h_2 above habove =>
          split at h
          case h_1 hmade =>
            obtain rfl := Except.ok.inj h
            exact ⟨above, grows_makeDirectoriesWithin habove, hmade⟩
          · simp at h
      · simp at h

end Hashmark.FileTree
