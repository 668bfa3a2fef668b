import Hashmark.Proofs.FileTree.Operation
import Mathlib.Data.List.Nodup

/-!
# What a tree lists

The names in a directory are read off the list of a tree: they are those of the places right below
the directory (`mem_children`), each named once if the tree lists each place once
(`children_nodup`). Every operation on files keeps it so (`Unique.write` and the others). Clearing
places one after another clears all of them and nothing else (`nodeAt?_foldl_prune`).
-/

namespace Hashmark.FileTree

/-- A regular file stands at a place. -/
def FileAt (tree : FileTree) (site : Site) : Prop :=
  ∃ bytes time, tree.nodeAt? site = some (.file bytes time)

/-- A list of places makes a tree if each of them is listed in a directory. -/
theorem isTree_of_listed {tree : FileTree}
    (h : ∀ entry ∈ tree.nodes, entry.1 ≠ [] → tree.nodeAt? entry.1.dropLast = some .directory) :
    tree.IsTree := by
  intro site node hsite hnode
  rw [nodeAt?_of_ne_nil _ hsite] at hnode
  obtain ⟨entry, hfind, -⟩ := Option.map_eq_some_iff.1 hnode
  obtain rfl : entry.1 = site := by simpa using List.find?_some hfind
  exact h entry (List.mem_of_find?_eq_some hfind) hsite

/-- A place right below a directory is the name behind those that lead there. -/
theorem last_eq_some {place site : Site} {name : String} :
    (if place.dropLast == site && !place.isEmpty then place.getLast? else none) = some name ↔
      place = site ++ [name] := by
  constructor
  · intro h
    split at h
    case isTrue hplace =>
      simp only [Bool.and_eq_true, beq_iff_eq] at hplace
      obtain ⟨front, rfl⟩ := List.getLast?_eq_some_iff.1 h
      rw [← hplace.1, List.dropLast_concat]
    · cases h
  · rintro rfl
    rw [List.dropLast_concat, List.getLast?_concat]
    simp

/-- The names in a directory are those of the places right below it. -/
theorem mem_children {tree : FileTree} {site : Site} {name : String} :
    name ∈ tree.children site ↔ site ++ [name] ∈ tree.nodes.map Prod.fst := by
  unfold children
  simp only [List.mem_filterMap, last_eq_some, List.mem_map]

/-- A tree lists each place once. -/
def Unique (tree : FileTree) : Prop :=
  (tree.nodes.map Prod.fst).Nodup

/-- The names in a directory are different. -/
theorem children_nodup {tree : FileTree} (h : tree.Unique) (site : Site) :
    (tree.children site).Nodup := by
  have hchildren : tree.children site = (tree.nodes.map Prod.fst).filterMap fun place =>
      if place.dropLast == site && !place.isEmpty then place.getLast? else none := by
    rw [List.filterMap_map]
    rfl
  rw [hchildren]
  refine List.Nodup.filterMap (fun one other name hone hother => ?_) h
  rw [last_eq_some.1 hone, last_eq_some.1 hother]

section Unique

variable {tree after : FileTree} {path target : Path} {bytes : List UInt8}

/-- A node is put in the place of another one, or at a place that was not listed. -/
theorem Unique.put (h : tree.Unique) (site : Site) (node : Node) : (tree.put site node).Unique := by
  unfold Unique FileTree.put
  split
  case isTrue =>
    have hsame : (tree.nodes.map fun entry => if entry.1 == site then (site, node) else entry).map
        Prod.fst = tree.nodes.map Prod.fst := by
      rw [List.map_map]
      refine List.map_congr_left fun entry _ => ?_
      by_cases hentry : entry.1 = site <;> simp [hentry]
    rw [hsame]
    exact h
  case isFalse hany =>
    rw [List.map_append, List.nodup_append]
    refine ⟨h, by simp, ?_⟩
    rintro other hother _ hsite rfl
    obtain ⟨entry, hentry, rfl⟩ := List.mem_map.1 hother
    exact hany (List.any_eq_true.2 ⟨entry, hentry, by simpa using hsite⟩)

/-- Clearing a place leaves the others listed as they are. -/
theorem Unique.prune (h : tree.Unique) (site : Site) : (tree.prune site).Unique :=
  List.Nodup.sublist (List.filter_sublist.map Prod.fst) h

/-- Writing a file lists its place once. -/
theorem Unique.write (h : tree.Unique) (hwrite : tree.write path bytes = .ok after) :
    after.Unique := by
  obtain ⟨site, -, -, -, -, rfl⟩ := write_eq_ok hwrite
  exact h.put site _

/-- Making a directory lists its place once. -/
theorem Unique.makeDirectory (h : tree.Unique) (hmade : tree.makeDirectory path = .ok after) :
    after.Unique := by
  obtain ⟨site, -, -, -, -, rfl⟩ := makeDirectory_eq_ok hmade
  exact h.put site _

/-- So does making it with those above it. -/
theorem Unique.makeDirectoriesWithin (h : tree.Unique) {lenient : Bool} {depth : Nat}
    (hmade : tree.makeDirectoriesWithin lenient path depth = .ok after) : after.Unique :=
  of_makeDirectoriesWithin Unique.makeDirectory h hmade

/-- Moving a file lists its new place once. -/
theorem Unique.rename (h : tree.Unique) (hrename : tree.rename path target = .ok after) :
    after.Unique := by
  unfold FileTree.rename at hrename
  split at hrename
  · cases hrename
  · split at hrename
    · split at hrename
      · cases hrename
      · obtain rfl := Except.ok.inj hrename
        exact (h.prune _).put _ _
    · cases hrename
    · cases hrename

end Unique

/-- What stands at each place after names in a directory are cleared one after another. -/
theorem nodeAt?_foldl_prune (tree : FileTree) (site : Site) (names : List String) (other : Site) :
    (names.foldl (fun tree name => tree.prune (site ++ [name])) tree).nodeAt? other =
      if ∃ name ∈ names, site ++ [name] <+: other then none else tree.nodeAt? other := by
  induction names generalizing tree with
  | nil => simp
  | cons name names ih =>
    rw [List.foldl_cons, ih, nodeAt?_prune]
    have hroot : ∀ name : String, site ++ [name] <+: other → other ≠ [] := by
      rintro name hbelow rfl
      simp at hbelow
    by_cases hlater : ∃ name ∈ names, site ++ [name] <+: other
    · rw [if_pos hlater, if_pos (hlater.imp fun _ h => ⟨.tail _ h.1, h.2⟩)]
    · rw [if_neg hlater]
      by_cases hfirst : site ++ [name] <+: other
      · rw [if_pos ⟨hroot name hfirst, hfirst⟩, if_pos ⟨name, List.mem_cons_self, hfirst⟩]
      · rw [if_neg (fun h => hfirst h.2), if_neg]
        rintro ⟨found, hmem, hbelow⟩
        obtain rfl | hmem := List.mem_cons.1 hmem
        · exact hfirst hbelow
        · exact hlater ⟨found, hmem, hbelow⟩

end Hashmark.FileTree
