import Hashmark.Proofs.FileTree.Locate
import Mathlib.Data.List.Induction

/-!
# Changes to a tree of files

What stands at each place of a tree after a node is put there (`nodeAt?_put`) or a place is cleared
(`nodeAt?_prune`), and with it the changes that the operations on files make. A path leads to the
same place in two trees with the same directories (`locate_mono`), so that what a path leads to only
depends on the node at that place. Every operation keeps a tree a tree: whatever it holds stands in
a directory (`IsTree`).
-/

namespace Hashmark.FileTree

/-- The root is a directory. -/
theorem nodeAt?_nil (tree : FileTree) : tree.nodeAt? [] = some .directory :=
  rfl

/-- A place below the root holds what the tree lists there. -/
theorem nodeAt?_of_ne_nil (tree : FileTree) {site : Site} (h : site ≠ []) :
    tree.nodeAt? site = (tree.nodes.find? fun entry => entry.1 == site).map Prod.snd := by
  rw [nodeAt?, if_neg (by simpa using h)]

/-- Replacing the entries for a place changes what is listed there, and nothing else. -/
theorem find?_replace (entries : List (Site × Node)) (site other : Site) (node : Node) :
    ((entries.map fun entry => if entry.1 == site then (site, node) else entry).find?
        fun entry => entry.1 == other).map Prod.snd =
      if other = site then (if (entries.any fun entry => entry.1 == site) then some node else none)
      else (entries.find? fun entry => entry.1 == other).map Prod.snd := by
  induction entries with
  | nil => simp
  | cons entry entries ih =>
    rw [List.map_cons, List.find?_cons, List.find?_cons, List.any_cons]
    by_cases hentry : entry.1 = site
    · by_cases hother : other = site
      · simp [hentry, hother]
      · have hne : (site == other) = false := beq_eq_false_iff_ne.2 (Ne.symm hother)
        rw [if_neg hother] at ih ⊢
        simp only [hentry, beq_self_eq_true, if_true, hne]
        exact ih
    · have hne : (entry.1 == site) = false := beq_eq_false_iff_ne.2 hentry
      simp only [hne, Bool.false_eq_true, if_false, Bool.false_or]
      by_cases hother : entry.1 = other
      · have hsame : other ≠ site := fun h => hentry (hother.trans h)
        simp [hother, hsame]
      · have hskip : (entry.1 == other) = false := beq_eq_false_iff_ne.2 hother
        rw [hskip]
        exact ih

/-- What stands at each place after a node is put at one below the root. -/
theorem nodeAt?_put (tree : FileTree) {site : Site} (h : site ≠ []) (node : Node) (other : Site) :
    (tree.put site node).nodeAt? other = if other = site then some node else tree.nodeAt? other := by
  by_cases hother : other = []
  · rw [hother, nodeAt?_nil, nodeAt?_nil, if_neg (Ne.symm h)]
  rw [nodeAt?_of_ne_nil _ hother, nodeAt?_of_ne_nil _ hother]
  unfold put
  by_cases hany : (tree.nodes.any fun entry => entry.1 == site) = true
  · rw [if_pos hany, find?_replace, hany, if_pos rfl]
  · rw [if_neg hany]
    simp only [List.find?_append]
    by_cases hsame : other = site
    · subst hsame
      have hnone : (tree.nodes.find? fun entry => entry.1 == other) = none := by
        rw [List.find?_eq_none]
        exact fun entry hentry hfound => hany (List.any_eq_true.2 ⟨entry, hentry, hfound⟩)
      simp [hnone]
    · have hne : (site == other) = false := beq_eq_false_iff_ne.2 (Ne.symm hsame)
      rw [if_neg hsame, List.find?_cons, hne, List.find?_nil, Option.or_none]

/-- What stands at each place after one is cleared, with all that is below it. -/
theorem nodeAt?_prune (tree : FileTree) (site other : Site) :
    (tree.prune site).nodeAt? other =
      if other ≠ [] ∧ site <+: other then none else tree.nodeAt? other := by
  by_cases hother : other = []
  · rw [hother, nodeAt?_nil, nodeAt?_nil, if_neg (fun h => h.1 rfl)]
  rw [nodeAt?_of_ne_nil _ hother, nodeAt?_of_ne_nil _ hother, prune, List.find?_filter]
  by_cases hprefix : site <+: other
  · rw [if_pos ⟨hother, hprefix⟩, Option.map_eq_none_iff, List.find?_eq_none]
    intro entry _ hfound
    simp only [bne_iff_ne, ne_eq, beq_iff_eq, decide_eq_true_eq] at hfound
    obtain ⟨hkept, rfl⟩ := hfound
    exact hkept (List.prefix_iff_eq_take.1 hprefix).symm
  · rw [if_neg fun h => hprefix h.2]
    congr 2
    funext entry
    by_cases hentry : entry.1 = other
    · have hkept : entry.1.take site.length ≠ site := by
        rw [hentry]
        exact fun h => hprefix (List.prefix_iff_eq_take.2 h.symm)
      simp [hentry] at hkept ⊢
      exact hkept
    · simp [hentry]

/-- Names that can be followed lead to the same place where there are more directories. -/
theorem follow_mono {tree more : FileTree}
    (h : ∀ site, tree.nodeAt? site = some .directory → more.nodeAt? site = some .directory)
    (names : List String) {start site : Site} (hfollow : tree.follow start names = .ok site) :
    more.follow start names = .ok site := by
  induction names generalizing start with
  | nil => exact hfollow
  | cons name names ih =>
    obtain ⟨hstart, hshort, hrest⟩ := follow_cons_eq_ok.1 hfollow
    exact follow_cons_eq_ok.2 ⟨h start hstart, hshort, ih hrest⟩

/-- A path leads somewhere if it is not too long and its names can be followed. -/
theorem locate_eq_ok {tree : FileTree} {path : Path} {site : Site} :
    tree.locate path = .ok site ↔ path.text.toList.contains '\x00' = false ∧
      byteLength path.text ≤ 4095 ∧ tree.follow [] (path.absolute tree.here).names = .ok site := by
  unfold locate
  simp only
  cases hnull : path.text.toList.contains '\x00' with
  | true => simp
  | false =>
    rw [if_neg Bool.false_ne_true]
    by_cases hlong : 4095 < byteLength path.text
    · rw [if_pos hlong]
      refine ⟨fun h => (nomatch h), fun h => ?_⟩
      omega
    · rw [if_neg hlong]
      cases tree.follow [] (path.absolute tree.here).names with
      | error fault => simp
      | ok place => simp [Nat.le_of_not_lt hlong]

/-- A path leads to the same place where there are more directories. -/
theorem locate_mono {tree more : FileTree} (hhere : more.here = tree.here)
    (h : ∀ site, tree.nodeAt? site = some .directory → more.nodeAt? site = some .directory)
    {path : Path} {site : Site} (hlocate : tree.locate path = .ok site) :
    more.locate path = .ok site := by
  obtain ⟨hnull, hshort, hfollow⟩ := locate_eq_ok.1 hlocate
  rw [← hhere] at hfollow
  exact locate_eq_ok.2 ⟨hnull, hshort, follow_mono h _ hfollow⟩

/-- One name more leads into a directory. -/
theorem follow_snoc {tree : FileTree} {names : List String} {name : String} (hname : name ≠ "..")
    {start site : Site} :
    tree.follow start (names ++ [name]) = .ok site ↔
      ∃ place, tree.follow start names = .ok place ∧ tree.nodeAt? place = some .directory ∧
        byteLength name ≤ 255 ∧ site = place ++ [name] := by
  induction names generalizing start with
  | nil =>
    rw [List.nil_append, follow_cons_eq_ok, if_neg hname]
    simp [follow, eq_comm]
  | cons first names ih =>
    rw [List.cons_append, follow_cons_eq_ok, ih]
    simp only [follow_cons_eq_ok, and_assoc, exists_and_left]

/-- A node that is put in the place of no directory leaves every directory where it is. -/
theorem directory_put {tree : FileTree} {site : Site} (hsite : site ≠ [])
    (hfree : tree.nodeAt? site ≠ some .directory) (node : Node) {other : Site}
    (hother : tree.nodeAt? other = some .directory) :
    (tree.put site node).nodeAt? other = some .directory := by
  rw [nodeAt?_put _ hsite, if_neg]
  · exact hother
  · rintro rfl
    exact hfree hother

/-- Everything in a tree stands in a directory. -/
def IsTree (tree : FileTree) : Prop :=
  ∀ site node, site ≠ [] → tree.nodeAt? site = some node →
    tree.nodeAt? site.dropLast = some .directory

/-- Files and directories right below the root make a tree. -/
theorem isTree_of_length_le {tree : FileTree} (h : ∀ entry ∈ tree.nodes, entry.1.length ≤ 1) :
    tree.IsTree := by
  intro site node hsite hnode
  rw [nodeAt?_of_ne_nil _ hsite] at hnode
  obtain ⟨entry, hfind, -⟩ := Option.map_eq_some_iff.1 hnode
  have hentry : entry.1 = site := by simpa using List.find?_some hfind
  have hlength := h entry (List.mem_of_find?_eq_some hfind)
  have hroot : site.dropLast = [] := by
    rw [← List.length_eq_zero_iff, List.length_dropLast, ← hentry]
    omega
  rw [hroot, nodeAt?_nil]

/-- Nothing stands below a place that is no directory. -/
theorem IsTree.nodeAt?_append {tree : FileTree} (h : tree.IsTree) {site : Site}
    (hsite : tree.nodeAt? site ≠ some .directory) (rest : Site) (hrest : rest ≠ []) :
    tree.nodeAt? (site ++ rest) = none := by
  induction rest using List.reverseRecOn with
  | nil => exact absurd rfl hrest
  | append_singleton rest name ih =>
    cases hnode : tree.nodeAt? (site ++ (rest ++ [name])) with
    | none => rfl
    | some node =>
      have hparent := h _ node (by simp) hnode
      rw [← List.append_assoc, List.dropLast_concat] at hparent
      by_cases hrest : rest = []
      · rw [hrest, List.append_nil] at hparent
        exact absurd hparent hsite
      · rw [ih hrest] at hparent
        cases hparent

/-- A node that is put into a directory, and leaves no directory as a file, keeps a tree a tree. -/
theorem IsTree.put {tree : FileTree} (h : tree.IsTree) {site : Site} (hsite : site ≠ [])
    (hparent : tree.nodeAt? site.dropLast = some .directory)
    (hnew : tree.nodeAt? site ≠ some .directory) (node : Node) : (tree.put site node).IsTree := by
  intro other found hother hfound
  have hne : ∀ place : Site, place ≠ [] → place.dropLast ≠ place := by
    intro place hplace heq
    have hlength := congrArg List.length heq
    rw [List.length_dropLast] at hlength
    have hpos := List.length_pos_iff.2 hplace
    omega
  rw [nodeAt?_put _ hsite] at hfound ⊢
  by_cases hsame : other = site
  · rw [hsame, if_neg (hne site hsite)]
    exact hparent
  · rw [if_neg hsame] at hfound
    have hdirectory := h other found hother hfound
    rw [if_neg]
    · exact hdirectory
    · rintro rfl
      exact hnew hdirectory

/-- Clearing a place that is no directory clears nothing else. -/
theorem IsTree.nodeAt?_prune_eq {tree : FileTree} (h : tree.IsTree) {site : Site} (hsite : site ≠ [])
    (hnode : tree.nodeAt? site ≠ some .directory) (other : Site) :
    (tree.prune site).nodeAt? other = if other = site then none else tree.nodeAt? other := by
  rw [nodeAt?_prune]
  by_cases hsame : other = site
  · rw [if_pos hsame, if_pos ⟨hsame ▸ hsite, hsame ▸ List.prefix_refl other⟩]
  · rw [if_neg hsame]
    split
    case isTrue hbelow =>
      obtain ⟨-, rest, rfl⟩ := hbelow
      refine (h.nodeAt?_append hnode rest ?_).symm
      rintro rfl
      exact hsame (List.append_nil site)
    case isFalse => rfl

/-- Clearing a place keeps a tree a tree. -/
theorem IsTree.prune {tree : FileTree} (h : tree.IsTree) (site : Site) : (tree.prune site).IsTree := by
  intro other node hother hnode
  rw [nodeAt?_prune] at hnode ⊢
  by_cases hcleared : other ≠ [] ∧ site <+: other
  · rw [if_pos hcleared] at hnode
    cases hnode
  · rw [if_neg hcleared] at hnode
    rw [if_neg]
    · exact h other node hother hnode
    · intro hparent
      exact hcleared ⟨hother, hparent.2.trans (List.dropLast_prefix other)⟩

end Hashmark.FileTree
