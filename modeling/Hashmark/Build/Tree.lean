import Hashmark.FileTree

/-!
# Copying and removing parts of a tree

A copy takes everything below a place but what is behind a name that is left out; what it takes
keeps its content and its time. A removal goes from the top down, so that nothing within a directory that
is removed is removed by itself.
-/

namespace Hashmark.FileTree

/-- The names that lead from one place to another below it, if it is below. -/
def below? (top site : Site) : Option Site :=
  if site.take top.length = top then some (site.drop top.length) else none

/-- The tree with a copy of what is at a place, and of everything below it, at another place; names
that `isLeftOut` finds are left out below the place. -/
def copy (tree : FileTree) (isLeftOut : String → Bool) (source target : Site) : FileTree :=
  let copied := tree.nodes.filterMap fun (site, node) =>
    (below? source site).bind fun names =>
      if names.any isLeftOut then none else some (target ++ names, node)
  copied.foldl (fun tree (site, node) => tree.put site node) tree

/-- The tree without a directory and all that is below it. -/
def removeDirectory (tree : FileTree) (path : Path) : Except FileError FileTree :=
  match tree.status path with
  | .error e => .error e
  | .ok (.file _ _) => .error ⟨.notDirectory, path⟩
  | .ok .directory => .ok (tree.remove path)

/-- The places below a place that have a property, those with fewer names first. -/
def search (tree : FileTree) (top : Site) (p : Site → Bool) : List Site :=
  let found := tree.nodes.filterMap fun (site, _) =>
    (below? top site).bind fun names => if !names.isEmpty && p names then some site else none
  found.mergeSort fun a b => decide (a.length ≤ b.length)

/-- The tree without the places of a list, each with all that is below it, and those of them that
were still there. -/
def removeAll (tree : FileTree) : List Site → FileTree × List Site
  | [] => (tree, [])
  | site :: sites =>
    if (tree.nodeAt? site).isSome then
      let (rest, removed) := (tree.prune site).removeAll sites
      (rest, site :: removed)
    else tree.removeAll sites

end Hashmark.FileTree
