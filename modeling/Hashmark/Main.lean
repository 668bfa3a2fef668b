import Hashmark.Tool

/-!
# The program

The tool on the files of the system. The files that a run looks at are loaded into a tree, the run
takes place on that tree, and what it has changed there is written back.
-/

namespace Hashmark.Program

open Tool

/-- What the system has at a place. -/
def nodeOn (site : Site) : IO (Option Node) := do
  let place := (← IO.currentDir) / ("/" ++ String.intercalate "/" site)
  try
    let metadata ← place.metadata
    match metadata.type with
    | .dir => return some .directory
    | _ =>
      let bytes ← IO.FS.readBinFile place
      let time := metadata.modified.sec * 1000000000 + Int.ofNat metadata.modified.nsec.toNat
      return some (.file bytes.toList time.toNat)
  catch _ => return none

/-- The tree with a place loaded. -/
def loadSite (tree : FileTree) (site : Site) : IO FileTree := do
  if (tree.nodeAt? site).isSome then return tree
  match ← nodeOn site with
  | some node => return tree.put site node
  | none => return tree

/-- The tree with every place loaded that a path leads through. -/
def load (tree : FileTree) (path : Path) : IO FileTree := do
  let step := fun (tree, site) name => do
    let site := if name = ".." then site.dropLast else site ++ [name]
    return (← loadSite tree site, site)
  return (← (path.absolute tree.here).names.foldlM step (tree, ([] : Site))).1

/-- The tree with a directory and what is in it loaded. -/
def loadDirectory (tree : FileTree) (path : Path) : IO FileTree := do
  let tree ← load tree path
  try
    let entries ← ((← IO.currentDir) / path.text).readDir
    entries.toList.foldlM (fun tree entry => load tree (path.child entry.fileName)) tree
  catch _ => return tree

/-- The tree with everything loaded that a request looks at. -/
partial def gather (request : Request) (tree : FileTree) : IO FileTree := do
  let further ← (request.reads tree).foldlM load tree
  if further.nodes.length = tree.nodes.length then return tree
  gather request further

/-- Writes a node to the system. -/
def writeNode (site : Site) : Node → IO Unit
  | .directory => IO.FS.createDirAll ("/" ++ String.intercalate "/" site)
  | .file bytes _ =>
    IO.FS.writeBinFile ("/" ++ String.intercalate "/" site) (ByteArray.mk bytes.toArray)

/-- Writes back what differs from the tree as it was loaded. -/
def writeBack (before after : FileTree) : IO Unit :=
  after.nodes.forM fun (site, node) => do
    if before.nodeAt? site != some node then writeNode site node

/-- The tree that a run with these arguments takes place on. -/
def treeFor (arguments : List String) : IO FileTree := do
  let here := Path.ofText (toString (← IO.currentDir))
  let tree ← load ⟨[], here, 0⟩ here
  match interface.read arguments with
  | .error _ => return tree
  | .ok given =>
    let request := Request.ofGiven given
    let tree ← request.output.toList.foldlM load tree
    let tree ← request.cacheDirectory.toList.foldlM loadDirectory tree
    gather request tree

end Hashmark.Program

open Hashmark Program in
/-- Runs the tool. -/
def main (arguments : List String) : IO UInt32 := do
  let tree ← treeFor arguments
  let run := Tool.run arguments tree
  writeBack tree run.files
  IO.print run.output
  IO.eprint run.errors
  match run.ending with
  | .status code => return code.toUInt32
  | .dismissed code => return code.toUInt32
  | .failed _ =>
    IO.eprintln "The source cannot be processed."
    return 1
