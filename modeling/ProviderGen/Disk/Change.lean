import ProviderGen.Disk.Access

namespace ProviderGen

namespace Node

mutual

/-- What stands in a tree, with the names on the way to it. A directory stands without its entries,
which follow it. -/
def places (here : List String) : Node → List (List String × Node)
  | .directory entries => (here, .directory []) :: placesOfEntries here entries
  | .file content => [(here, .file content)]
  | .link target => [(here, .link target)]

/-- The same for the entries of a directory. -/
def placesOfEntries (here : List String) : List (String × Node) → List (List String × Node)
  | [] => []
  | (name, node) :: rest => places (here ++ [name]) node ++ placesOfEntries here rest

end

end Node

inductive Change
  | makeDirectory (path : Path)
  | write (path : Path) (content : List UInt8)
  | link (path : Path) (target : String)
  | remove (path : Path)
  deriving Repr

namespace Disk

/-- What has to be done for what stands at a place of a tree. -/
def changeAt? (root : Node) (names : List String) (node : Node) : Option Change :=
  let path : Path := ⟨.root, names⟩
  match root.find? names, node with
  | some (.directory _), .directory _ => none
  | _, .directory _ => some (.makeDirectory path)
  | some (.file old), .file content => if old = content then none else some (.write path content)
  | _, .file content => some (.write path content)
  | some (.link old), .link target => if old = target then none else some (.link path target)
  | _, .link target => some (.link path target)

/-- The changes from one disk to another. What lies deeper is removed earlier. -/
def changes (before after : Disk) : List Change :=
  let removed := (before.root.places []).filter fun (names, _) =>
    (after.root.find? names).isNone
  let removals := removed.reverse.map fun (names, _) => Change.remove ⟨.root, names⟩
  let additions := (after.root.places []).filterMap fun (names, node) =>
    changeAt? before.root names node
  removals ++ additions

/-- A disk with all that stands in a tree put below some names. -/
def graft (disk : Disk) (names : List String) (node : Node) : Disk :=
  (node.places names).foldl (fun disk (names, node) => disk.store ⟨.root, names⟩ node) disk

end Disk

end ProviderGen
