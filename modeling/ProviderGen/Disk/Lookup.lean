import ProviderGen.Disk.Error
import ProviderGen.Disk.Node
import ProviderGen.Path

/-!
Finding what a path stands for. Links are followed where they are met; a name after a link counts
from the link's target, and `..` from the directory that has been reached.
-/

namespace ProviderGen

/-- A tree of files, the current directory as the names on its way, and the home directory. -/
structure Disk where
  root : Node
  current : List String
  home : String
  deriving Repr

namespace Disk

/-- How many links are followed on the way of one path. -/
def maxLinks : Nat := 40

/-- A place in a tree, by the names on its way, free of links, and what stands there, if anything
does. The directory that holds it exists. -/
structure Place where
  names : List String
  node : Option Node

/-- Walks from a directory along names. `links` says how many more links may be followed, and
`follow` whether a link at the end is. -/
def walk (root : Node) (follow : Bool) :
    Nat → Nat → List String → List String → Except DiskFault Place
  | 0, _, _, _ => .error .tooManyLinks
  | _ + 1, _, here, [] => .ok ⟨here, root.find? here⟩
  | bound + 1, links, here, name :: rest =>
      if name = ".." then
        walk root follow bound links here.dropLast rest
      else
        let next := here ++ [name]
        match root.find? next with
        | none => if rest.isEmpty then .ok ⟨next, none⟩ else .error .notFound
        | some (.directory _) => walk root follow bound links next rest
        | some (.file content) =>
            if rest.isEmpty then .ok ⟨next, some (.file content)⟩ else .error .notDirectory
        | some (.link target) =>
            if rest.isEmpty && !follow then
              .ok ⟨next, some (.link target)⟩
            else
              match links with
              | 0 => .error .tooManyLinks
              | links + 1 =>
                  let target := Path.ofString target
                  let start := if target.isAbsolute then [] else here
                  walk root follow bound links start (target.names ++ rest)

/-- How many names are looked at on the way of one path, with those of the links on it. -/
def maxSteps : Nat := 4096

/-- The names that a path starts from. -/
def base (disk : Disk) (path : Path) : List String :=
  if path.isAbsolute then [] else disk.current

/-- The place of a path, past a link at its end or not. No path with a null character has one. -/
def search (disk : Disk) (follow : Bool) (path : Path) : Except DiskFault Place :=
  if path.holdsNull then .error .nullCharacter
  else walk disk.root follow (maxSteps + path.names.length) maxLinks (disk.base path) path.names

/-- The place of a path, past a link at its end. -/
def locate (disk : Disk) (path : Path) : Except DiskFault Place :=
  disk.search true path

/-- The place of a path, where a link at its end counts for itself. -/
def locateItself (disk : Disk) (path : Path) : Except DiskFault Place :=
  disk.search false path

/-- A name still to be walked, or the end of the target of a link. -/
inductive Stop
  | name (name : String)
  | endOf (link : List String)

def Stop.name? : Stop → Option String
  | .name text => some text
  | .endOf _ => none

/-- Walks along names without asking that anything be there, and stops at a link that leads back to
itself: the result says whether that was so. `active` holds the links whose targets are being
walked. -/
def resolveFrom (root : Node) :
    Nat → List (List String) → List String → List Stop → List String × Bool
  | 0, _, here, stops => (here ++ stops.filterMap Stop.name?, true)
  | _ + 1, _, here, [] => (here, false)
  | bound + 1, active, here, .endOf link :: rest =>
      resolveFrom root bound (active.erase link) here rest
  | bound + 1, active, here, .name name :: rest =>
      if name = ".." then
        resolveFrom root bound active here.dropLast rest
      else
        let next := here ++ [name]
        match root.find? next with
        | some (.link target) =>
            -- A link whose target is still being walked leads back to itself.
            if active.contains next then
              (next ++ rest.filterMap Stop.name?, true)
            else
              let target := Path.ofString target
              let start := if target.isAbsolute then [] else here
              let stops := target.names.map Stop.name ++ .endOf next :: rest
              resolveFrom root bound (next :: active) start stops
        | _ => resolveFrom root bound active next rest

/-- Why a path cannot be made free of links. -/
inductive ResolveError
  | linkLoop (path : Path)
  | nullCharacter
  deriving DecidableEq, Repr

/-- The path free of links that a path stands for. A link on the way that leads back to itself is
taken for a name, and what follows it is not looked at. That is an error only if there is no way to
the path that comes out: a `..` may have undone the link. -/
def resolve (disk : Disk) (path : Path) : Except ResolveError Path :=
  if path.holdsNull then
    .error .nullCharacter
  else
    let (names, loops) :=
      resolveFrom disk.root (maxSteps + path.names.length) [] (disk.base path)
        (path.names.map Stop.name)
    if loops then
      let left : Path := ⟨.root, Path.collapsed names⟩
      match disk.locate left with
      | .error .tooManyLinks => .error (.linkLoop left)
      | _ => .ok left
    else
      .ok ⟨.root, names⟩

theorem exists_names_of_resolve {disk : Disk} {path resolved : Path}
    (h : disk.resolve path = .ok resolved) : ∃ names, resolved = ⟨.root, names⟩ := by
  unfold resolve at h
  split at h
  · cases h
  · dsimp only at h
    split at h
    · split at h
      · cases h
      · exact ⟨_, (Except.ok.inj h).symm⟩
    · exact ⟨_, (Except.ok.inj h).symm⟩

end Disk

end ProviderGen
