import ProviderGen.Disk.Lookup
import ProviderGen.Text.Utf8

/-!
Reading and writing files on a disk.

A file is replaced as a whole: the new content goes into a temporary file beside it, which then
takes its place. If anything fails, the temporary file is gone again.
-/

namespace ProviderGen

namespace Disk

/-- Whether a path stands for a directory. -/
def isDirectory (disk : Disk) (path : Path) : Bool :=
  match disk.locate path with
  | .ok ⟨_, some (.directory _)⟩ => true
  | _ => false

/-- Whether a path stands for anything. -/
def isThere (disk : Disk) (path : Path) : Bool :=
  match disk.locate path with
  | .ok place => place.node.isSome
  | .error _ => false

/-- The bytes of the file that a path stands for. -/
def readBytes (disk : Disk) (path : Path) : Except DiskError (List UInt8) :=
  let fail := fun fault => .error ⟨fault, path.toString, none⟩
  match disk.locate path with
  | .error fault => fail fault
  | .ok ⟨_, some (.file content)⟩ => .ok content
  | .ok ⟨_, some _⟩ => fail .isDirectory
  | .ok ⟨_, none⟩ => fail .notFound

/-- The directory that a path stands for, and its place. -/
def directoryAt? (disk : Disk) (path : Path) : Option (List String × List (String × Node)) :=
  match disk.locate path with
  | .ok ⟨names, some (.directory entries)⟩ => some (names, entries)
  | _ => none

def makeDirectory (disk : Disk) (path : Path) : Except DiskFault Disk :=
  if path.names.getLast?.all (· = "..") then
    match disk.locate path with
    | .error fault => .error fault
    | .ok _ => .error .alreadyThere
  else
    match disk.locateItself path with
    | .error fault => .error fault
    | .ok ⟨_, some _⟩ => .error .alreadyThere
    | .ok ⟨names, none⟩ => .ok { disk with root := disk.root.put names (.directory []) }

/-- Makes a directory that may be there already. -/
def ensureDirectory (disk : Disk) (path : Path) : Except DiskError Disk :=
  match disk.makeDirectory path with
  | .ok disk => .ok disk
  | .error fault =>
      -- A directory that is there already, or a link to one, will do.
      if fault ≠ .notFound && disk.isDirectory path then .ok disk
      else .error ⟨fault, path.toString, none⟩

/-- Makes a directory and those on its way that are missing. The list holds the names of the path
in reverse. A part that has been made stays, also when a later one fails. -/
def ensureDirectories (disk : Disk) (anchor : Anchor) :
    List String → Disk × Except DiskError Unit
  | [] =>
      match disk.ensureDirectory ⟨anchor, []⟩ with
      | .ok disk => (disk, .ok ())
      | .error error => (disk, .error error)
  | last :: above =>
      let path : Path := ⟨anchor, (last :: above).reverse⟩
      match disk.makeDirectory path with
      | .ok disk => (disk, .ok ())
      | .error .notFound =>
          match ensureDirectories disk anchor above with
          | (disk, .error error) => (disk, .error error)
          | (disk, .ok ()) =>
              match disk.ensureDirectory path with
              | .ok disk => (disk, .ok ())
              | .error error => (disk, .error error)
      | .error fault =>
          if disk.isDirectory path then (disk, .ok ())
          else (disk, .error ⟨fault, path.toString, none⟩)

/-- A disk with the directories on the way to a file. -/
def prepared (disk : Disk) (target : Path) : Disk :=
  (disk.ensureDirectories target.parent.anchor target.parent.names.reverse).1

/-- A path from the root in which every `..` takes away the name before it, whatever that is. -/
def withoutParents (disk : Disk) (path : Path) : Path :=
  ⟨if path.isAbsolute then path.anchor else .root, Path.collapsed (disk.base path ++ path.names)⟩

/-- How the name of a temporary file is shown: the part that is made up is left open. -/
def temporaryName (name : String) : String :=
  s!".{name}.#.tmp"

/-- A name that no entry has, made from another one. -/
def freshName (entries : List (String × Node)) (name : String) : String :=
  (List.range entries.length).foldl
    (fun name _ => if (Node.child? name entries).isSome then name ++ "#" else name) name

/-- Replaces a file as a whole, or makes it. The directories on its way are made if need be. -/
def replaceFile (disk : Disk) (target : Path) (content : List UInt8) :
    Disk × Except DiskError Unit :=
  match disk.ensureDirectories target.parent.anchor target.parent.names.reverse with
  | (disk, .error error) => (disk, .error error)
  | (disk, .ok ()) =>
      let directory := disk.withoutParents target.parent
      let shown := directory.child (temporaryName target.name)
      match disk.locate directory with
      | .error fault => (disk, .error ⟨fault, shown.toString, none⟩)
      | .ok ⟨_, some (.file _)⟩ => (disk, .error ⟨.notDirectory, shown.toString, none⟩)
      | .ok ⟨names, some (.directory entries)⟩ =>
          let temporary := names ++ [freshName entries (temporaryName target.name)]
          let written := { disk with root := disk.root.put temporary (.file content) }
          let cleaned := { written with root := written.root.remove temporary }
          let fail := fun fault =>
            (cleaned, .error ⟨fault, shown.toString, some target.toString⟩)
          -- A link at the target is replaced itself; a directory is not.
          match written.locateItself target with
          | .error fault => fail fault
          | .ok ⟨_, some (.directory _)⟩ => fail .isDirectory
          | .ok ⟨place, _⟩ =>
              ({ cleaned with root := cleaned.root.put place (.file content) }, .ok ())
      | .ok _ => (disk, .error ⟨.notFound, shown.toString, none⟩)

/-- Adds to the end of the file at a place. -/
def append (disk : Disk) (place : List String) (bytes : List UInt8) : Disk :=
  match disk.root.find? place with
  | some (.file content) => { disk with root := disk.root.put place (.file (content ++ bytes)) }
  | _ => disk

/-- Puts something at a path, and directories on its way. The content of a file goes through links;
a directory that is there stays as it is. -/
def store (disk : Disk) (path : Path) (node : Node) : Disk :=
  let disk := (disk.ensureDirectories path.parent.anchor path.parent.names.reverse).1
  let place := match node with
    | .file _ => disk.locate path
    | _ => disk.locateItself path
  match place with
  | .error _ => disk
  | .ok place =>
      if node.isDirectory && place.node.any Node.isDirectory then disk
      else { disk with root := disk.root.put place.names node }

/-- Takes away what a path stands for, with all that is below it. -/
def delete (disk : Disk) (path : Path) : Disk :=
  match disk.locateItself path with
  | .ok place => { disk with root := disk.root.remove place.names }
  | .error _ => disk

/-- Goes to another directory. -/
def enter (disk : Disk) (path : Path) : Disk :=
  match disk.directoryAt? path with
  | some (names, _) => { disk with current := names }
  | none => disk

end Disk

end ProviderGen
