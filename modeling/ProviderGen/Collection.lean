import ProviderGen.Companion
import ProviderGen.Discovery
import ProviderGen.Disk.Access
import ProviderGen.Log

namespace ProviderGen

def providerFile : String := "model_provider.py"

/-- The end of the name of every source file. -/
def sourceSuffix : String := ".py"

/-- The names of directories that are passed over. -/
def excludedDirectories : List String :=
  [".git", ".hg", ".svn", ".venv", "venv", "node_modules", "__pycache__", ".pytest_cache",
    ".mypy_cache", ".tox", ".idea", "build", "dist"]

/-- Whether a file holds source text, by its name. -/
def isSource (name : String) : Bool :=
  sourceSuffix.toList.isSuffixOf name.toList

/-- Why files cannot be collected. -/
inductive CollectionError
  | noDirectory (root : Path)
  | refused (error : DiskError)
  deriving DecidableEq, Repr

def CollectionError.message : CollectionError → String
  | noDirectory root => s!"Source directory not found: {root}"
  | refused error => error.message

namespace Collection

/-- What the collecting of files depends on. -/
structure Setting where
  disk : Disk
  discovery : Discovery

/-- A directory: the names on the way to it, the path it is shown by, and its entries. -/
structure Listing where
  place : List String
  shown : Path
  entries : List (String × Node)

/-- The content of an entry that is a file, or a link to one. -/
def contentOf (setting : Setting) (listing : Listing) (entry : String × Node) :
    Except CollectionError (Option (List UInt8)) :=
  match entry.2 with
  | .file content => .ok (some content)
  | .directory _ => .ok none
  | .link _ =>
      -- The target may lie anywhere. One that is missing makes the entry no file.
      match setting.disk.locate ⟨.root, listing.place ++ [entry.1]⟩ with
      | .ok ⟨_, some (.file content)⟩ => .ok (some content)
      | .ok _ => .ok none
      | .error .notFound => .ok none
      | .error fault =>
          .error (.refused ⟨fault, listing.shown.textOf entry.1, none⟩)

/-- The files of a directory, with their content. -/
def filesOf (setting : Setting) (listing : Listing) :
    Except CollectionError (List (String × List UInt8)) := do
  let contents ← listing.entries.mapM (contentOf setting listing)
  return (listing.entries.zip contents).filterMap fun (entry, content) =>
    content.map fun content => (entry.1, content)

/-- Whether a text may declare a model. -/
def mayDeclare (discovery : Discovery) (text : String) : Bool :=
  Text.includes text "class" && discovery.mentionsAny text

/-- Whether a file that is no companion is collected. -/
def isCandidate (discovery : Discovery) (name : String) (content : List UInt8) : Bool :=
  name ≠ providerFile &&
    mayDeclare discovery (String.ofList (Text.unifyLines (Text.decodeLeniently content)))

/-- The names collected from the files of one directory, after those that have been. -/
def namesFrom {ε : Type} (discovery : Discovery) :
    List String → List (String × List UInt8) → Logged ε (List String)
  | _, [] => return []
  | done, (name, content) :: files =>
      if !isSource name || done.contains name then
        namesFrom discovery done files
      else
        match logicalName? discovery.markers name with
        | some target =>
            -- The logical file counts as collected whether or not it is there.
            if done.contains target then
              namesFrom discovery done files
            else do
              .debug s!"Resolved companion {name} -> {target}"
              return target :: (← namesFrom discovery (target :: done) files)
        | none =>
            if isCandidate discovery name content then do
              return name :: (← namesFrom discovery (name :: done) files)
            else
              namesFrom discovery done files

/-- The files collected from a directory itself. -/
def collectHere (setting : Setting) (listing : Listing) : Logged CollectionError (List Path) := do
  let files ← Logged.ofExcept (filesOf setting listing)
  let names ← namesFrom setting.discovery [] files
  return names.map listing.shown.child

mutual

/-- The files collected from a directory and from those below it. -/
def collectNode (setting : Setting) (place : List String) (shown : Path) :
    Node → Logged CollectionError (List Path)
  | .directory entries => do
      let here ← collectHere setting ⟨place, shown, entries⟩
      let below ← collectEntries setting place shown entries
      return here ++ below
  -- No link is followed, not even one to a directory.
  | _ => return []

/-- The files collected from the directories among some entries. -/
def collectEntries (setting : Setting) (place : List String) (shown : Path) :
    List (String × Node) → Logged CollectionError (List Path)
  | [] => return []
  | (name, node) :: rest => do
      let here ←
        if excludedDirectories.contains name then pure []
        else collectNode setting (place ++ [name]) (shown.child name) node
      let others ← collectEntries setting place shown rest
      return here ++ others

end

end Collection

/-- The files below a directory that may declare models. -/
def collect (disk : Disk) (discovery : Discovery) (root : Path) :
    Logged CollectionError (List Path) :=
  match disk.directoryAt? root with
  | none => .fail (.noDirectory root)
  | some (place, entries) => do
      let files ← Collection.collectNode ⟨disk, discovery⟩ place root (.directory entries)
      .debug s!"Collected {files.length} candidate files under {root}"
      return files

end ProviderGen
