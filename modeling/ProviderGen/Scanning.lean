import ProviderGen.Session

/-!
Collecting and analysing files while a log is kept. A file is read when its turn comes, because it
may be the log file, and hold what was logged by then.
-/

namespace ProviderGen

namespace Scanning

variable [Interpreter]

/-- What stands in a file now that was found in a directory before. -/
def contentNow (session : Session) (listing : Collection.Listing) (name : String)
    (content : List UInt8) : List UInt8 :=
  match session.log with
  | none => content
  | some file =>
      match session.disk.locate ⟨.root, listing.place ++ [name]⟩ with
      | .ok ⟨place, some (.file now)⟩ => if place = file.place then now else content
      | _ => content

/-- The names collected from files of a directory, each as it is when its turn comes. -/
def namesFrom (logger : String) (discovery : Discovery) (listing : Collection.Listing) :
    List String → List (String × List UInt8) → Step (List String)
  | _, [] => return []
  | done, (name, content) :: files => do
      let here ← fun session =>
        let file := (name, contentNow session listing name content)
        (Step.ofLogged logger .collection (Collection.namesFrom discovery done [file])) session
      return here ++ (← namesFrom logger discovery listing (here ++ done) files)

/-- What is collected from the files of a directory, which is listed once. -/
def collectHere (logger : String) (discovery : Discovery) (listing : Collection.Listing) :
    Step (List Path) := do
  let disk ← Step.disk
  let files ← .ofExcept ((Collection.filesOf ⟨disk, discovery⟩ listing).mapError .collection)
  let names ← namesFrom logger discovery listing [] files
  return names.map listing.shown.child

mutual

/-- What is collected from a directory and from those below it. A link is not followed. -/
def collectNode (logger : String) (discovery : Discovery) (place : List String) (shown : Path) :
    Node → Step (List Path)
  | .directory entries => do
      let here ← collectHere logger discovery ⟨place, shown, entries⟩
      let below ← collectEntries logger discovery place shown entries
      return here ++ below
  | _ => return []

/-- What is collected from the directories among some entries. -/
def collectEntries (logger : String) (discovery : Discovery) (place : List String) (shown : Path) :
    List (String × Node) → Step (List Path)
  | [] => return []
  | (name, node) :: rest => do
      let here ←
        if excludedDirectories.contains name then pure []
        else collectNode logger discovery (place ++ [name]) (shown.child name) node
      let others ← collectEntries logger discovery place shown rest
      return here ++ others

end

/-- Collects files as `collect` does, each as it is when its turn comes. -/
def collect (logger : String) (discovery : Discovery) (root : Path) : Step (List Path) := do
  let disk ← Step.disk
  match disk.directoryAt? root with
  | none => .fail (.collection (.noDirectory root))
  | some (place, entries) =>
      let files ← collectNode logger discovery place root (.directory entries)
      .say logger .debug s!"Collected {files.length} candidate files under {root}"
      return files

/-- The models of files, after those that are known, with the file that declares each. -/
def analyzeFrom (logger : String) (discovery : Discovery) (root : Path) :
    List (Model × Path) → List Path → Step (List (Model × Path))
  | known, [] => return known
  | known, path :: paths => do
      let disk ← Step.disk
      let known ←
        .ofLogged logger .analysis (Workplace.analyzeFrom ⟨disk, discovery, root⟩ known [path])
      analyzeFrom logger discovery root known paths

/-- Analyses files as `Workplace.analyze` does, each as it is when its turn comes. -/
def analyze (logger : String) (discovery : Discovery) (root : Path) (paths : List Path) :
    Step (List Model) := do
  return (← analyzeFrom logger discovery root [] paths).map (·.1)

end Scanning

end ProviderGen
