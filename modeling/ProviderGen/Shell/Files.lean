import ProviderGen.Shell.Machine

namespace ProviderGen.Shell

/-- A command: what it does with its arguments, and its status. -/
abbrev Program := List String → Work Nat

namespace Program

/-- The letters of the options among arguments, and the other arguments. Two dashes end the
options. -/
def cutOptions : List String → List Char × List String
  | [] => ([], [])
  | argument :: rest =>
      match argument.toList with
      | ['-', '-'] => ([], rest)
      | '-' :: c :: letters =>
          let (others, operands) := cutOptions rest
          (c :: letters ++ others, operands)
      | _ =>
          let (others, operands) := cutOptions rest
          (others, argument :: operands)

/-- Does something for each argument in turn. The status is 1 if one of them fails. -/
def forAll (arguments : List String) (work : String → Work Bool) : Work Nat := do
  let outcomes ← arguments.mapM work
  return if outcomes.all id then 0 else 1

/-- Reports on something that cannot be done. -/
def refuse (message : String) : Work Bool := do
  Work.complain message
  return false

/-- What stands at a path, past links. -/
def find (path : String) : Work (Except DiskFault Disk.Place) :=
  return (← get).disk.locate (Path.ofString path)

/-- Puts something at a place. -/
def put (place : List String) (node : Node) : Work Unit :=
  modify fun machine =>
    { machine with disk := { machine.disk with root := machine.disk.root.put place node } }

def takeAway (place : List String) : Work Unit :=
  modify fun machine =>
    { machine with
      disk := { machine.disk with root := machine.disk.root.remove place }
      whereabouts := fun old => (machine.whereabouts old).filter (!place.isPrefixOf ·) }

/-- Takes a node from one place and puts it at another, where it replaces what is there. -/
def carry (origin place : List String) (node : Node) : Work Unit := do
  let before := (← get).whereabouts
  takeAway place
  takeAway origin
  put place node
  modify fun machine =>
    { machine with
      whereabouts := fun old =>
        match before old with
        | some now =>
            if origin.isPrefixOf now then some (place ++ now.drop origin.length)
            else machine.whereabouts old
        | none => none }

/-- Makes files that are not there. -/
def touch : Program := fun arguments =>
  forAll (cutOptions arguments).2 fun path => do
    match ← find path with
    | .ok ⟨place, none⟩ =>
        put place (.file [])
        return true
    | .ok _ => return true
    | .error fault => refuse s!"touch: cannot touch '{path}': {fault.text}"

def makeDirectories : Program := fun arguments => do
  let (options, paths) := cutOptions arguments
  forAll paths fun path => do
    let disk := (← get).disk
    let target := Path.ofString path
    if options.contains 'p' then
      let (disk, result) := disk.ensureDirectories target.anchor target.names.reverse
      Work.setDisk disk
      match result with
      | .ok () => return true
      | .error error =>
          refuse s!"mkdir: cannot create directory ‘{path}’: {error.fault.text}"
    else
      match disk.makeDirectory target with
      | .ok disk =>
          Work.setDisk disk
          return true
      | .error fault => refuse s!"mkdir: cannot create directory ‘{path}’: {fault.text}"

def removeDirectories : Program := fun arguments =>
  forAll (cutOptions arguments).2 fun path => do
    match (← get).disk.locateItself (Path.ofString path) with
    | .ok ⟨place, some (.directory [])⟩ =>
        takeAway place
        return true
    | .ok ⟨_, some (.directory _)⟩ =>
        refuse s!"rmdir: failed to remove '{path}': Directory not empty"
    | .ok ⟨_, some _⟩ => refuse s!"rmdir: failed to remove '{path}': Not a directory"
    | .ok ⟨_, none⟩ => refuse s!"rmdir: failed to remove '{path}': No such file or directory"
    | .error fault => refuse s!"rmdir: failed to remove '{path}': {fault.text}"

/-- Removes files, and directories if that is asked for. -/
def remove : Program := fun arguments => do
  let (options, paths) := cutOptions arguments
  let recursive := options.contains 'r' || options.contains 'R'
  let forced := options.contains 'f'
  forAll paths fun path => do
    match (← get).disk.locateItself (Path.ofString path) with
    | .ok ⟨place, some (.directory _)⟩ =>
        if recursive then
          takeAway place
          return true
        else
          refuse s!"rm: cannot remove '{path}': Is a directory"
    | .ok ⟨place, some _⟩ =>
        takeAway place
        return true
    | .ok ⟨_, none⟩ =>
        if forced then return true
        else refuse s!"rm: cannot remove '{path}': No such file or directory"
    | .error fault =>
        if forced then return true
        else refuse s!"rm: cannot remove '{path}': {fault.text}"

/-- Where something goes that is to be put at a path: into it if it is a directory. -/
def destination (source target : String) : Work (Except DiskFault (List String)) := do
  match ← find target with
  | .ok ⟨place, some (.directory _)⟩ => return .ok (place ++ [(Path.ofString source).name])
  | .ok ⟨place, _⟩ => return .ok place
  | .error fault => return .error fault

/-- Does something with sources and the one target that is the last of some paths. -/
def withTarget (name : String) (paths : List String) (work : String → String → Work Bool) :
    Work Nat := do
  match paths.reverse with
  | target :: source :: sources =>
      if sources ≠ [] && !(← get).disk.isDirectory (Path.ofString target) then
        Work.complain s!"{name}: target '{target}' is not a directory"
        return 1
      forAll (source :: sources).reverse fun source => work source target
  | [path] =>
      Work.complain s!"{name}: missing destination file operand after '{path}'"
      Work.complain s!"Try '{name} --help' for more information."
      return 1
  | [] =>
      Work.complain s!"{name}: missing file operand"
      Work.complain s!"Try '{name} --help' for more information."
      return 1

/-- Copies files, and directories if that is asked for. -/
def copy : Program := fun arguments => do
  let (options, paths) := cutOptions arguments
  let recursive := options.any ['r', 'R', 'a'].contains
  withTarget "cp" paths fun source target => do
    match ← find source with
    | .ok ⟨_, some node⟩ =>
        if node.isDirectory && !recursive then
          refuse s!"cp: -r not specified; omitting directory '{source}'"
        else
          match ← destination source target with
          | .ok place =>
              put place node
              return true
          | .error fault => refuse s!"cp: cannot create regular file '{target}': {fault.text}"
    | .ok ⟨_, none⟩ => refuse s!"cp: cannot stat '{source}': No such file or directory"
    | .error fault => refuse s!"cp: cannot stat '{source}': {fault.text}"

def move : Program := fun arguments =>
  withTarget "mv" (cutOptions arguments).2 fun source target => do
    match (← get).disk.locateItself (Path.ofString source) with
    | .ok ⟨origin, some node⟩ =>
        match ← destination source target with
        | .ok place =>
            carry origin place node
            return true
        | .error fault => refuse s!"mv: cannot move '{source}' to '{target}': {fault.text}"
    | .ok ⟨_, none⟩ => refuse s!"mv: cannot stat '{source}': No such file or directory"
    | .error fault => refuse s!"mv: cannot stat '{source}': {fault.text}"

/-- Makes links that name their targets. -/
def link : Program := fun arguments =>
  withTarget "ln" (cutOptions arguments).2 fun source target => do
    match ← destination source target with
    | .ok place =>
        if ((← get).disk.root.find? place).isSome then
          refuse s!"ln: failed to create symbolic link '{target}': File exists"
        else
          put place (.link source)
          return true
    | .error fault => refuse s!"ln: failed to create symbolic link '{target}': {fault.text}"

/-- Lists the names in directories, a line for each. -/
def list : Program := fun arguments => do
  let (options, paths) := cutOptions arguments
  let shows := fun (name : String) =>
    options.contains 'a' || options.contains 'A' || name.toList.head? ≠ some '.'
  let linesOf := fun (entries : List (String × Node)) =>
    let names := (entries.map (·.1)).filter shows
    let names := if options.contains 'a' then "." :: ".." :: names else names
    String.join (names.map (· ++ "\n"))
  let paths := if paths = [] then ["."] else paths
  let found ← paths.mapM fun path => return (path, ← find path)
  let missing := found.filterMap fun (path, place) =>
    match place with
    | .error fault => some (path, fault)
    | .ok ⟨_, none⟩ => some (path, .notFound)
    | .ok _ => none
  for (path, fault) in missing do
    Work.complain s!"ls: cannot access '{path}': {fault.text}"
  let files := found.filterMap fun (path, place) =>
    match place with
    | .ok ⟨_, some (.directory _)⟩ | .ok ⟨_, none⟩ | .error _ => none
    | .ok _ => some path
  let directories := found.filterMap fun (path, place) =>
    match place with
    | .ok ⟨_, some (.directory entries)⟩ => some (path, entries)
    | _ => none
  let blocks := directories.map fun (path, entries) =>
    (if paths.length = 1 then "" else path ++ ":\n") ++ linesOf entries
  let fileBlock := if files = [] then [] else [String.join (files.map (· ++ "\n"))]
  Work.write ("\n".intercalate (fileBlock ++ blocks))
  return if missing = [] then 0 else 2

end Program

end ProviderGen.Shell
