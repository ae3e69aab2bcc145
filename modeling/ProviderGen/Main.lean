import ProviderGen.CommandLine.Report
import ProviderGen.Disk.Change
import ProviderGen.Interpreter.Common
import ProviderGen.Shell.Runner

namespace ProviderGen

/-- How deep directories are searched. -/
def maxDepth : Nat := 64

/-- What stands at an entry of the system. Of directories at the depth given, nothing is taken. -/
def loadEntry : Nat → IO.FS.DirEntry → IO (Option Node)
  | depth, entry => do
      match (← entry.path.symlinkMetadata).type with
      | .file => return some (.file (← IO.FS.readBinFile entry.path).toList)
      | .symlink => return some (.link (← IO.FS.realPath entry.path).toString)
      | .other => return none
      | .dir =>
          match depth with
          | 0 => return some (.directory [])
          | depth + 1 =>
              let entries ← entry.path.readDir
              let loaded ← entries.toList.mapM fun inner => do
                return (inner.fileName, ← loadEntry depth inner)
              let nodes := loaded.filterMap fun (name, node) => node.map (name, ·)
              let ordered := nodes.foldl (fun entries (name, node) =>
                Node.putEntry name node entries) []
              return some (.directory ordered)

/-- A disk with what stands at a path of the system, if anything does. -/
def loadPath (disk : Disk) (depth : Nat) (path : Path) : IO Disk := do
  let path := disk.withoutParents path
  try
    match ← loadEntry depth ⟨"/", path.toString⟩ with
    | some node => return disk.graft path.names node
    | none => return disk
  catch _ => return disk

/-- The disk that a command line concerns: the current directory and that of the project as a
whole, and what lies beside the provider and the log. -/
def loadDisk [Interpreter] (arguments : List String) : IO Disk := do
  let current := Path.ofString (← IO.currentDir).toString
  let home := (← IO.getEnv "HOME").getD "/"
  let empty : Disk := ⟨.directory [], current.names, home⟩
  let disk ← loadPath empty maxDepth current
  match CommandLine.ask arguments with
  | .error _ => return disk
  | .ok request =>
      let expanded := fun (text : String) =>
        (Project.expandHome disk (.ofString text)).getD (.ofString text)
      let disk ← loadPath disk maxDepth (expanded request.project)
      let disk ← match request.output with
        | some output => loadPath disk 1 (expanded output)
        | none => pure disk
      match request.logFile with
      | some file => loadPath disk 1 (Path.ofString file).parent
      | none => return disk

/-- Carries out a change. Links are left to those who make them. -/
def carryOut : Change → IO Unit
  | .makeDirectory path => IO.FS.createDirAll path.toString
  | .write path content => IO.FS.writeBinFile path.toString ⟨content.toArray⟩
  | .link _ _ => pure ()
  | .remove path => do
      try IO.FS.removeFile path.toString
      catch _ => IO.FS.removeDir path.toString

/-- The status at the end, and what is shown besides. -/
def conclude : CommandLine.Finish → IO UInt32
  | .returned status | .stopped status => return UInt32.ofNat status
  | .broken failure => do
      IO.eprintln failure.message
      return UInt32.ofNat CommandLine.failureStatus
  | .leftOpen => return UInt32.ofNat CommandLine.failureStatus

end ProviderGen

open ProviderGen Interpreter.Common

/-- Runs a command line. -/
def main (arguments : List String) : IO UInt32 := do
  let disk ← loadDisk arguments
  let report := CommandLine.report Shell.runner disk arguments
  (disk.changes report.disk).forM carryOut
  IO.print report.output
  IO.eprint report.errors
  conclude report.finish
