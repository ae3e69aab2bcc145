import ProviderGen.Disk.Access
import ProviderGen.Log

namespace ProviderGen

/-- What is wanted of a log: all records or the important ones, and a file that they go to. -/
structure LogSetting where
  verbose : Bool
  file : Option Path
  deriving DecidableEq, Repr

/-- An open log file: its place, and the level from which on records go into it. -/
structure LogFile where
  place : List String
  level : Level
  deriving DecidableEq, Repr

namespace Level

/-- Whether records are important enough where this is the least level that is wanted. -/
def shows (level : Level) (record : Record) : Bool :=
  level.rank ≤ record.remark.level.rank

end Level

namespace LogFile

/-- The line that a record makes in a log file, after the time of the record. -/
def line (moment : String) (record : Record) : String :=
  s!"{moment} {record.remark.level.name} {loggerName record.logger}: {record.remark.text}\n"

/-- Writes a record to the end of the file. -/
def note (file : LogFile) (disk : Disk) (moment : String) (record : Record) : Disk :=
  if file.level.shows record then disk.append file.place (Text.encode (line moment record))
  else disk

/-- Whether a path leads to the file, and not to a link to it. -/
def isAt (file : LogFile) (disk : Disk) (path : Path) : Bool :=
  match disk.locateItself path with
  | .ok place => place.names = file.place
  | .error _ => false

end LogFile

namespace LogSetting

/-- The least level that is wanted. -/
def level (setting : LogSetting) : Level := if setting.verbose then .debug else .info

/-- Opens the log file, if there is to be one. A file that is not there is made. -/
def start (setting : LogSetting) (disk : Disk) : Except DiskError (Option LogFile × Disk) :=
  match setting.file with
  | none => .ok (none, disk)
  | some path =>
      let path := disk.withoutParents path
      let fail := fun fault => .error ⟨fault, path.toString, none⟩
      match disk.locate path with
      | .error fault => fail fault
      | .ok ⟨_, some (.directory _)⟩ => fail .isDirectory
      | .ok ⟨place, node⟩ =>
          let content := node.getD (.file [])
          .ok (some ⟨place, setting.level⟩, { disk with root := disk.root.put place content })

/-- The line that a record makes on the console, which tells no time. -/
def consoleLine (record : Record) : String :=
  s!"[{rootLogger}] {record.remark.level.name} {record.remark.text}\n"

/-- What the console shows of some records. -/
def consoleText (setting : LogSetting) (records : List Record) : String :=
  String.join ((records.filter setting.level.shows).map consoleLine)

end LogSetting

end ProviderGen
