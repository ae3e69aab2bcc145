import ProviderGen.Path
import ProviderGen.Text.Identifier
import ProviderGen.Text.Quoted

namespace ProviderGen

inductive ModuleNameError
  | noFileName (path : Path)
  | nothingLeft (importPath : String)
  | notImportable (importPath segment : String)
  deriving DecidableEq, Repr

namespace ModuleNameError

def message : ModuleNameError → String
  | noFileName path => s!"PurePosixPath({Text.quoted path.toString}) has an empty name"
  | nothingLeft importPath => s!"Cannot derive a module name from {Text.quoted importPath}"
  | notImportable importPath segment =>
      s!"{Text.quoted importPath} is not importable: {Text.quoted segment} is not a valid " ++
        "module name"

end ModuleNameError

/-- A file name without its suffix, the part from its last dot on. A dot that begins or ends the
name begins no suffix. -/
def withoutSuffix (name : String) : String :=
  let pieces := Text.pieces '.' name
  let suffix := pieces.getLast?.getD ""
  let stem := ".".intercalate pieces.dropLast
  if suffix = "" || stem = "" then name else stem

/-- The name of the file that stands for its package. -/
def packageFile : String := "__init__"

/-- The segments of the module name of a path, before they are checked. -/
def moduleSegments (path : Path) : List String :=
  let segments := path.parent.segments ++ [withoutSuffix path.name]
  if segments.getLast? = some packageFile then segments.dropLast else segments

/-- The module name of a path below the import root. -/
def moduleName (importPath : String) : Except ModuleNameError String :=
  let path := Path.ofString importPath
  if path.name = "" then
    .error (.noFileName path)
  else
    let segments := moduleSegments path
    if segments = [] then
      .error (.nothingLeft importPath)
    else
      match segments.find? fun segment => !Text.isFreeName segment with
      | some segment => .error (.notImportable importPath segment)
      | none => .ok (".".intercalate segments)

end ProviderGen
