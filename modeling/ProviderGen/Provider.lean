import ProviderGen.Registry
import ProviderGen.Text.AsciiLiteral

namespace ProviderGen

/-- Why no provider can be written. -/
inductive ProviderError
  | invalidName (className : String)
  | nameClash (className : String)
  | notImportable (error : ModuleNameError)
  deriving DecidableEq, Repr

def ProviderError.message : ProviderError → String
  | invalidName className => s!"Invalid provider class name: {Text.quoted className}"
  | nameClash className => s!"Model {className} clashes with the generated provider class"
  | notImportable error => error.message

namespace Provider

/-- The lines in front of the imports. -/
def preamble (projectName : String) : List String :=
  ["# GENERATED CODE - DO NOT MODIFY BY HAND",
    s!"# Produced by `modelgen generate models` from the {projectName} sources.",
    s!"\"\"\"Model provider for {projectName}.\"\"\"",
    "",
    "from __future__ import annotations",
    "",
    "import typing as _typing",
    "",
    "from modelgen import provider as _provider"]

/-- The line that imports names from a module. -/
def importLine (imported : String × List String) : String :=
  s!"from {imported.1} import " ++ ", ".intercalate imported.2

/-- A map in braces: one entry a line, or empty braces. The first line starts with a text. -/
def mapLines (start indent : String) (entries : List String) : List String :=
  if entries = [] then
    [start ++ "\x7b\x7d"]
  else
    [start ++ "\x7b"] ++ entries.map (indent ++ "    " ++ ·) ++ [indent ++ "\x7d"]

/-- The entry of a model in the map of tags. -/
def tagEntry (model : Model) : String :=
  s!"{Text.asciiLiteral model.name}: {model.name},"

/-- The entry of a model in the map of a role. -/
def methodEntry (role : Role) (model : Model) : String :=
  let method := (model.ability role).method.getD ""
  match role with
  | .serialize => s!"{model.name}: lambda _model: _model.{method}(),"
  | .deserialize => s!"{model.name}: lambda _data: {model.name}.{method}(_data),"

/-- The line that declares the map of a role. -/
def mapHeader : Role → String
  | .serialize =>
      "    def to_json_models(self) -> _typing.Dict[type, " ++
        "_typing.Callable[[_typing.Any], _provider.JsonMap]]:"
  | .deserialize =>
      "    def from_json_models(self) -> _typing.Dict[type, " ++
        "_typing.Callable[[_provider.JsonMap], _typing.Any]]:"

def roleLines (registry : Registry) (role : Role) : List String :=
  ["", "    @property", mapHeader role] ++
    mapLines "        return " "        " ((registry.able role).map (methodEntry role))

def classLines (registry : Registry) (className : String) : List String :=
  let count := registry.models.length
  let models := if count = 1 then "model" else "models"
  ["", "", s!"class {className}(_provider.ModelProvider):",
    s!"    \"\"\"Dispatches serialization for {count} discovered {models}.\"\"\"", ""] ++
    mapLines "    model_tags: _typing.Mapping[str, type] = " "    "
      (registry.byName.map tagEntry) ++
    roleLines registry .serialize ++ roleLines registry .deserialize

/-- The text of the provider of a registry. A project without a name goes by that of the class. -/
def source (registry : Registry) (className projectName : String) :
    Except ProviderError String := do
  if !Text.isIdentifier className.toList then
    throw (.invalidName className)
  if registry.names.contains className then
    throw (.nameClash className)
  let imports ← registry.imports.mapError .notImportable
  let projectName := if projectName = "" then className else projectName
  let lines := preamble projectName ++ imports.map importLine ++ classLines registry className
  return String.join (lines.map (· ++ "\n"))

end Provider

end ProviderGen
