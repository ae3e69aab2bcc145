import ProviderGen.Keyword
import ProviderGen.ModuleName

namespace ProviderGen

/-- Whether a model can do something, and by which method. What it can do has a method. -/
structure Ability where
  present : Bool
  method : Option String
  named : present = true → method.getD "" ≠ ""
  deriving DecidableEq, Repr

namespace Ability

def ofMethod (method : Option String) : Ability where
  present := method.getD "" ≠ ""
  method := method
  named := by simp

def none : Ability := ofMethod Option.none

end Ability

/-- A model: its class, the file that declares it, and what it can do. -/
structure Model where
  name : String
  importPath : String
  serializer : Ability
  deserializer : Ability
  deriving DecidableEq, Repr

/-- A model that can do something without a method for it. -/
inductive ModelError
  | noMethod (model : String) (role : Role)
  deriving DecidableEq, Repr

/-- What a model is called that can do something. -/
def Role.adjective : Role → String
  | serialize => "serializable"
  | deserialize => "deserializable"

def ModelError.message : ModelError → String
  | noMethod model role =>
      let expected := (Keyword.builtin role).text
      s!"Model {model} is {role.adjective} but has no {expected} method"

namespace Ability

def declared (model : String) (role : Role) (present : Bool) (method : Option String) :
    Except ModelError Ability :=
  if h : present = true → method.getD "" ≠ "" then .ok ⟨present, method, h⟩
  else .error (.noMethod model role)

end Ability

namespace Model

def ability (model : Model) : Role → Ability
  | .serialize => model.serializer
  | .deserialize => model.deserializer

/-- The name of the module to import a model from. -/
def module (model : Model) : Except ModuleNameError String :=
  moduleName model.importPath

end Model

end ProviderGen
