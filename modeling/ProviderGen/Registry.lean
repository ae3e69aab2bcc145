import ProviderGen.Model
import ProviderGen.Text.Sorted

namespace ProviderGen

/-- The models of a project, in the order they were found. -/
structure Registry where
  models : List Model
  deriving DecidableEq, Repr

namespace Registry

def names (registry : Registry) : List String :=
  registry.models.map (·.name)

/-- Pairs of a module and a name, grouped: the modules and the names of each are in ascending
order, each of them once. -/
def grouped (pairs : List (String × String)) : List (String × List String) :=
  (Text.sortOnce (pairs.map (·.1))).map fun module =>
    (module, Text.sortOnce ((pairs.filter (·.1 = module)).map (·.2)))

/-- The modules to import, and the names to import from each. -/
def imports (registry : Registry) : Except ModuleNameError (List (String × List String)) := do
  let pairs ← registry.models.mapM fun model => return (← model.module, model.name)
  return grouped pairs

/-- The models in ascending order of their names. -/
def byName (registry : Registry) : List Model :=
  Text.sortBy Model.name registry.models

/-- The models that can do something, in ascending order of their names. -/
def able (registry : Registry) (role : Role) : List Model :=
  Text.sortBy Model.name (registry.models.filter fun model => (model.ability role).present)

end Registry

end ProviderGen
