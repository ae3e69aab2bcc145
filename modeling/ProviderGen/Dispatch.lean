import ProviderGen.Value

namespace ProviderGen

/-- What a function stands under: a class, or a text that stands for none. -/
inductive Key (κ : Type)
  | kind (kind : κ)
  | text (text : String)
  deriving DecidableEq, Repr

inductive Subject (κ : Type)
  | key (key : Key κ)
  | value (value : Value)
  deriving Repr

/-- Why there is no function for a model. -/
inductive DispatchError (κ : Type)
  | unsupported (subject : Subject κ)
  | noKey (value : Value)
  | longInteger
  deriving Repr

namespace DispatchError

variable {κ : Type}

/-- The wording of the error, with the name of each class. -/
def message (name : κ → String) : DispatchError κ → String
  | unsupported subject => s!"Model {shown subject} not supported"
  | noKey value => s!"unhashable type: {Text.quoted value.className}"
  | longInteger => Number.longIntegerMessage
where
  shown : Subject κ → String
    | .key (.kind kind) => name kind
    | .key (.text text) => text
    | .value value => value.shown?.getD ""

end DispatchError

/-- What a provider knows: the class of each tag, a function that writes the models of a class, and
one that reads them. -/
structure Dispatch (κ α δ ρ : Type) where
  tags : List (String × κ)
  writers : List (Key κ × (α → ρ))
  readers : List (Key κ × (δ → ρ))

namespace Dispatch

variable {κ α δ ρ : Type} [DecidableEq κ]

/-- A key with a tag taken as its class. -/
def resolve (dispatch : Dispatch κ α δ ρ) : Key κ → Key κ
  | .kind kind => .kind kind
  | .text text => (dispatch.tags.lookup text).elim (.text text) .kind

/-- What the writer of a class makes of a model. Only the very class counts. -/
def write (dispatch : Dispatch κ α δ ρ) (kind : κ) (model : α) : Except (DispatchError κ) ρ :=
  match dispatch.writers.lookup (.kind kind) with
  | some writer => .ok (writer model)
  | none => .error (.unsupported (.key (.kind kind)))

/-- What the reader for a subject makes of data. -/
def read (dispatch : Dispatch κ α δ ρ) (subject : Subject κ) (data : δ) :
    Except (DispatchError κ) ρ :=
  match subject with
  | .key key =>
      match dispatch.readers.lookup (dispatch.resolve key) with
      | some reader => .ok (reader data)
      | none => .error (.unsupported subject)
  | .value value =>
      -- A value is never a key, but what it fails of depends on whether it could be one.
      if !value.canBeKey then .error (.noKey value)
      else if value.shown?.isNone then .error .longInteger
      else .error (.unsupported subject)

end Dispatch

/-- The maps of functions that every provider has to give. -/
inductive FunctionMap
  | readers
  | writers
  deriving DecidableEq, Repr

def FunctionMap.name : FunctionMap → String
  | readers => "from_json_models"
  | writers => "to_json_models"

/-- The wording for a provider class that lacks maps of functions. -/
def missingMapsMessage (className : String) (missing : List FunctionMap) : String :=
  let noun := if missing.length = 1 then "method" else "methods"
  s!"Can't instantiate abstract class {className} with abstract {noun} " ++
    ", ".intercalate (missing.map FunctionMap.name)

end ProviderGen
