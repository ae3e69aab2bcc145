import ProviderGen.Text.Quoted
import ProviderGen.Text.Search

namespace ProviderGen

/-- What a keyword marks a method as able to do. -/
inductive Role
  | serialize
  | deserialize
  deriving DecidableEq, Repr

def Role.name : Role → String
  | serialize => "serialize"
  | deserialize => "deserialize"

inductive KeywordError
  | empty
  | unknownRole (name : String)
  | wrongRole (text : String) (role expected : Role)
  deriving DecidableEq, Repr

def KeywordError.message : KeywordError → String
  | empty => "keyword text must not be empty"
  | unknownRole name => s!"{Text.quoted name} is not a valid KeywordRole"
  | wrongRole text role expected =>
      s!"keyword '{text}' has role {role.name}, expected {expected.name}"

def Role.ofName (name : String) : Except KeywordError Role :=
  if name = serialize.name then .ok serialize
  else if name = deserialize.name then .ok deserialize
  else .error (.unknownRole name)

/-- A fragment of method names, which is never empty, and its role. -/
structure Keyword where
  text : String
  role : Role
  text_ne_empty : text ≠ ""
  deriving DecidableEq, Repr

namespace Keyword

def ofText (role : Role) (text : String) : Except KeywordError Keyword :=
  if h : text = "" then .error .empty else .ok ⟨text, role, h⟩

/-- Whether a name, or any text, holds the keyword. -/
def matchesIn (keyword : Keyword) (text : String) : Bool :=
  Text.includes text keyword.text

/-- The keyword that every list for a role ends with. -/
def builtin : Role → Keyword
  | .serialize => ⟨"to_json", .serialize, by decide⟩
  | .deserialize => ⟨"from_json", .deserialize, by decide⟩

@[simp]
theorem role_builtin (role : Role) : (builtin role).role = role := by
  cases role <;> rfl

/-- Keywords of one role with the built-in one of that role at the end, and only there. -/
def withBuiltin (role : Role) (keywords : List Keyword) : Except KeywordError (List Keyword) :=
  match keywords.find? fun keyword => keyword.role ≠ role with
  | some keyword => .error (.wrongRole keyword.text keyword.role role)
  | none => .ok (keywords.filter (· ≠ builtin role) ++ [builtin role])

/-- The keywords of configured texts for a role, with the built-in one. -/
def configured (role : Role) (texts : List String) : Except KeywordError (List Keyword) := do
  withBuiltin role (← texts.mapM (ofText role))

end Keyword

end ProviderGen
