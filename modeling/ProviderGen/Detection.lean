import ProviderGen.Discovery
import ProviderGen.Source.Outline

namespace ProviderGen

/-- A class and the methods that keywords mark in it. -/
structure Detected where
  name : String
  serialize : Option String
  deserialize : Option String
  deriving DecidableEq, Repr

namespace Detection

open Source

def isPublic (name : String) : Bool :=
  name.toList.head? ≠ some '_'

/-- The decorators that make a method a factory. -/
def factoryDecorators : List String := ["classmethod", "staticmethod"]

/-- Sets the body of a class: one that is known keeps its place. -/
def rebind (name : String) (body : List Statement) :
    List (String × List Statement) → List (String × List Statement)
  | [] => [(name, body)]
  | (other, old) :: rest =>
      if other = name then (name, body) :: rest else (other, old) :: rebind name body rest

/-- The public classes among some statements, after those that are known. A later class statement
gives the name a new body. -/
def classesFrom (known : List (String × List Statement)) :
    List Statement → List (String × List Statement)
  | [] => known
  | .classDef name body :: rest =>
      classesFrom (if isPublic name then rebind name body known else known) rest
  | _ :: rest => classesFrom known rest

/-- The public classes of an outline with their bodies, in the order of their first statements. -/
def classes (outline : Outline) : List (String × List Statement) :=
  classesFrom [] outline.statements

/-- Whether a method with some decorators is a factory. -/
def isFactory (decorators : List (Option String)) : Bool :=
  decorators.any fun decorator => decorator.any factoryDecorators.contains

/-- The role that a method can have, by its decorators. -/
def roleOf (decorators : List (Option String)) : Role :=
  if isFactory decorators then .deserialize else .serialize

/-- The public methods of a class body that can have a role. -/
def methods (role : Role) (body : List Statement) : List String :=
  body.filterMap fun statement =>
    match statement with
    | .functionDef name decorators =>
        if isPublic name && roleOf decorators = role then some name else none
    | _ => none

/-- The first method that the first possible keyword marks. -/
def marked? (keywords : List Keyword) (methods : List String) : Option String :=
  keywords.findSome? fun keyword => methods.find? keyword.matchesIn

def detectClass? (discovery : Discovery) (name : String) (body : List Statement) :
    Option Detected :=
  let method := fun role => marked? (discovery.keywords role) (methods role body)
  match method .serialize, method .deserialize with
  | none, none => none
  | serialize, deserialize => some ⟨name, serialize, deserialize⟩

end Detection

def detect (discovery : Discovery) (outline : Source.Outline) : List Detected :=
  (Detection.classes outline).filterMap fun (name, body) =>
    Detection.detectClass? discovery name body

end ProviderGen
