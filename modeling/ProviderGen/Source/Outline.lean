import ProviderGen.Source.Parse
import ProviderGen.Text.Compatibility

namespace ProviderGen.Source

/-- A statement, as far as classes and functions are concerned. A decorator counts by its name, or
by its last attribute; one that is neither has no name. -/
inductive Statement
  | classDef (name : String) (body : List Statement)
  | functionDef (name : String) (decorators : List (Option String))
  | asyncFunctionDef (name : String)
  | other
  deriving Repr

/-- The statements of a source text. -/
structure Outline where
  statements : List Statement
  deriving Repr

/-- Why a source text has no outline. -/
inductive SourceError
  | nullCharacter
  | invalidSyntax (line : Nat) (complaint : String)
  | brokenDown (message : String)
  deriving DecidableEq, Repr

namespace Tree

def nameOf? : Option Tree → String
  | some (leaf token) => Text.compatible token.text
  | _ => ""

def decoratorName? : Tree → Option String
  | leaf token => if token.kind = .name then some (Text.compatible token.text) else none
  | node .member _ children => some (nameOf? children[2]?)
  | node .. => none

mutual

def statement : Tree → Statement
  | node .classDef _ [_, name, _, _, node .block _ body] =>
      .classDef (nameOf? (some name)) (statementsOfAll body)
  | node .functionDef _ children => .functionDef (nameOf? children[1]?) []
  | node .asyncFunctionDef _ children => .asyncFunctionDef (nameOf? children[2]?)
  | node .decorated _ [node _ _ decorators, definition] =>
      match definition.statement with
      | .functionDef name _ => .functionDef name ((partsOfAll decorators).map decoratorName?)
      | statement => statement
  | _ => .other

/-- The outlines of the statements of a block. -/
def statementsOfAll : List Tree → List Statement
  | [] => []
  | node .sequence _ children :: rest => statementsOfAll children ++ statementsOfAll rest
  | tree :: rest => tree.statement :: statementsOfAll rest

end

def outline : Tree → Outline
  | node .module _ (node .sequence _ [node .block _ body] :: _) => ⟨statementsOfAll body⟩
  | _ => ⟨[]⟩

end Tree

/-- The outline of a source text. The interpreter may break down on any text but one with a null
character, which it does not begin to read. -/
def outline [Interpreter] (text : String) : Except SourceError Outline :=
  if text.toList.contains '\x00' then
    .error .nullCharacter
  else
    match Interpreter.sourceBreakdown? text with
    | some message => .error (.brokenDown message)
    | none =>
        match parse text.toList with
        | .ok tree => .ok tree.outline
        | .error line => .error (.invalidSyntax line (Interpreter.sourceComplaint text))

theorem outline_eq_ok_iff [Interpreter] {text : String} {found : Outline} :
    outline text = .ok found ↔ '\x00' ∉ text.toList ∧ Interpreter.sourceBreakdown? text = none ∧
      ∃ tree, parse text.toList = .ok tree ∧ tree.outline = found := by
  unfold outline
  by_cases hnull : '\x00' ∈ text.toList
  · simp [hnull]
  · cases hbreaks : Interpreter.sourceBreakdown? text with
    | some message => simp [hnull]
    | none => cases parse text.toList <;> simp [hnull]

end ProviderGen.Source
