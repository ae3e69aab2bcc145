import ProviderGen.Source.Token

/-!
Syntax trees: tokens at the leaves, and inner nodes labelled with what the rest of the library has
to tell apart. Brackets that only group leave no node.
-/

namespace ProviderGen.Source

/-- What an inner node of a syntax tree stands for. -/
inductive Label
  /-- Repeated, optional or grouped parts. -/
  | sequence
  /-- Anything that nobody asks about. -/
  | plain
  | tuple
  | list
  | starred
  | member
  | element
  | comparison
  | membership
  /-- A keyword argument of a call. -/
  | keywordArgument
  | module
  | block
  | classDef
  | functionDef
  | asyncFunctionDef
  | decorator
  | decorated
  deriving DecidableEq, Repr

/-- A syntax tree. A node knows the line on which it starts. -/
inductive Tree
  | leaf (token : Token)
  | node (label : Label) (line : Nat) (children : List Tree)
  deriving Repr

namespace Tree

def line : Tree → Nat
  | leaf token => token.line
  | node _ line _ => line

/-- Whether a tree is a bare operator, such as a comma or a bracket. -/
def isOperator : Tree → Bool
  | leaf token => token.kind == .operator && token.text != "..."
  | node .. => false

mutual

/-- The parts of a tree: those of a sequence one by one, without operators. -/
def parts : Tree → List Tree
  | leaf token => if isOperator (leaf token) then [] else [leaf token]
  | node .sequence _ children => partsOfAll children
  | node label line children => [node label line children]

/-- The parts of some trees, one after the other. -/
def partsOfAll : List Tree → List Tree
  | [] => []
  | tree :: rest => tree.parts ++ partsOfAll rest

end

inductive Use
  | assignment
  | loop
  | deletion
  deriving DecidableEq, Repr

mutual

/-- The first part of a tree that cannot be a target. A loop's target is followed by `in`, and so
may have been read as a comparison. -/
def invalidTarget? (use : Use) : Tree → Option Tree
  | leaf token => if token.kind = .name then none else some (leaf token)
  | node .sequence _ children => firstInvalidTarget? use children
  | node .tuple _ children => firstInvalidTarget? use children
  | node .list _ children => firstInvalidTarget? use children
  | node .starred line children =>
      if use = .deletion then some (node .starred line children)
      else firstInvalidTarget? use children
  | node .comparison line (left :: pairs) =>
      if use = .loop then
        match pairs with
        | node .sequence _ (node .membership _ _ :: _) :: _ => left.invalidTarget? use
        | _ => none
      else
        some (node .comparison line (left :: pairs))
  | node .member _ _ => none
  | node .element _ _ => none
  | node label line children => some (node label line children)

/-- The first part of some trees that cannot be a target. -/
def firstInvalidTarget? (use : Use) : List Tree → Option Tree
  | [] => none
  | tree :: rest =>
      if tree.isOperator then firstInvalidTarget? use rest
      else (tree.invalidTarget? use).or (firstInvalidTarget? use rest)

end

end Tree

end ProviderGen.Source
