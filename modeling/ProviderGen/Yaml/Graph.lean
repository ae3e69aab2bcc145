import ProviderGen.Yaml.Lexer
import ProviderGen.Yaml.Shape

/-!
The nodes of a document. An alias stands for the node that has its anchor, which may be one that it
is part of, so that nodes refer to each other by number.
-/

namespace ProviderGen.Yaml

/-- What a node holds: a text, or the numbers of other nodes. -/
inductive Content
  | scalar (text : String)
  | sequence (items : List Nat)
  | mapping (entries : List (Nat × Nat))
  deriving DecidableEq, Repr

structure GraphNode where
  kind : Kind
  content : Content
  deriving DecidableEq, Repr

/-- The nodes of a document by their numbers. -/
abbrev Graph := Array GraphNode

namespace Graph

/-- What is known while nodes are put together: the tokens ahead, the error after them, the nodes,
the anchors, and the handles of tags. -/
structure Composer where
  tokens : List Token
  fault : Option DocumentError
  nodes : Graph
  anchors : List (String × Nat)
  handles : List (String × String)

/-- A step of putting nodes together. -/
abbrev Composing := StateT Composer (Except DocumentError)

/-- Fails because of the form of the document. -/
def malformed {α : Type} : Composing α := throw .malformed

def peek : Composing Token := do
  let composer ← get
  match composer.tokens with
  | token :: _ => return token
  | [] => throw (composer.fault.getD .malformed)

/-- Goes past the next token. -/
def drop : Composing Unit :=
  modify fun composer => { composer with tokens := composer.tokens.drop 1 }

/-- Goes past the next token if it is the given one. -/
def accept (token : Token) : Composing Bool := do
  if (← peek) = token then
    drop
    return true
  else
    return false

/-- Whether the next token is one of some. -/
def isNext (tokens : List Token) : Composing Bool := do
  return tokens.contains (← peek)

def add (node : GraphNode) : Composing Nat := do
  let composer ← get
  set { composer with nodes := composer.nodes.push node }
  return composer.nodes.size

/-- Gives a node its content. -/
def fill (number : Nat) (content : Content) : Composing Unit :=
  modify fun composer =>
    { composer with nodes := composer.nodes.modify number fun node =>
        { node with content := content } }

/-- A new node that an anchor stands for, if there is one. No two nodes have the same anchor. -/
def addNamed (anchor : Option String) (node : GraphNode) : Composing Nat := do
  let known := (← get).anchors
  match anchor with
  | none => add node
  | some anchor =>
      if (known.lookup anchor).isSome then
        malformed
      let number ← add node
      modify fun composer => { composer with anchors := (anchor, number) :: known }
      return number

/-- A node for what is left out. -/
def empty : Composing Nat := add ⟨.null, .scalar ""⟩

/-- The anchor and the tag in front of a node, in any order. -/
def properties : Composing (Option String × Option (Option String × String)) := do
  match ← peek with
  | .anchor anchor =>
      drop
      match ← peek with
      | .tag handle suffix =>
          drop
          return (some anchor, some (handle, suffix))
      | _ => return (some anchor, none)
  | .tag handle suffix =>
      drop
      match ← peek with
      | .anchor anchor =>
          drop
          return (some anchor, some (handle, suffix))
      | _ => return (none, some (handle, suffix))
  | _ => return (none, none)

/-- The whole tag of a handle and a suffix. -/
def resolveTag : Option (Option String × String) → Composing (Option String)
  | none => return none
  | some (none, suffix) => return some suffix
  | some (some handle, suffix) => do
      match (← get).handles.lookup handle with
      | some start => return some (start ++ suffix)
      | none => malformed

def noTag : String := "!"

def collectionKind (tag : Option String) (kind : Kind) : Kind :=
  match tag with
  | none => kind
  | some tag => if tag = noTag then kind else .ofTag tag

def scalarKind (tag : Option String) (text : String) (plain : Bool) : Kind :=
  match tag with
  | none => if plain then .ofPlain text else .text
  | some tag => if tag = noTag then .ofPlain text else .ofTag tag

mutual

/-- Puts together a node. Collections by indentation are allowed if `block` holds, and a sequence
that is not indented if `loose` does. The number bounds the depth of the search. -/
def compose : Nat → Bool → Bool → Composing Nat
  | 0, _, _ => malformed
  | bound + 1, block, loose => do
      match ← peek with
      | .alias name =>
          drop
          match (← get).anchors.lookup name with
          | some number => return number
          | none => malformed
      | _ =>
          let (anchor, tag) ← properties
          let tag ← resolveTag tag
          let token ← peek
          if loose && token = .blockEntry then
            let number ← addNamed anchor ⟨collectionKind tag .sequence, .sequence []⟩
            fill number (.sequence (← looseItems bound))
            return number
          else
            match token with
            | .scalar text plain =>
                drop
                addNamed anchor ⟨scalarKind tag text plain, .scalar text⟩
            | .flowSequenceStart =>
                drop
                let number ← addNamed anchor ⟨collectionKind tag .sequence, .sequence []⟩
                fill number (.sequence (← flowItems bound true))
                return number
            | .flowMappingStart =>
                drop
                let number ← addNamed anchor ⟨collectionKind tag .mapping, .mapping []⟩
                fill number (.mapping (← flowEntries bound true))
                return number
            | _ =>
                if block && token = .blockSequenceStart then
                  drop
                  let number ← addNamed anchor ⟨collectionKind tag .sequence, .sequence []⟩
                  fill number (.sequence (← blockItems bound))
                  return number
                else if block && token = .blockMappingStart then
                  drop
                  let number ← addNamed anchor ⟨collectionKind tag .mapping, .mapping []⟩
                  fill number (.mapping (← blockEntries bound))
                  return number
                else if anchor.isSome || tag.isSome then
                  addNamed anchor ⟨scalarKind tag "" true, .scalar ""⟩
                else
                  malformed

/-- Puts together a node unless one of some tokens is next, which leaves it out. -/
def composeUnless : Nat → List Token → Bool → Bool → Composing Nat
  | 0, _, _, _ => malformed
  | bound + 1, tokens, block, loose => do
      if ← isNext tokens then empty else compose bound block loose

/-- The items of a sequence by indentation. -/
def blockItems : Nat → Composing (List Nat)
  | 0 => malformed
  | bound + 1 => do
      if ← accept .blockEntry then
        let item ← composeUnless bound [.blockEntry, .blockEnd] true false
        return item :: (← blockItems bound)
      else if ← accept .blockEnd then
        return []
      else
        malformed

/-- The items of a sequence that is not indented. -/
def looseItems : Nat → Composing (List Nat)
  | 0 => malformed
  | bound + 1 => do
      if ← accept .blockEntry then
        let item ← composeUnless bound [.blockEntry, .key, .value, .blockEnd] true false
        return item :: (← looseItems bound)
      else
        return []

/-- The entries of a mapping by indentation. -/
def blockEntries : Nat → Composing (List (Nat × Nat))
  | 0 => malformed
  | bound + 1 => do
      let ends := [.key, .value, .blockEnd]
      if ← accept .key then
        let key ← composeUnless bound ends true true
        let value ← if ← accept .value then composeUnless bound ends true true else empty
        return (key, value) :: (← blockEntries bound)
      else if ← accept .blockEnd then
        return []
      else
        malformed

/-- The items of a sequence in brackets. An item may be a mapping of one entry. -/
def flowItems : Nat → Bool → Composing (List Nat)
  | 0, _ => malformed
  | bound + 1, first => do
      if ← accept .flowSequenceEnd then
        return []
      else
        if !first && !(← accept .flowEntry) then
          malformed
        if ← accept .key then
          let number ← add ⟨.mapping, .mapping []⟩
          let key ← composeUnless bound [.value, .flowEntry, .flowSequenceEnd] false false
          let value ←
            if ← accept .value then composeUnless bound [.flowEntry, .flowSequenceEnd] false false
            else empty
          fill number (.mapping [(key, value)])
          return number :: (← flowItems bound false)
        else if ← accept .flowSequenceEnd then
          return []
        else
          let item ← compose bound false false
          return item :: (← flowItems bound false)

/-- The entries of a mapping in braces. -/
def flowEntries : Nat → Bool → Composing (List (Nat × Nat))
  | 0, _ => malformed
  | bound + 1, first => do
      if ← accept .flowMappingEnd then
        return []
      else
        if !first && !(← accept .flowEntry) then
          malformed
        if ← accept .key then
          let key ← composeUnless bound [.value, .flowEntry, .flowMappingEnd] false false
          let value ←
            if ← accept .value then composeUnless bound [.flowEntry, .flowMappingEnd] false false
            else empty
          return (key, value) :: (← flowEntries bound false)
        else if ← accept .flowMappingEnd then
          return []
        else
          let key ← compose bound false false
          return (key, ← empty) :: (← flowEntries bound false)

end

/-- The handles that are always known. -/
def standardHandles : List (String × String) := [("!", "!"), ("!!", standardTags)]

/-- The directives in front of a document: whether its version is given, and its handles. -/
def directives : Nat → Bool → List (String × String) → Composing (List (String × String))
  | 0, _, _ => malformed
  | bound + 1, versioned, handles => do
      match ← peek with
      | .directive directive =>
          drop
          match directive with
          | .version major =>
              if versioned || major ≠ 1 then malformed
              directives bound true handles
          | .tagHandle handle start =>
              if (handles.lookup handle).isSome then malformed
              directives bound versioned ((handle, start) :: handles)
          | .unknown => directives bound versioned handles
      | _ => return handles

/-- Goes past marks of the ends of documents. -/
def dropEnds : Nat → Composing Unit
  | 0 => malformed
  | bound + 1 => do
      if ← accept .documentEnd then dropEnds bound

/-- Whether the next token lets a document begin without a mark. -/
def startsBare : Token → Bool
  | .directive _ | .documentStart | .streamEnd => false
  | _ => true

/-- Whether the next token ends a document that has no content. -/
def endsEmpty : Token → Bool
  | .documentEnd => true
  | token => !startsBare token

/-- The root of a document that begins with a mark, if there is a document. -/
def composeMarked (bound : Nat) : Composing (Option Nat) := do
  dropEnds bound
  if ← isNext [.streamEnd] then
    return none
  let handles ← directives bound false []
  modify fun composer => { composer with handles := handles ++ standardHandles }
  if !(← accept .documentStart) then
    malformed
  if endsEmpty (← peek) then
    return some (← empty)
  else
    return some (← compose bound true false)

/-- The root of the only document of a text, if there is one. -/
def composeSingle (bound : Nat) : Composing (Option Nat) := do
  let root ←
    if startsBare (← peek) then
      pure (some (← compose bound true false))
    else
      composeMarked bound
  dropEnds bound
  if ← isNext [.streamEnd] then return root else malformed

/-- Whether a character may occur in a document. -/
def isReadable (c : Char) : Bool :=
  let n := c.toNat
  n == 0x9 || n == 0xa || n == 0xd || (0x20 ≤ n && n ≤ 0x7e) || n == 0x85 ||
    (0xa0 ≤ n && n ≤ 0xd7ff) || (0xe000 ≤ n && n ≤ 0xfffd) || 0x10000 ≤ n

/-- The nodes of a text, and the number of the root if there is one. -/
def ofText (text : List Char) : Except DocumentError (Graph × Option Nat) :=
  if !text.all isReadable then
    .error .malformed
  else
    let (tokens, fault) := tokens text
    let bound := 4 * tokens.length + 16
    match (composeSingle bound).run ⟨tokens, fault, #[], [], standardHandles⟩ with
    | .ok (root, composer) => .ok (composer.nodes, root)
    | .error error => .error error

end Graph

end ProviderGen.Yaml
