/-!
Trees of files. A directory holds its entries in the order of their names, so that a tree is its
own listing.
-/

namespace ProviderGen

/-- What stands at a place on a disk. -/
inductive Node
  | file (content : List UInt8)
  | directory (entries : List (String × Node))
  | link (target : String)
  deriving Repr

namespace Node

def isDirectory : Node → Bool
  | directory _ => true
  | _ => false

/-- The entry of a name among entries. -/
def child? (name : String) : List (String × Node) → Option Node
  | [] => none
  | (other, node) :: rest => if other = name then some node else child? name rest

/-- Entries with the one of a name set. -/
def putEntry (name : String) (node : Node) : List (String × Node) → List (String × Node)
  | [] => [(name, node)]
  | (other, old) :: rest =>
      if name = other then (name, node) :: rest
      else if name < other then (name, node) :: (other, old) :: rest
      else (other, old) :: putEntry name node rest

/-- Entries without the one of a name. -/
def removeEntry (name : String) : List (String × Node) → List (String × Node)
  | [] => []
  | (other, node) :: rest =>
      if other = name then rest else (other, node) :: removeEntry name rest

/-- The node at the end of some names. Links are not followed. -/
def find? : Node → List String → Option Node
  | node, [] => some node
  | directory entries, name :: names =>
      match child? name entries with
      | some node => node.find? names
      | none => none
  | _, _ :: _ => none

/-- A tree with the node at the end of some names set, where their directories exist. -/
def put : Node → List String → Node → Node
  | _, [], new => new
  | directory entries, [name], new => directory (putEntry name new entries)
  | directory entries, name :: names, new =>
      match child? name entries with
      | some node => directory (putEntry name (node.put names new) entries)
      | none => directory entries
  | node, _ :: _, _ => node

/-- A tree without the node at the end of some names. -/
def remove : Node → List String → Node
  | node, [] => node
  | directory entries, [name] => directory (removeEntry name entries)
  | directory entries, name :: names =>
      match child? name entries with
      | some node => directory (putEntry name (node.remove names) entries)
      | none => directory entries
  | node, _ :: _ => node

end Node

end ProviderGen
