import ProviderGen.Text.Split
import ProviderGen.Value
import ProviderGen.Yaml.Graph

/-!
The value of a document.

First all nodes are checked, those that are nearer to the root before those that are farther, so
that of several errors the first is found. Then the root is unfolded to a tree. As nodes may refer
back to those around them, the tree stops at a depth.
-/

namespace ProviderGen.Yaml

namespace ScalarText

def withoutFillers (text : String) : List Char :=
  text.toList.filter (· ≠ '_')

def parts (text : List Char) : List String :=
  (Text.split ':' text).map String.ofList

/-- The whole number of parts of sixty. -/
def ofSixties (parts : List Int) : Int :=
  parts.foldl (fun value part => value * 60 + part) 0

def integerIn (base : Nat) (text : List Char) : Except DocumentError Int :=
  (Number.readInteger base (String.ofList text)).mapError .integer

def integer (text : String) : Except DocumentError Int := do
  let digits := withoutFillers text
  if digits = [] then
    throw .emptyNumber
  let (negative, digits) := Number.signed digits
  let value ←
    match digits with
    | [] => throw .emptyNumber
    | ['0'] => pure 0
    | '0' :: 'b' :: rest => integerIn 2 rest
    | '0' :: 'x' :: rest => integerIn 16 rest
    | '0' :: _ => integerIn 8 digits
    | _ =>
        if digits.contains ':' then do
          let parts ← (parts digits).mapM fun part => integerIn 10 part.toList
          pure (ofSixties parts)
        else
          integerIn 10 digits
  return if negative then -value else value

/-- A real number without a sign. -/
def plainReal (text : String) : Except DocumentError Binary64 :=
  match Number.readBinary? text with
  | some number => .ok number
  | none => .error (.notNumber text)

/-- The sum of parts of sixty, of which the last is given first. -/
def addSixties : Nat → Binary64 → List Binary64 → Except DocumentError Binary64
  | _, sum, [] => .ok sum
  | weight, sum, part :: parts =>
      match Binary64.ofInt? weight with
      | none => .error .hugeBase
      | some factor => addSixties (weight * 60) (sum.add (part.multiply factor)) parts

def real (text : String) : Except DocumentError Binary64 := do
  let digits := Number.small (withoutFillers text)
  if digits = [] then
    throw .emptyNumber
  let (negative, digits) := Number.signed digits
  if digits = ".nan".toList then
    return .nan
  let size ←
    if digits = ".inf".toList then
      pure (.infinite false)
    else if digits.contains ':' then do
      let parts ← (parts digits).mapM plainReal
      addSixties 1 (.zero false) parts.reverse
    else
      plainReal (String.ofList digits)
  return if negative then size.negate else size

/-- The words for truth values, in small letters. -/
def truthValues : List (String × Bool) :=
  [("yes", true), ("no", false), ("true", true), ("false", false), ("on", true), ("off", false)]

def truth (text : String) : Except DocumentError Bool :=
  let word := String.ofList (Number.small text.toList)
  match truthValues.lookup word with
  | some value => .ok value
  | none => .error (.unknownTruth word)

/-- The value of a digit in base 64. -/
def digit64? (c : Char) : Option Nat :=
  if 'A' ≤ c && c ≤ 'Z' then some (c.toNat - 'A'.toNat)
  else if 'a' ≤ c && c ≤ 'z' then some (c.toNat - 'a'.toNat + 26)
  else if Number.isDigit c then some (c.toNat - '0'.toNat + 52)
  else if c == '+' then some 62
  else if c == '/' then some 63
  else none

/-- The bytes of digits in base 64, after some of a group of four, with the bits that are left of
the last and how many equals signs came after it. Other characters do not count. -/
def bytesFrom : List Char → Nat → Nat → Nat → Option (List UInt8)
  | [], place, _, _ => if place = 0 then some [] else none
  | c :: rest, place, bits, signs =>
      if c == '=' then
        if 2 ≤ place && 4 ≤ place + (signs + 1) then some []
        else bytesFrom rest place bits (if 2 ≤ place then signs + 1 else signs)
      else
        match digit64? c with
        | none => bytesFrom rest place bits signs
        | some digit =>
            let joined := bits * 64 + digit
            match place with
            | 0 => bytesFrom rest 1 digit 0
            | 1 => (bytesFrom rest 2 (digit % 16) 0).map (UInt8.ofNat (joined / 16) :: ·)
            | 2 => (bytesFrom rest 3 (digit % 4) 0).map (UInt8.ofNat (joined / 4) :: ·)
            | _ => (bytesFrom rest 0 0 0).map (UInt8.ofNat joined :: ·)

def bytes (text : String) : Except DocumentError (List UInt8) :=
  if text.toList.all fun c => c.toNat < 0x80 then
    (bytesFrom text.toList 0 0 0).elim (.error .malformed) .ok
  else
    .error .malformed

/-- Checks the date or the time of a scalar. -/
def moment (text : String) : Except DocumentError Unit :=
  let text := text.toList
  let text := if text.getLast? = some '\n' then text.dropLast else text
  match Moment.ofText? text with
  | none => .error .notMoment
  | some moment =>
      match moment.flaw? with
      | some flaw => .error (.moment flaw)
      | none => .ok ()

def value (kind : Kind) (text : String) : Except DocumentError Value :=
  match kind with
  | .null => .ok .null
  | .truth => (truth text).map .truth
  | .integer => (integer text).map .integer
  | .real => (real text).map .real
  | .bytes => (bytes text).map .bytes
  | .moment => (moment text).map fun _ => .other
  | .text => .ok (.text text)
  | _ => .error .malformed

end ScalarText

namespace Graph

def contentOf (graph : Graph) (number : Nat) : Content :=
  (graph[number]?.map (·.content)).getD (.scalar "")

def kindOf (graph : Graph) (number : Nat) : Kind :=
  (graph[number]?.map (·.kind)).getD .unknown

def entriesOf (graph : Graph) (number : Nat) : List (Nat × Nat) :=
  match graph.contentOf number with
  | .mapping entries => entries
  | _ => []

/-- A graph with other entries of a mapping. -/
def setEntries (graph : Graph) (number : Nat) (entries : List (Nat × Nat)) : Graph :=
  graph.modify number fun node => { node with content := .mapping entries }

mutual

/-- Puts the entries of mappings that are merged into a mapping in front of its own. The number
bounds how deep mappings are merged into others. -/
def flatten : Nat → Nat → Graph → Except DocumentError Graph
  | 0, _, graph => .ok graph
  | bound + 1, number, graph => do
      let entries := graph.entriesOf number
      let isMerge := fun (entry : Nat × Nat) => graph.kindOf entry.1 = .merge
      let graph := entries.foldl
        (fun (graph : Graph) (entry : Nat × Nat) =>
          if graph.kindOf entry.1 = .value then
            graph.modify entry.1 fun node => { node with kind := .text }
          else graph)
        graph
      let graph := graph.setEntries number (entries.filter (!isMerge ·))
      let (merged, graph) ← flattenAll bound ((entries.filter isMerge).map (·.2)) graph
      return graph.setEntries number (merged ++ graph.entriesOf number)

/-- The entries of the mappings that nodes stand for. Of those in a sequence, the last come
first. -/
def flattenAll : Nat → List Nat → Graph → Except DocumentError (List (Nat × Nat) × Graph)
  | 0, _, graph => .ok ([], graph)
  | _ + 1, [], graph => .ok ([], graph)
  | bound + 1, number :: numbers, graph => do
      let (here, graph) ←
        match graph.contentOf number with
        | .mapping _ => do
            let graph ← flatten bound number graph
            pure (graph.entriesOf number, graph)
        | .sequence items => flattenItems bound items graph
        | .scalar _ => throw .malformed
      let (others, graph) ← flattenAll bound numbers graph
      return (here ++ others, graph)

/-- The entries of mappings in a sequence, the last first. -/
def flattenItems : Nat → List Nat → Graph → Except DocumentError (List (Nat × Nat) × Graph)
  | 0, _, graph => .ok ([], graph)
  | _ + 1, [], graph => .ok ([], graph)
  | bound + 1, number :: numbers, graph => do
      match graph.contentOf number with
      | .mapping _ =>
          let graph ← flatten bound number graph
          let here := graph.entriesOf number
          let (others, graph) ← flattenItems bound numbers graph
          return (others ++ here, graph)
      | _ => throw .malformed

end

/-- The text that a node counts as. A mapping counts as what its key `=` stands for. -/
def scalarText : Nat → Nat → Graph → Except DocumentError String
  | 0, _, _ => .error .malformed
  | bound + 1, number, graph =>
      match graph.contentOf number with
      | .scalar text => .ok text
      | .sequence _ => .error .malformed
      | .mapping entries =>
          match entries.find? fun entry => graph.kindOf entry.1 = .value with
          | some entry => scalarText bound entry.2 graph
          | none => .error .malformed

def scalarValue (graph : Graph) (number : Nat) : Except DocumentError Value := do
  let kind := graph.kindOf number
  if kind = .unknown || kind = .merge || kind = .value then
    throw .malformed
  ScalarText.value kind (← scalarText (graph.size + 1) number graph)

/-- Whether nodes of a kind hold others. -/
def isCollection (kind : Kind) : Bool :=
  [.pairs, .set, .sequence, .mapping].contains kind

/-- The nodes that have been checked, and those that hold others and are still to be. -/
structure Progress where
  graph : Graph
  known : List Nat
  waiting : List Nat

/-- Meets a node: a scalar is checked at once, a collection is put in line. -/
def meet (progress : Progress) (number : Nat) : Except DocumentError Progress := do
  if progress.known.contains number then
    return progress
  if isCollection (progress.graph.kindOf number) then
    return { progress with
      known := number :: progress.known, waiting := progress.waiting ++ [number] }
  else
    let _ ← progress.graph.scalarValue number
    return { progress with known := number :: progress.known }

/-- Meets an entry, whose key must be no collection. -/
def meetEntry (progress : Progress) (entry : Nat × Nat) : Except DocumentError Progress := do
  let progress ← meet progress entry.1
  if isCollection (progress.graph.kindOf entry.1) then
    throw .malformed
  meet progress entry.2

/-- Meets an item that is a pair: a mapping with one entry. -/
def meetPair (progress : Progress) (item : Nat) : Except DocumentError Progress := do
  match progress.graph.contentOf item with
  | .mapping [entry] => meet (← meet progress entry.1) entry.2
  | _ => throw .malformed

def meetAll (progress : Progress) (number : Nat) : Except DocumentError Progress := do
  match progress.graph.kindOf number, progress.graph.contentOf number with
  | .sequence, .sequence items => items.foldlM meet progress
  | .pairs, .sequence items => items.foldlM meetPair progress
  | .mapping, .mapping _ | .set, .mapping _ =>
      let graph ← flatten (4 * progress.graph.size + 4) number progress.graph
      (graph.entriesOf number).foldlM meetEntry { progress with graph := graph }
  | _, _ => throw .malformed

/-- Meets what the collections in line hold. -/
def meetWaiting : Nat → Progress → Except DocumentError Graph
  | 0, progress => .ok progress.graph
  | bound + 1, progress =>
      match progress.waiting with
      | [] => .ok progress.graph
      | number :: waiting => do
          meetWaiting bound (← meetAll { progress with waiting := waiting } number)

/-- Checks all nodes of a graph that belong to the root. The result has all merging done. -/
def check (graph : Graph) (root : Nat) : Except DocumentError Graph := do
  meetWaiting (graph.size + 1) (← meet ⟨graph, [], []⟩ root)

def keyText? (graph : Graph) (number : Nat) : Option String :=
  match graph.scalarValue number with
  | .ok (.text text) => some text
  | _ => none

/-- The value of a node, down to a depth. -/
def unfold (graph : Graph) : Nat → Nat → Value
  | 0, _ => .other
  | depth + 1, number =>
      match graph.kindOf number, graph.contentOf number with
      | .sequence, .sequence items => .list (items.map (graph.unfold depth))
      | .pairs, .sequence items => .list (items.map fun _ => .other)
      | .mapping, .mapping entries =>
          .mapping (entries.filterMap fun entry =>
            (graph.keyText? entry.1).map fun key => (key, graph.unfold depth entry.2))
      | _, _ => (graph.scalarValue number).toOption.getD .other

end Graph

/-- To which depth values are known. -/
def maxDepth : Nat := 6

def read (text : String) : Except DocumentError Value := do
  match ← Graph.ofText text.toList with
  | (_, none) => return .null
  | (graph, some root) =>
      let graph ← graph.check root
      return graph.unfold maxDepth root

end ProviderGen.Yaml
