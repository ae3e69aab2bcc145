import ProviderGen.Disk.Access
import ProviderGen.Shell.Printing

namespace ProviderGen.Shell

/-- Why a condition is neither true nor false. -/
inductive ConditionError
  | notNumber (text : String)
  | missingArgument (text : String)
  | surplus (text : String)
  deriving DecidableEq, Repr

def ConditionError.message : ConditionError → String
  | notNumber text => s!"Illegal number: {text}"
  | missingArgument text => s!"{text}: argument expected"
  | surplus text => s!"{text}: unexpected operator"

/-- Whether a file is as an operator says; none if there is no such operator. -/
def fileTest? (disk : Disk) (operator path : String) : Option Bool :=
  let place := disk.locate (Path.ofString path)
  let node := match place with
    | .ok place => place.node
    | .error _ => none
  match operator with
  | "-e" | "-r" | "-w" => some node.isSome
  | "-d" | "-x" => some (node.any Node.isDirectory)
  | "-f" => some (node.any fun node => !node.isDirectory)
  | "-s" =>
      match node with
      | some (.file []) | none => some false
      | some _ => some true
  | "-h" | "-L" =>
      match disk.locateItself (Path.ofString path) with
      | .ok ⟨_, some (.link _)⟩ => some true
      | _ => some false
  | _ => none

/-- Whether a text is as an operator says; none if there is no such operator. -/
def unaryTest? (disk : Disk) (operator text : String) : Option Bool :=
  match operator with
  | "-n" => some (text ≠ "")
  | "-z" => some (text = "")
  | operator => fileTest? disk operator text

/-- How an operator compares two numbers; none if there is no such operator. -/
def comparison? (operator : String) : Option (Int → Int → Bool) :=
  match operator with
  | "-eq" => some (· = ·)
  | "-ne" => some (· ≠ ·)
  | "-lt" => some (· < ·)
  | "-le" => some (· ≤ ·)
  | "-gt" => some fun a b => b < a
  | "-ge" => some fun a b => b ≤ a
  | _ => none

def operandValue (text : String) : Except ConditionError Int :=
  match (text.toList.dropWhile (· = ' ')) with
  | '-' :: digits => (Arithmetic.digitsValue? 10 digits).elim (.error (.notNumber text)) (.ok ∘ (- ·))
  | '+' :: digits => (Arithmetic.digitsValue? 10 digits).elim (.error (.notNumber text)) .ok
  | digits => (Arithmetic.digitsValue? 10 digits).elim (.error (.notNumber text)) .ok

/-- What an operator between two operands says; none if there is no such operator. -/
def binaryTest? (operator left right : String) : Option (Except ConditionError Bool) :=
  match operator with
  | "=" => some (.ok (left = right))
  | "!=" => some (.ok (left ≠ right))
  | operator => (comparison? operator).map fun compare => do
      return compare (← operandValue left) (← operandValue right)

mutual

/-- Whether the single condition that comes first holds, and what follows it. -/
def singleCondition (disk : Disk) :
    Nat → List String → Except ConditionError (Bool × List String)
  | bound + 1, left :: operator :: right :: rest =>
      match binaryTest? operator left right with
      | some result => result.map (·, rest)
      | none => shortCondition disk bound (left :: operator :: right :: rest)
  | bound + 1, words => shortCondition disk bound words
  | 0, _ => .error (.missingArgument "test")

/-- The same for a condition that is no comparison. -/
def shortCondition (disk : Disk) :
    Nat → List String → Except ConditionError (Bool × List String)
  | bound + 1, "!" :: next :: rest => do
      let (holds, rest) ← singleCondition disk bound (next :: rest)
      return (!holds, rest)
  | bound + 1, "(" :: next :: rest => do
      let (holds, rest) ← anyCondition disk bound (next :: rest)
      match rest with
      | ")" :: rest => return (holds, rest)
      | _ => throw (.missingArgument ")")
  | _ + 1, operator :: text :: rest =>
      match unaryTest? disk operator text with
      | some holds => .ok (holds, rest)
      | none => .ok (operator ≠ "", text :: rest)
  | _ + 1, [text] => .ok (text ≠ "", [])
  | _, _ => .error (.missingArgument "test")

/-- Whether one of the conditions that come first holds, where `-a` binds more strongly. -/
def anyCondition (disk : Disk) :
    Nat → List String → Except ConditionError (Bool × List String)
  | 0, _ => .error (.missingArgument "test")
  | bound + 1, words => do
      let (first, rest) ← allConditions disk bound words
      match rest with
      | "-o" :: rest =>
          let (second, rest) ← anyCondition disk bound rest
          return (first || second, rest)
      | rest => return (first, rest)

/-- Whether all of the conditions that come first and are joined by `-a` hold. -/
def allConditions (disk : Disk) :
    Nat → List String → Except ConditionError (Bool × List String)
  | 0, _ => .error (.missingArgument "test")
  | bound + 1, words => do
      let (first, rest) ← singleCondition disk bound words
      match rest with
      | "-a" :: rest =>
          let (second, rest) ← allConditions disk bound rest
          return (first && second, rest)
      | rest => return (first, rest)

end

/-- Whether the condition of some words holds. -/
def condition (disk : Disk) (words : List String) : Except ConditionError Bool := do
  if words = [] then
    return false
  let (holds, rest) ← anyCondition disk (4 * (words.length + 1)) words
  match rest with
  | [] => return holds
  | word :: _ => throw (.surplus word)

end ProviderGen.Shell
