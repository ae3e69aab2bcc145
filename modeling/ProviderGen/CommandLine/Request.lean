import ProviderGen.CommandLine.Scope
import ProviderGen.Number.Reading
import ProviderGen.Text.Quoted
import ProviderGen.Text.Search

/-!
Requests: what the arguments of a command line ask for.

The arguments of a scope are sorted into options and operands first. A long option may be shortened
as long as it stays clear, several short ones may be joined, and two dashes end the options.
-/

namespace ProviderGen.CommandLine

/-- What is asked for: where the project is and where its provider goes, and how to go about it. -/
structure Request where
  verbose : Bool
  output : Option String
  project : String
  skipBuild : Bool
  logFile : Option String
  deriving DecidableEq, Repr

/-- What is asked for without any options. -/
def Request.standard : Request := ⟨false, none, ".", false, none⟩

inductive UsageError
  | missing (operand : String)
  | noChoice (operand given choice : String)
  | noValue (switch : Switch)
  | surplusValue (switch : Switch) (value : String)
  | ambiguous (given : String) (names : List String)
  | unrecognized (arguments : List String)
  deriving DecidableEq, Repr

def UsageError.message : UsageError → String
  | missing operand => s!"the following arguments are required: {operand}"
  | noChoice operand given choice =>
      s!"argument {operand}: invalid choice: {Text.quoted given} (choose from " ++
        s!"{Text.quoted choice})"
  | noValue switch => s!"argument {name switch}: expected one argument"
  | surplusValue switch value =>
      s!"argument {name switch}: ignored explicit argument {Text.quoted value}"
  | ambiguous given names =>
      s!"ambiguous option: {given} could match {list names}"
  | unrecognized arguments => s!"unrecognized arguments: {words arguments}"
where
  name (switch : Switch) : String := "/".intercalate switch.names
  list (names : List String) : String := ", ".intercalate names
  words (arguments : List String) : String := " ".intercalate arguments

/-- Why arguments ask for nothing: the help text is wanted, or something is wrong with them. -/
inductive Refusal
  | help (scope : Scope)
  | usage (scope : Scope) (error : UsageError)
  deriving DecidableEq, Repr

/-- What an argument is: an option with its name and a value that is part of the argument, an option
that the scope does not have, an operand, or the two dashes. -/
inductive ArgumentKind
  | switch (switch : Switch) (name : String) (value : Option String)
  | unknown
  | operand
  | dashes
  deriving DecidableEq, Repr

structure Argument where
  text : String
  kind : ArgumentKind
  deriving DecidableEq, Repr

/-- A text cut at its first equals sign. -/
def cutValue (text : List Char) : List Char × Option (List Char) :=
  (text.takeWhile (· ≠ '='), ((text.dropWhile (· ≠ '=')).tail?))

/-- The options that a shortened name may mean, with the values given. -/
def abbreviated (scope : Scope) (text : List Char) : List (Switch × String × Option String) :=
  match text with
  | '-' :: '-' :: _ =>
      let (start, value) := cutValue text
      scope.switchNames.filterMap fun (name, switch) =>
        if start.isPrefixOf name.toList then some (switch, name, value.map String.ofList) else none
  | first :: second :: rest =>
      scope.switchNames.filterMap fun (name, switch) =>
        if name.toList = [first, second] then some (switch, name, some (String.ofList rest))
        else if text.isPrefixOf name.toList then some (switch, name, none)
        else none
  | _ => []

/-- Whether a text is a negative number in plain digits. -/
def isNegativeNumber (text : List Char) : Bool :=
  match text with
  | '-' :: rest =>
      let fraction := (rest.dropWhile Text.isDecimalDigit).drop 1
      (rest ≠ [] && rest.all Text.isDecimalDigit) ||
        ((rest.dropWhile Text.isDecimalDigit).head? = some '.' && fraction ≠ [] &&
          fraction.all Text.isDecimalDigit)
  | _ => false

/-- What an argument in front of the two dashes is. -/
def kindOf (scope : Scope) (argument : String) : Except UsageError ArgumentKind :=
  let text := argument.toList
  if text.head? ≠ some '-' then
    .ok .operand
  else
    match scope.switchNames.lookup argument with
    | some switch => .ok (.switch switch argument none)
    | none =>
        if text.length = 1 then
          .ok .operand
        else
          let (start, value) := cutValue text
          match value, scope.switchNames.lookup (String.ofList start) with
          | some value, some switch =>
              .ok (.switch switch (String.ofList start) (some (String.ofList value)))
          | _, _ =>
              match abbreviated scope text with
              | [(switch, name, value)] => .ok (.switch switch name value)
              | [] =>
                  if isNegativeNumber text || text.contains ' ' then .ok .operand
                  else .ok .unknown
              | several => .error (.ambiguous argument (several.map (·.2.1)))

def sort (scope : Scope) : List String → Except UsageError (List Argument)
  | [] => .ok []
  | argument :: rest =>
      -- All that follows two dashes are operands.
      if argument = "--" then
        .ok (⟨argument, .dashes⟩ :: rest.map (⟨·, .operand⟩))
      else do
        return ⟨argument, ← kindOf scope argument⟩ :: (← sort scope rest)

/-- The options that are joined in an argument: the given one and those in the value after it. -/
def joined (scope : Scope) (switch : Switch) : List Char → Except UsageError (List Switch)
  | [] => .ok [switch]
  | c :: rest =>
      match scope.switchNames.lookup (String.ofList ['-', c]) with
      | some next => (joined scope next rest).map (switch :: ·)
      | none => .error (.surplusValue switch (String.ofList (c :: rest)))

/-- The options of an argument that takes no other as its value. -/
def switchesOf (scope : Scope) (switch : Switch) (name : String) :
    Option String → Except UsageError (List Switch)
  | none => .ok [switch]
  | some value =>
      if name.length = 2 && value ≠ "" then joined scope switch value.toList
      else .error (.surplusValue switch value)

namespace Request

/-- A request with an option set; none if that asks for help. -/
def set? (request : Request) (switch : Switch) (value : String) : Option Request :=
  match switch with
  | .help => none
  | .verbose => some { request with verbose := true }
  | .project => some { request with project := value }
  | .skipBuild => some { request with skipBuild := true }
  | .logFile => some { request with logFile := some value }

/-- A request with options set that take no value. -/
def setAll (scope : Scope) (request : Request) : List Switch → Except Refusal Request
  | [] => .ok request
  | switch :: switches =>
      match request.set? switch "" with
      | some request => setAll scope request switches
      | none => .error (.help scope)

/-- A request with an option set whose value is given. -/
def setValue (scope : Scope) (request : Request) (switch : Switch) (value : String) :
    Except Refusal Request :=
  (request.set? switch value).elim (.error (.help scope)) .ok

end Request

/-- What has been asked for, and the arguments that nothing could be made of. -/
structure Asked where
  request : Request
  extras : List String
  deriving DecidableEq, Repr

namespace Asked

/-- One more argument that nothing can be made of. -/
def extra (asked : Asked) (argument : String) : Asked :=
  { asked with extras := asked.extras ++ [argument] }

/-- An option without a value of its own among the arguments that follow. -/
def switch (scope : Scope) (asked : Asked) (switch : Switch) (name : String)
    (value : Option String) : Except Refusal Asked := do
  let request ←
    match switch.takesValue, value with
    | true, some value => asked.request.setValue scope switch value
    | _, value => do
        let switches ← (switchesOf scope switch name value).mapError (.usage scope)
        asked.request.setAll scope switches
  return { asked with request := request }

end Asked

/-- What the arguments of the innermost scope ask for. Its operand may be left out; `taken` says
whether it was given. -/
def askModels : Asked → Bool → List Argument → Except Refusal Asked
  | asked, _, [] => .ok asked
  | asked, taken, ⟨_, .switch switch name none⟩ :: rest =>
      if switch.takesValue then
        match rest with
        | ⟨value, .operand⟩ :: rest => do
            let request ← asked.request.setValue .models switch value
            askModels { asked with request := request } taken rest
        | _ => .error (.usage .models (.noValue switch))
      else do
        askModels (← asked.switch .models switch name none) taken rest
  | asked, taken, ⟨_, .switch switch name (some value)⟩ :: rest => do
      askModels (← asked.switch .models switch name (some value)) taken rest
  | asked, taken, ⟨text, .unknown⟩ :: rest => askModels (asked.extra text) taken rest
  | asked, taken, ⟨text, .operand⟩ :: rest =>
      if taken then
        askModels (asked.extra text) taken rest
      else
        let asked := { asked with request := { asked.request with output := some text } }
        -- Dashes right behind the operand go with it.
        match rest with
        | ⟨_, .dashes⟩ :: rest => askModels asked true rest
        | rest => askModels asked true rest
  | asked, taken, ⟨text, .dashes⟩ :: rest =>
      askModels (if taken then asked.extra text else asked) taken rest

/-- What the arguments of a scope ask for whose operand is a choice. The arguments after the operand
belong to the scope inside. -/
def askChoice (scope : Scope) (operand choice : String)
    (inside : Asked → List String → Except Refusal Asked) :
    Asked → List Argument → Except Refusal Asked
  | _, [] => .error (.usage scope (.missing operand))
  | asked, ⟨_, .switch switch name value⟩ :: rest => do
      askChoice scope operand choice inside (← asked.switch scope switch name value) rest
  | asked, ⟨text, .unknown⟩ :: rest =>
      askChoice scope operand choice inside (asked.extra text) rest
  | asked, ⟨text, .operand⟩ :: rest =>
      if text = choice then inside asked (rest.map (·.text))
      else .error (.usage scope (.noChoice operand text choice))
  | _, ⟨text, .dashes⟩ :: rest =>
      if rest = [] then .error (.usage scope (.missing operand))
      else .error (.usage scope (.noChoice operand text choice))

/-- What the arguments after the target ask for. -/
def inModels (asked : Asked) (arguments : List String) : Except Refusal Asked := do
  let sorted ← (sort .models arguments).mapError (.usage .models)
  askModels asked false sorted

/-- What the arguments after the command ask for. -/
def inGenerate (asked : Asked) (arguments : List String) : Except Refusal Asked := do
  let sorted ← (sort .generate arguments).mapError (.usage .generate)
  askChoice .generate "target" "models" inModels asked sorted

def ask (arguments : List String) : Except Refusal Request := do
  let sorted ← (sort .program arguments).mapError (.usage .program)
  let asked ← askChoice .program "command" "generate" inGenerate ⟨.standard, []⟩ sorted
  if asked.extras = [] then
    return asked.request
  else
    throw (.usage .program (.unrecognized asked.extras))

end ProviderGen.CommandLine
