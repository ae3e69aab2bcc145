namespace ProviderGen.Shell

/-- What is made of the value of a variable. -/
inductive Use
  | value
  | length
  | fallback (whenEmpty : Bool) (word : String)
  | assigned (whenEmpty : Bool) (word : String)
  | alternative (whenEmpty : Bool) (word : String)
  | demanded (whenEmpty : Bool) (message : String)
  | withoutStart (longest : Bool) (pattern : String)
  | withoutEnd (longest : Bool) (pattern : String)
  deriving DecidableEq, Repr

/-- A part of a word. What is quoted is neither cut into fields nor taken as a pattern. -/
inductive Part
  | text (quoted : Bool) (text : String)
  | variable (quoted : Bool) (name : String) (use : Use)
  | command (quoted : Bool) (script : String)
  | arithmetic (quoted : Bool) (expression : String)
  deriving DecidableEq, Repr

abbrev Word := List Part

inductive Stream
  | input
  | output
  | errors
  deriving DecidableEq, Repr

inductive Direction
  | source (file : Word)
  | target (file : Word)
  | appended (file : Word)
  | document (text : Word)
  | same (stream : Stream)
  | closed
  deriving DecidableEq, Repr

/-- A stream led elsewhere. -/
structure Redirection where
  stream : Stream
  direction : Direction
  deriving DecidableEq, Repr

/-- A command on its own: variables that are set for it, and its words. -/
structure Simple where
  line : Nat
  assignments : List (String × Word)
  words : List Word
  redirections : List Redirection
  deriving DecidableEq, Repr

inductive Command
  | nothing
  | simple (simple : Simple)
  | sequence (first second : Command)
  | both (first second : Command)
  | either (first second : Command)
  | negation (command : Command)
  | pipe (first second : Command)
  | background (command : Command)
  | group (command : Command) (redirections : List Redirection)
  | subshell (command : Command)
  | choice (condition whenTrue whenFalse : Command)
  | loop (expected : Bool) (condition body : Command)
  | branch (word : Word) (patterns : List Word) (body otherwise : Command)
  | function (name : String) (body : Command)
  | forEach (name : String) (words : Option (List Word)) (body : Command)
  deriving DecidableEq, Repr

end ProviderGen.Shell
