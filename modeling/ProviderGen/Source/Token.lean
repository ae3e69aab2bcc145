namespace ProviderGen.Source

/-- The kinds of tokens. Line ends and changes of indentation are tokens of their own. -/
inductive TokenKind
  | name
  | keyword
  | number
  | string
  | operator
  | newline
  | indent
  | dedent
  | finish
  deriving DecidableEq, Repr

/-- A token: its kind, its text, the line it starts on, and how many brackets are open after it. -/
structure Token where
  kind : TokenKind
  text : String
  line : Nat
  depth : Nat
  deriving DecidableEq, Repr

/-- The point at which a text stops being a sequence of tokens.

`line` is reported when the grammar reaches the fault. A `certain` fault is also reported in place
of an error of grammar before it. `openLine` is the line of the innermost open bracket. -/
structure Fault where
  line : Nat
  certain : Bool
  openLine : Option Nat
  deriving DecidableEq, Repr

/-- The tokens of a text, up to its end or up to a fault. -/
structure TokenStream where
  tokens : List Token
  fault : Option Fault
  deriving DecidableEq, Repr

end ProviderGen.Source
