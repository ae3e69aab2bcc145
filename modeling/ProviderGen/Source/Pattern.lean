import ProviderGen.Source.Tree

/-!
Parsing expressions: the right-hand sides of a grammar whose alternatives are tried in order, where
the first that matches is taken. Alternatives for common mistakes do not build a tree: they say
where the mistake is.
-/

namespace ProviderGen.Source

inductive Terminal
  /-- A keyword or an operator. -/
  | word (text : String)
  /-- A name that acts as a keyword here. -/
  | softWord (text : String)
  /-- Any name that begins a name that acts as a keyword somewhere. -/
  | anySoftWord
  | kind (kind : TokenKind)
  /-- A comment with a type, which is read as any other comment and so never found. -/
  | typeComment
  deriving DecidableEq, Repr

/-- The names that act as keywords somewhere. -/
def softWords : List String := ["_", "case", "match"]

/-- Whether a name begins a name that acts as a keyword somewhere, or is one. -/
def beginsSoftWord (name : String) : Bool :=
  softWords.any fun word => name.toList.isPrefixOf word.toList

/-- Whether a token is what a terminal asks for. -/
def Terminal.accepts (terminal : Terminal) (token : Token) : Bool :=
  match terminal with
  | word text => (token.kind == .keyword || token.kind == .operator) && token.text == text
  | softWord text => token.kind == .name && token.text == text
  | anySoftWord => token.kind == .name && beginsSoftWord token.text
  | kind k => token.kind == k
  | typeComment => false

/-- What an alternative for a mistake says of the parts that it matched. -/
inductive Verdict
  /-- It is no mistake after all. -/
  | decline
  /-- The mistake is on this line. -/
  | blame (line : Nat)
  /-- The mistake is on the line of the last token read. -/
  | blameLast

/-- What becomes of the parts that an alternative matched. -/
inductive Outcome
  /-- A node of its own. -/
  | node (label : Label)
  /-- The part with this index alone. -/
  | inner (index : Nat)
  /-- The part with this index, if it passes a check; else the mistake is there. -/
  | checked (index : Nat) (check : Tree → Bool)
  /-- Adjacent strings, which have to fit together. -/
  | strings
  /-- A mistake, judged by the parts and the last token matched. -/
  | mistake (judge : List Tree → Token → Verdict)

mutual

/-- A parsing expression over the rules of a grammar. -/
inductive Pattern (ρ : Type)
  | token (terminal : Terminal)
  /-- A token without which the text is wrong, whatever other alternatives there are. -/
  | forced (terminal : Terminal)
  | rule (name : ρ)
  | optional (pattern : Pattern ρ)
  /-- Any number of times. -/
  | many (pattern : Pattern ρ)
  /-- Once or more. -/
  | many1 (pattern : Pattern ρ)
  /-- Once or more, with a separator in between. -/
  | separated (separator : Terminal) (pattern : Pattern ρ)
  | ahead (pattern : Pattern ρ)
  | notAhead (pattern : Pattern ρ)
  | choice (alternatives : List (Alternative ρ))

/-- One alternative: parts that are matched in a row. Once the first parts match and there are
`committed` ones, no later alternative is tried. A `diagnostic` alternative is tried only when the
text is known to be wrong. -/
inductive Alternative (ρ : Type)
  | mk (diagnostic : Bool) (items committed : List (Pattern ρ)) (outcome : Outcome)

end

/-- How the results of a rule are kept. -/
inductive Keeping
  | fresh
  | remembered
  /-- The rule starts with itself; its match grows from the alternatives that do not. -/
  | leftRecursive
  deriving DecidableEq, Repr

structure Production (ρ : Type) where
  keeping : Keeping
  alternatives : List (Alternative ρ)
  /-- Whether mistakes are left out of what is tried below the rule. -/
  silent : Bool := false

variable {ρ : Type}

instance : Coe String (Pattern ρ) := ⟨fun text => .token (.word text)⟩

namespace Pattern

def ofKind (kind : TokenKind) : Pattern ρ := .token (.kind kind)

def name : Pattern ρ := .ofKind .name

def number : Pattern ρ := .ofKind .number

/-- A string, bytes or formatted string. -/
def string : Pattern ρ := .ofKind .string

/-- The end of a logical line. -/
def newline : Pattern ρ := .ofKind .newline

def indent : Pattern ρ := .ofKind .indent

def dedent : Pattern ρ := .ofKind .dedent

/-- A name that acts as a keyword. -/
def soft (text : String) : Pattern ρ := .token (.softWord text)

/-- A word without which the text is wrong. -/
def must (text : String) : Pattern ρ := .forced (.word text)

/-- Once or more, with commas in between. -/
def commas (pattern : Pattern ρ) : Pattern ρ := .separated (.word ",") pattern

def group (items : List (Pattern ρ)) : Pattern ρ := .choice [.mk false items [] (.node .sequence)]

/-- Parts in a row, of which only one is kept. -/
def keep (index : Nat) (items : List (Pattern ρ)) : Pattern ρ :=
  .choice [.mk false items [] (.inner index)]

/-- The first of some patterns that matches. -/
def oneOf (patterns : List (Pattern ρ)) : Pattern ρ :=
  .choice (patterns.map fun pattern => .mk false [pattern] [] (.inner 0))

def anyWord (words : List String) : Pattern ρ :=
  .oneOf (words.map fun text => .token (.word text))

/-- Parts in a row that may be missing. -/
def maybe (items : List (Pattern ρ)) : Pattern ρ := .optional (.group items)

end Pattern

namespace Alternative

/-- Parts in a row, as a node that nobody asks about. -/
def plain (items : List (Pattern ρ)) : Alternative ρ := .mk false items [] (.node .plain)

/-- Parts in a row, as a labelled node. -/
def labelled (label : Label) (items : List (Pattern ρ)) : Alternative ρ :=
  .mk false items [] (.node label)

def same (item : Pattern ρ) : Alternative ρ := .mk false [item] [] (.inner 0)

/-- Parts in a row, of which only one is kept. -/
def keep (index : Nat) (items : List (Pattern ρ)) : Alternative ρ := .mk false items [] (.inner index)

/-- Parts in a row, where those after the first list settle which alternative it is. -/
def committed (label : Label) (items rest : List (Pattern ρ)) : Alternative ρ :=
  .mk false items rest (.node label)

/-- A rule for mistakes, tried only when the text is known to be wrong. -/
def diagnostic (item : Pattern ρ) : Alternative ρ := .mk true [item] [] (.inner 0)

/-- A mistake, judged by its parts. -/
def mistake (items : List (Pattern ρ)) (judge : List Tree → Token → Verdict) : Alternative ρ :=
  .mk false items [] (.mistake judge)

/-- A mistake on the line of the part with an index. -/
def blaming (index : Nat) (items : List (Pattern ρ)) : Alternative ρ :=
  .mistake items fun parts _ => (parts[index]?.map fun part => .blame part.line).getD .decline

/-- A mistake on the line of the last token read. -/
def blamingLast (items : List (Pattern ρ)) : Alternative ρ :=
  .mistake items fun _ _ => .blameLast

/-- A mistake in the target with an index, on the line of the part that is no target. -/
def blamingTarget (use : Tree.Use) (index : Nat) (items : List (Pattern ρ)) : Alternative ρ :=
  .mistake items fun parts _ =>
    ((parts[index]?.bind (·.invalidTarget? use)).map fun part => .blame part.line).getD .decline

end Alternative

/-- A rule whose results are not kept. -/
def Production.of (alternatives : List (Alternative ρ)) : Production ρ :=
  ⟨.fresh, alternatives, false⟩

/-- A rule whose results are kept. -/
def Production.kept (alternatives : List (Alternative ρ)) : Production ρ :=
  ⟨.remembered, alternatives, false⟩

/-- A rule that starts with itself. -/
def Production.growing (alternatives : List (Alternative ρ)) : Production ρ :=
  ⟨.leftRecursive, alternatives, false⟩

end ProviderGen.Source
