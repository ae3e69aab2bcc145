import ProviderGen.Source.Grammar

namespace ProviderGen.Source

variable {ρ : Type}

/-- The terminals that the parts of a labelled node begin with. -/
def Label.opening : Label → List Terminal
  | classDef => [.word "class", .kind .name]
  | functionDef => [.word "def", .kind .name]
  | _ => []

/-- The terminals that patterns in a row begin with. -/
def Pattern.opening : List (Pattern ρ) → List Terminal
  | .token terminal :: items => terminal :: opening items
  | _ => []

mutual

/-- Every alternative in a pattern asks for what the nodes that it makes begin with. -/
def Pattern.isOpened : Pattern ρ → Bool
  | .token _ => true
  | .forced _ => true
  | .rule _ => true
  | .optional pattern => pattern.isOpened
  | .many pattern => pattern.isOpened
  | .many1 pattern => pattern.isOpened
  | .separated _ pattern => pattern.isOpened
  | .ahead pattern => pattern.isOpened
  | .notAhead pattern => pattern.isOpened
  | .choice alternatives => Alternative.areOpened alternatives

def Pattern.areOpened : List (Pattern ρ) → Bool
  | [] => true
  | pattern :: rest => pattern.isOpened && Pattern.areOpened rest

/-- An alternative asks for what the node that it makes begins with. -/
def Alternative.isOpened : Alternative ρ → Bool
  | .mk _ items committed outcome =>
      Pattern.areOpened items && Pattern.areOpened committed &&
        match outcome with
        | .node label => label.opening.isPrefixOf (Pattern.opening items)
        | _ => true

def Alternative.areOpened : List (Alternative ρ) → Bool
  | [] => true
  | alternative :: rest => alternative.isOpened && Alternative.areOpened rest

end

theorem Rule.areOpened_production (rule : Rule) :
    Alternative.areOpened rule.production.alternatives = true := by
  cases rule with
  | statement rule => cases rule <;> rfl
  | compound rule => cases rule <;> rfl
  | expression rule => cases rule <;> rfl
  | parameter site rule => cases site <;> cases rule <;> rfl
  | target rule => cases rule <;> rfl
  | pattern rule => cases rule <;> rfl

/-- Trees begin with tokens that are what terminals ask for. -/
def Begins : List Terminal → List Tree → Prop
  | [], _ => True
  | terminal :: terminals, .leaf token :: trees =>
      terminal.accepts token = true ∧ Begins terminals trees
  | _ :: _, _ => False

/-- A tree that is built from some tokens, where nodes begin as their labels say. -/
inductive BuiltFrom (tokens : Array Token) : Tree → Prop
  | leaf {token : Token} (hmem : token ∈ tokens) : BuiltFrom tokens (.leaf token)
  | node {label : Label} {line : Nat} {children : List Tree}
      (hbegins : Begins label.opening children)
      (hchildren : ∀ child ∈ children, BuiltFrom tokens child) :
      BuiltFrom tokens (.node label line children)

/-- What a terminal yields is a token that it asks for. -/
def Pattern.Yields (pattern : Pattern ρ) (trees : List Tree) : Prop :=
  ∀ terminal, pattern = .token terminal →
    ∃ token, terminal.accepts token = true ∧ trees = [.leaf token]

section

variable {terminals more : List Terminal} {trees rest : List Tree}

theorem Begins.append (h : Begins terminals trees) (rest : List Tree) :
    Begins terminals (trees ++ rest) := by
  induction terminals generalizing trees with
  | nil => trivial
  | cons terminal terminals ih =>
      match trees, h with
      | .leaf token :: trees, h => exact ⟨h.1, ih h.2⟩

theorem Pattern.Yields.begins_append {pattern : Pattern ρ} {items : List (Pattern ρ)}
    (h : pattern.Yields trees) (hrest : Begins (opening items) rest) :
    Begins (opening (pattern :: items)) (trees ++ rest) := by
  cases pattern with
  | token terminal =>
      obtain ⟨token, haccepts, rfl⟩ := h terminal rfl
      exact ⟨haccepts, hrest⟩
  | _ => trivial

theorem Begins.of_prefix (h : Begins terminals trees) (hfront : more <+: terminals) :
    Begins more trees := by
  induction more generalizing terminals trees with
  | nil => trivial
  | cons terminal more ih =>
      obtain ⟨others, rfl⟩ := hfront
      match trees, h with
      | .leaf token :: trees, h => exact ⟨h.1, ih h.2 ⟨others, rfl⟩⟩

end

/-- Some trees are built from some tokens. -/
def AllBuilt (tokens : Array Token) (trees : List Tree) : Prop :=
  ∀ tree ∈ trees, BuiltFrom tokens tree

namespace AllBuilt

variable {tokens : Array Token} {trees more : List Tree} {tree : Tree}

theorem nil : AllBuilt tokens [] := by
  intro tree htree
  cases htree

theorem singleton (h : BuiltFrom tokens tree) : AllBuilt tokens [tree] := by
  intro other hother
  rwa [List.mem_singleton.mp hother]

theorem append (h : AllBuilt tokens trees) (hmore : AllBuilt tokens more) :
    AllBuilt tokens (trees ++ more) := by
  intro tree htree
  rcases List.mem_append.mp htree with htree | htree
  · exact h tree htree
  · exact hmore tree htree

theorem reverse (h : AllBuilt tokens trees) : AllBuilt tokens trees.reverse :=
  fun tree htree => h tree (List.mem_reverse.mp htree)

/-- A node that need not begin in any way is built from what its children are built from. -/
theorem node (h : AllBuilt tokens trees) {label : Label} (hlabel : label.opening = []) (line : Nat) :
    AllBuilt tokens [.node label line trees] :=
  singleton (.node (by rw [hlabel]; trivial) h)

end AllBuilt

end ProviderGen.Source
