import ProviderGen.Proofs.Building
import ProviderGen.Source.Outline

namespace ProviderGen.Source

/-- A name is spelled by a token, up to its compatible form. -/
def Spelled (tokens : Array Token) (name : String) : Prop :=
  ∃ token ∈ tokens, token.kind = .name ∧ Text.compatible token.text = name

/-- The classes and the plain functions of a statement are spelled by tokens. -/
inductive Stated (tokens : Array Token) : Statement → Prop
  | classDef {name : String} {body : List Statement}
      (hword : ∃ token ∈ tokens, token.kind ≠ .name ∧ token.text = "class")
      (hname : Spelled tokens name) (hbody : ∀ statement ∈ body, Stated tokens statement) :
      Stated tokens (.classDef name body)
  | functionDef {name : String} {decorators : List (Option String)}
      (hname : Spelled tokens name) : Stated tokens (.functionDef name decorators)
  | asyncFunctionDef {name : String} : Stated tokens (.asyncFunctionDef name)
  | other : Stated tokens .other

theorem AllBuilt.opening_tokens {tokens : Array Token} {trees : List Tree}
    (h : AllBuilt tokens trees) {text : String}
    (hbegins : Begins [.word text, .kind .name] trees) :
    ∃ word name rest, trees = .leaf word :: .leaf name :: rest ∧
      (word ∈ tokens ∧ word.kind ≠ .name ∧ word.text = text) ∧ name ∈ tokens ∧ name.kind = .name := by
  match trees, hbegins with
  | .leaf word :: .leaf name :: rest, hbegins =>
      have hmem : ∀ {token}, .leaf token ∈ Tree.leaf word :: .leaf name :: rest → token ∈ tokens := by
        intro token htoken
        cases h _ htoken with
        | leaf hmem => exact hmem
      obtain ⟨hword, hname, -⟩ := hbegins
      simp only [Terminal.accepts, Bool.and_eq_true, Bool.or_eq_true, beq_iff_eq] at hword hname
      refine ⟨word, name, rest, rfl, ⟨hmem (by simp), ?_, hword.2⟩, hmem (by simp), hname⟩
      rcases hword.1 with hkind | hkind <;> simp [hkind]

theorem BuiltFrom.children {tokens : Array Token} {label : Label} {line : Nat}
    {children : List Tree} (h : BuiltFrom tokens (.node label line children)) :
    AllBuilt tokens children ∧ Begins label.opening children := by
  cases h with
  | node hbegins hchildren => exact ⟨hchildren, hbegins⟩

theorem stated_of_built (tokens : Array Token) :
    (∀ tree, BuiltFrom tokens tree → Stated tokens tree.statement) ∧
      ∀ trees, AllBuilt tokens trees → ∀ statement ∈ Tree.statementsOfAll trees,
        Stated tokens statement := by
  refine Tree.statement.mutual_induct
    (fun tree => BuiltFrom tokens tree → Stated tokens tree.statement)
    (fun trees => AllBuilt tokens trees → ∀ statement ∈ Tree.statementsOfAll trees,
      Stated tokens statement) ?classDef ?functionDef ?asyncFunctionDef ?decoratedFunction
      ?decoratedOther ?other ?nil ?sequence ?cons
  case classDef =>
    intro line first second bases colon start body ih hbuilt
    obtain ⟨hchildren, hbegins⟩ := hbuilt.children
    obtain ⟨word, name, rest, heq, hword, hname, hkind⟩ := hchildren.opening_tokens hbegins
    obtain ⟨rfl, rfl, -⟩ : first = .leaf word ∧ second = .leaf name ∧ _ = rest := by
      simpa using heq
    rw [Tree.statement]
    have hbody : BuiltFrom tokens (.node .block start body) := hchildren _ (by simp)
    exact .classDef ⟨word, hword⟩ ⟨name, hname, hkind, rfl⟩ (ih hbody.children.1)
  case functionDef =>
    intro line children hbuilt
    obtain ⟨hchildren, hbegins⟩ := hbuilt.children
    obtain ⟨word, name, rest, rfl, -, hname, hkind⟩ := hchildren.opening_tokens hbegins
    rw [Tree.statement]
    exact .functionDef ⟨name, hname, hkind, rfl⟩
  case asyncFunctionDef =>
    intro line children _
    rw [Tree.statement]
    exact .asyncFunctionDef
  case decoratedFunction =>
    intro line label start decorators definition name others heq ih hbuilt
    have hstated := ih (hbuilt.children.1 definition (by simp))
    rw [heq] at hstated
    rw [Tree.statement, heq]
    cases hstated with
    | functionDef hname => exact .functionDef hname
  case decoratedOther =>
    intro line label start decorators definition hne ih hbuilt
    have hstated := ih (hbuilt.children.1 definition (by simp))
    rw [Tree.statement]
    split
    · next name others heq => exact absurd heq (hne name others)
    · exact hstated
  case other =>
    intro tree hclass hfunction hasync hdecorated _
    rw [Tree.statement] <;> first | exact .other | assumption
  case nil => simp [Tree.statementsOfAll]
  case sequence =>
    intro line children rest ihChildren ihRest hbuilt statement hmem
    rw [Tree.statementsOfAll, List.mem_append] at hmem
    rcases hmem with hmem | hmem
    · exact ihChildren (hbuilt _ List.mem_cons_self).children.1 statement hmem
    · exact ihRest (fun tree htree => hbuilt tree (List.mem_cons_of_mem _ htree)) statement hmem
  case cons =>
    intro tree rest hne ih ihRest hbuilt statement hmem
    have heq :
        Tree.statementsOfAll (tree :: rest) = tree.statement :: Tree.statementsOfAll rest := by
      rw [Tree.statementsOfAll]
      exact hne
    rw [heq, List.mem_cons] at hmem
    rcases hmem with rfl | hmem
    · exact ih (hbuilt tree List.mem_cons_self)
    · exact ihRest (fun tree htree => hbuilt tree (List.mem_cons_of_mem _ htree)) statement hmem

theorem keepsBuilt_startOf (stream : TokenStream) (diagnosing : Bool) (reach : Nat) :
    (startOf stream diagnosing reach).KeepsBuilt stream.tokens.toArray := by
  intro kept hkept memo hmemo
  rw [(Array.mem_replicate.mp hkept).2] at hmemo
  cases hmemo

theorem built_of_matchStream {stream : TokenStream} {rule : Rule}
    {check : Nat → List Token → Except Mistake Unit} {tree : Tree}
    (h : matchStream stream rule check = .ok tree) : BuiltFrom stream.tokens.toArray tree := by
  let setting : Setting Rule := ⟨Rule.production, stream.tokens.toArray, stream.fault, check⟩
  have hbuilds := setting.builds Rule.areOpened_production (searchBound stream)
  have hfound := hbuilds.rule rule (keepsBuilt_startOf stream false 0)
  unfold matchStream at h
  simp only at h
  split at h
  · next first rest after heq =>
      have hbuilt := heq ▸ hfound
      obtain rfl := Except.ok.inj h
      exact hbuilt.1 first List.mem_cons_self
  · cases h
  · cases h
  · cases h
  · split at h <;> cases h
  · split at h <;> cases h

theorem stated_of_parse [Interpreter] {text : List Char} {tree : Tree} (h : parse text = .ok tree) :
    ∀ statement ∈ tree.outline.statements,
      Stated (tokensFrom 1 (withLineFeeds text)).tokens.toArray statement := by
  intro statement hmem
  have hbuilt : BuiltFrom (tokensFrom 1 (withLineFeeds text)).tokens.toArray tree :=
    built_of_matchStream h
  unfold Tree.outline at hmem
  split at hmem
  · next start line first body rest =>
      have hsequence := hbuilt.children.1 _ List.mem_cons_self
      have hblock := hsequence.children.1 _ List.mem_cons_self
      exact (stated_of_built _).2 body hblock.children.1 statement hmem
  · cases hmem

end ProviderGen.Source
