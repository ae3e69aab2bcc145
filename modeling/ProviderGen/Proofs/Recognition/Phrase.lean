import ProviderGen.Proofs.Recognition.Cell

namespace ProviderGen.Source

open ExpressionRule StatementRule

/-- A rule matches a phrase before what follows it, even while some rules grow there. -/
def Phrase (name : Rule) (amid : List Rule) (reserve : Nat) (phrase follow : List Shape) : Prop :=
  Comes (.rule name) amid reserve (phrase ++ follow) (.upTo phrase.length)

def namePart : Part := ⟨.anyName, true, []⟩

/-- A token that is none of some words, as a part. -/
def partBut (words : List String) : Part := ⟨.noneOf words, true, []⟩

/-- A phrase as a part: its first token, and the rules that match it. -/
def phrasePart (first : Glimpse) (names : List Rule) : Part :=
  ⟨first, false, names.map fun name => ⟨name, true, []⟩⟩

section

variable {task : Task Rule} {name : Rule} {amid : List Rule} {reserve : Nat}
variable {context phrase follow : List Shape} {extent : Extent}
variable {parts : List Part} {stretches : List (List Shape)}

theorem Comes.mono (h : Comes task amid reserve context extent) {wider : Nat}
    (hwider : reserve ≤ wider) : Comes task amid wider context extent :=
  fun shapes place hplace bound growing hbound hgrowing =>
    h shapes place hplace bound growing (hwider.trans hbound) hgrowing

theorem Comes.before (h : Comes task amid reserve context extent) (rest : List Shape) :
    Comes task amid reserve (context ++ rest) extent :=
  fun shapes place hplace => h shapes place ((List.prefix_append context rest).trans hplace)

theorem Phrase.mono (h : Phrase name amid reserve phrase follow) {wider : Nat}
    (hwider : reserve ≤ wider) : Phrase name amid wider phrase follow :=
  Comes.mono h hwider

theorem Phrase.before (h : Phrase name amid reserve phrase follow) (rest : List Shape) :
    Phrase name amid reserve phrase (follow ++ rest) := by
  have hcomes := Comes.before h rest
  rwa [List.append_assoc] at hcomes

theorem Stands.token (shape : Shape) (rest : Stands reserve parts stretches) :
    Stands reserve (shape.part :: parts) ([shape] :: stretches) :=
  .cons rfl (fun _ => rfl) (by simp [Shape.part]) rest

theorem Stands.anyName (text : String) (rest : Stands reserve parts stretches) :
    Stands reserve (namePart :: parts) ([.name text] :: stretches) :=
  .cons ⟨text, rfl⟩ (fun _ => rfl) (by simp [namePart]) rest

theorem Stands.but {words : List String} {shape : Shape}
    (hwords : ∀ word ∈ words, shape ≠ .word word) (rest : Stands reserve parts stretches) :
    Stands reserve (partBut words :: parts) ([shape] :: stretches) :=
  .cons ⟨shape, rfl, hwords⟩ (fun _ => rfl) (by simp [partBut]) rest

theorem Stands.phrasePart {first : Glimpse} {names : List Rule} (hfirst : first.Shows phrase)
    (hphrase : ∀ name ∈ names, Phrase name [] reserve phrase stretches.flatten)
    (rest : Stands reserve parts stretches) :
    Stands reserve (phrasePart first names :: parts) (phrase :: stretches) := by
  refine .cons hfirst nofun ?_ rest
  intro fact hfact
  obtain ⟨name, hname, rfl⟩ := List.mem_map.mp hfact
  exact hphrase name hname

theorem Stands.toPhrase {afters : List (List Shape)}
    (h : Stands reserve parts (stretches ++ afters)) (bound index : Nat)
    (hcell : (cellView parts).recognize bound (amid.map (·, 0)) none (.rule name) 0 =
      some (.upTo index)) (hindex : stretches.length = index) :
    Phrase name amid (reserve + bound) stretches.flatten afters.flatten := by
  subst hindex
  have hcomes := h.comes hcell
  have hoffset : offset (stretches ++ afters) stretches.length = stretches.flatten.length := by
    rw [offset, List.take_left, List.length_append]
    omega
  rwa [List.flatten_append, Extent.move_upTo, hoffset] at hcomes

end

/-- Words with which an operand, an operation or an assignment goes on. -/
def continuations : List String :=
  [".", "(", "[", "**", "*", "/", "//", "%", "@", "+", "-", "<<", ">>", "&", "^", "|", "==", "!=",
   "<=", "<", ">=", ">", "not", "in", "is", "and", "or", "if", ":="]

/-- Words with which an expression starts that is no operand. -/
def openers : List String := ["*", "not", "+", "-", "~", "await", "lambda"]

/-- The rules for operations that start with themselves. -/
def operations : List Rule :=
  [.expression bitwiseOr, .expression bitwiseXor, .expression bitwiseAnd, .expression shift,
   .expression ExpressionRule.sum, .expression term]

/-- A token that does not go on with an expression. -/
def Ends (next : Shape) : Prop := ∀ word ∈ continuations, next ≠ .word word

instance (next : Shape) : Decidable (Ends next) :=
  inferInstanceAs (Decidable (∀ word ∈ continuations, next ≠ .word word))

def operandPart : Part := ⟨.noneOf openers, false, [⟨.expression primary, true, operations⟩]⟩

theorem Phrase.expression_of_operand {reserve : Nat} {phrase : List Shape} {next : Shape}
    (h : Phrase (.expression primary) operations reserve phrase [next])
    (hopens : Glimpse.Shows (.noneOf openers) phrase)
    (hnext : Ends next) : Phrase (.expression expression) [] (reserve + 100) phrase [next] := by
  have hparts : Stands reserve [operandPart, partBut continuations] ([phrase] ++ [[next]]) := by
    refine .cons hopens nofun ?_ (.but hnext .nil)
    simpa [operandPart, Phrase] using h
  have hphrase : Phrase (.expression expression) [] (reserve + 100) [phrase].flatten
      [[next]].flatten := hparts.toPhrase 100 1 (by decide +kernel) rfl
  simpa using hphrase

/-- The rules that tell an expression from the start of an assignment. -/
def expressionPart (first : Glimpse) : Part where
  first := first
  single := false
  facts := [⟨.expression expression, true, []⟩, ⟨.expression assignmentExpression, false, []⟩]

/-- An expression that does not start as an assignment. -/
structure Operand (reserve : Nat) (phrase : List Shape) (next : Shape) : Prop where
  matched : Phrase (.expression expression) [] reserve phrase [next]
  unassigned : Comes (.rule (.expression assignmentExpression)) [] reserve (phrase ++ [next])
    .refused

namespace Operand

variable {reserve : Nat} {phrase : List Shape} {next : Shape}

theorem mono (h : Operand reserve phrase next) {wider : Nat} (hwider : reserve ≤ wider) :
    Operand wider phrase next :=
  ⟨h.matched.mono hwider, h.unassigned.mono hwider⟩

theorem stands (h : Operand reserve phrase next) {first : Glimpse} (hfirst : first.Shows phrase)
    {parts : List Part} {stretches : List (List Shape)}
    (hnext : stretches.flatten.head? = some next) (rest : Stands reserve parts stretches) :
    Stands reserve (expressionPart first :: parts) (phrase :: stretches) := by
  obtain ⟨more, hmore⟩ : ∃ more, stretches.flatten = next :: more := by
    cases hflatten : stretches.flatten with
    | nil => simp [hflatten] at hnext
    | cons head tail =>
        obtain rfl : head = next := by simpa [hflatten] using hnext
        exact ⟨tail, rfl⟩
  refine .cons hfirst nofun ?_ rest
  rw [hmore, ← List.singleton_append, ← List.append_assoc]
  intro fact hfact
  simp only [expressionPart, List.mem_cons, List.not_mem_nil, or_false] at hfact
  rcases hfact with rfl | rfl
  · exact Comes.before h.matched more
  · exact h.unassigned.before more

end Operand

theorem comes_unassigned (text : String) {next : Shape} (hnext : next ≠ .word ":=") :
    Comes (.rule (.expression assignmentExpression)) [] 100 [.name text, next] .refused := by
  have hparts : Stands 0 [namePart, partBut [":="]] [[.name text], [next]] :=
    .anyName text (.but (by simpa using hnext) .nil)
  exact hparts.comes (by decide : (cellView [namePart, partBut [":="]]).recognize 100
    (([] : List Rule).map (·, 0)) none (.rule (.expression assignmentExpression)) 0 =
      some .refused)

namespace Operand

variable {reserve : Nat} {phrase : List Shape} {next : Shape}

theorem of_primary {text : String} {rest : List Shape}
    (h : Phrase (.expression primary) operations reserve (.name text :: rest) [next])
    (hrest : ∀ shape ∈ (rest ++ [next]).head?, shape ≠ .word ":=") (hnext : Ends next) :
    Operand (reserve + 100) (.name text :: rest) next where
  matched := h.expression_of_operand ⟨_, rfl, by simp⟩ hnext
  unassigned := by
    cases hafter : rest ++ [next] with
    | nil => simp at hafter
    | cons head tail =>
        have hhead := hrest head (by simp [hafter])
        have hcomes :=
          ((comes_unassigned text hhead).before tail).mono (Nat.le_add_left 100 reserve)
        rw [List.cons_append, hafter]
        exact hcomes

theorem name (text : String) (hnext : Ends next) : Operand 200 [.name text] next := by
  have hparts : Stands 0 [namePart, partBut continuations] ([[.name text]] ++ [[next]]) :=
    .anyName text (.but hnext .nil)
  have hprimary : Phrase (.expression primary) operations 100 [.name text] [next] :=
    hparts.toPhrase 100 1 (by decide) rfl
  exact of_primary hprimary (by simpa using hnext ":=" (by decide)) hnext

theorem member (owner field : String) (hnext : Ends next) :
    Operand 200 [.name owner, .word ".", .name field] next := by
  have hparts : Stands 0 [namePart, (Shape.word ".").part, namePart, partBut continuations]
      ([[.name owner], [.word "."], [.name field]] ++ [[next]]) :=
    .anyName owner (.token _ (.anyName field (.but hnext .nil)))
  have hprimary : Phrase (.expression primary) operations 100
      [.name owner, .word ".", .name field] [next] :=
    hparts.toPhrase 100 3 (by decide) rfl
  exact of_primary hprimary (by simp) hnext

theorem call (owner method : String) (hnext : Ends next) :
    Operand 400 [.name owner, .word ".", .name method, .word "(", .word ")"] next := by
  have hparts : Stands 0
      [namePart, (Shape.word ".").part, namePart, (Shape.word "(").part, (Shape.word ")").part,
        partBut continuations]
      ([[.name owner], [.word "."], [.name method], [.word "("], [.word ")"]] ++ [[next]]) :=
    .anyName owner (.token _ (.anyName method (.token _ (.token _ (.but hnext .nil)))))
  have hprimary : Phrase (.expression primary) operations 300
      [.name owner, .word ".", .name method, .word "(", .word ")"] [next] :=
    (hparts.toPhrase 200 5 (by decide +kernel) rfl).mono (by omega)
  exact of_primary hprimary (by simp) hnext

theorem callWith (owner method : String) (h : Operand reserve phrase (.word ")"))
    (hfirst : Glimpse.Shows .anyName phrase) (hnext : Ends next) :
    Operand (reserve + 300)
      (.name owner :: .word "." :: .name method :: .word "(" :: (phrase ++ [.word ")"])) next := by
  have hparts : Stands reserve
      [namePart, (Shape.word ".").part, namePart, (Shape.word "(").part,
        expressionPart .anyName, (Shape.word ")").part, partBut continuations]
      ([[.name owner], [.word "."], [.name method], [.word "("], phrase, [.word ")"]] ++
        [[next]]) :=
    .anyName owner (.token _ (.anyName method (.token _
      (h.stands hfirst rfl (.token _ (.but hnext .nil))))))
  have hprimary : Phrase (.expression primary) operations (reserve + 200)
      (.name owner :: .word "." :: .name method :: .word "(" :: (phrase ++ [.word ")"])) [next] :=
    hparts.toPhrase 200 6 (by decide) rfl
  exact of_primary hprimary (by simp) hnext

theorem element {second : List Shape} (owner field : String)
    (h : Operand reserve phrase (.word ",")) (hfirst : Glimpse.Shows (.noneOf []) phrase)
    (hsecond : Operand reserve second (.word "]"))
    (hsecond' : Glimpse.Shows (.noneOf []) second) (hnext : Ends next) :
    Operand (reserve + 300)
      (.name owner :: .word "." :: .name field :: .word "[" ::
        (phrase ++ .word "," :: (second ++ [.word "]"]))) next := by
  have hparts : Stands reserve
      [namePart, (Shape.word ".").part, namePart, (Shape.word "[").part,
        expressionPart (.noneOf []), (Shape.word ",").part, expressionPart (.noneOf []),
        (Shape.word "]").part, partBut continuations]
      ([[.name owner], [.word "."], [.name field], [.word "["], phrase, [.word ","], second,
        [.word "]"]] ++ [[next]]) :=
    .anyName owner (.token _ (.anyName field (.token _ (h.stands hfirst rfl (.token _
      (hsecond.stands hsecond' rfl (.token _ (.but hnext .nil))))))))
  have hprimary : Phrase (.expression primary) operations (reserve + 200)
      (.name owner :: .word "." :: .name field :: .word "[" ::
        (phrase ++ .word "," :: (second ++ [.word "]"]))) [next] :=
    hparts.toPhrase 200 8 (by decide) rfl
  exact of_primary hprimary (by simp) hnext

theorem list (h : Operand reserve phrase (.word "]")) (hfirst : Glimpse.Shows .anyName phrase)
    (hnext : Ends next) :
    Operand (reserve + 300) (.word "[" :: (phrase ++ [.word "]"])) next where
  matched := by
    have hparts : Stands reserve
        [(Shape.word "[").part, expressionPart .anyName, (Shape.word "]").part,
          partBut continuations] ([[.word "["], phrase, [.word "]"]] ++ [[next]]) :=
      .token _ (h.stands hfirst rfl (.token _ (.but hnext .nil)))
    have hprimary : Phrase (.expression primary) operations (reserve + 200)
        (.word "[" :: (phrase ++ [.word "]"])) [next] :=
      hparts.toPhrase 200 3 (by decide) rfl
    exact hprimary.expression_of_operand ⟨_, rfl, by decide⟩ hnext
  unassigned := by
    have hparts : Stands 0 [(Shape.word "[").part] [[.word "["]] := .token _ .nil
    have hcomes : Comes (.rule (.expression assignmentExpression)) [] 100 [.word "["] .refused :=
      hparts.comes (by decide : (cellView [(Shape.word "[").part]).recognize 100
        (([] : List Rule).map (·, 0)) none (.rule (.expression assignmentExpression)) 0 =
          some .refused)
    exact Comes.mono (hcomes.before (phrase ++ [.word "]"] ++ [next]))
      (show 100 ≤ reserve + 300 by omega)

end Operand

theorem phrase_key : Phrase (.expression expression) [] 300 [.string] [.word ":"] := by
  have hparts : Stands 0 [Shape.string.part, (Shape.word ":").part]
      ([[.string]] ++ [[.word ":"]]) := .token _ (.token _ .nil)
  have hprimary : Phrase (.expression primary) operations 200 [.string] [.word ":"] :=
    hparts.toPhrase 200 1 (by decide) rfl
  exact hprimary.expression_of_operand ⟨_, rfl, by decide⟩ (by decide)

section

variable {reserve : Nat} {phrase : List Shape} {next : Shape}

theorem phrase_lambda (argument : String) (h : Operand reserve phrase next)
    (hfirst : Glimpse.Shows .anyName phrase) :
    Phrase (.expression expression) [] (reserve + 200)
      (.word "lambda" :: .name argument :: .word ":" :: phrase) [next] := by
  have hparts : Stands reserve
      [(Shape.word "lambda").part, namePart, (Shape.word ":").part, expressionPart .anyName,
        partBut []]
      ([[.word "lambda"], [.name argument], [.word ":"], phrase] ++ [[next]]) :=
    .token _ (.anyName argument (.token _ (h.stands hfirst rfl (.but (by simp) .nil))))
  have hphrase : Phrase (.expression expression) [] (reserve + 200)
      [[.word "lambda"], [.name argument], [.word ":"], phrase].flatten [[next]].flatten :=
    hparts.toPhrase 200 4 (by decide +kernel) rfl
  simpa using hphrase

theorem Phrase.starExpressions (h : Phrase (.expression expression) [] reserve phrase [next])
    (hfirst : Glimpse.Shows (.noneOf ["*"]) phrase) (hnext : next ≠ .word ",") :
    Phrase (.expression starExpressions) [] (reserve + 200) phrase [next] := by
  have hparts : Stands reserve
      [Source.phrasePart (.noneOf ["*"]) [.expression expression], partBut [","]]
      ([phrase] ++ [[next]]) :=
    .phrasePart hfirst (by simpa using h) (.but (by simpa using hnext) .nil)
  have hphrase : Phrase (.expression ExpressionRule.starExpressions) [] (reserve + 200)
      [phrase].flatten [[next]].flatten := hparts.toPhrase 200 1 (by decide) rfl
  simpa using hphrase

end

end ProviderGen.Source
