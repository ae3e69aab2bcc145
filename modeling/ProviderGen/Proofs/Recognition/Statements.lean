import ProviderGen.Proofs.Recognition.Enumeration

namespace ProviderGen.Source

open ExpressionRule StatementRule

/-- Pairs in braces, with a comma after each. -/
def display (pairs : List (List Shape)) : List Shape :=
  .word "\x7b" :: (pairs.flatMap (· ++ [.word ","]) ++ [.word "\x7d"])

theorem flatMap_comma (first : List Shape) (rest : List (List Shape)) :
    (first :: rest).flatMap (· ++ [.word ","]) =
      first ++ strung (some ",") rest ++ [.word ","] := by
  induction rest generalizing first with
  | nil => simp [strung]
  | cons second rest ih =>
      rw [List.flatMap_cons, ih second]
      simp [strung, Comes.gap]

theorem Glimpse.Shows.append {first : Glimpse} {phrase : List Shape} (h : first.Shows phrase)
    (more : List Shape) : first.Shows (phrase ++ more) := by
  have hhead : (phrase ++ more).head? = phrase.head? := by
    cases phrase with
    | nil => exact absurd rfl h.ne_nil
    | cons shape phrase => rfl
  cases first <;> simpa only [Glimpse.Shows, hhead] using h

theorem phrase_display {reserve : Nat} {pairs : List (List Shape)} {next : Shape}
    (hreserve : 200 ≤ reserve)
    (hpairs : ∀ item ∈ pairs, Phrase (.expression pair) [] reserve item [.word ","])
    (hfirst : ∀ item ∈ pairs, Glimpse.Shows (.noneOf ["\x7d"]) item) (hnext : Ends next) :
    Phrase (.expression expression) [] (reserve + pairs.length + 320) (display pairs) [next] := by
  have hprimary : Phrase (.expression primary) operations (reserve + pairs.length + 220)
      (display pairs) [next] := by
    cases pairs with
    | nil =>
        have hparts : Stands 0
            [(Shape.word "\x7b").part, (Shape.word "\x7d").part, partBut continuations]
            ([[.word "\x7b"], [.word "\x7d"]] ++ [[next]]) :=
          .token _ (.token _ (.but hnext .nil))
        have hempty : Phrase (.expression primary) operations (0 + 200) (display []) [next] :=
          hparts.toPhrase 200 2 (by decide +kernel) rfl
        exact hempty.mono (by omega)
    | cons first rest =>
        have hinner := phrase_pairs hreserve hpairs
        have hshows := (hfirst first (by simp)).append (strung (some ",") rest ++ [.word ","])
        have hparts : Stands (reserve + rest.length + 20)
            [(Shape.word "\x7b").part,
              phrasePart (.noneOf ["\x7d"]) [.expression ExpressionRule.pairs],
              (Shape.word "\x7d").part, partBut continuations]
            ([[.word "\x7b"], first ++ strung (some ",") rest ++ [.word ","], [.word "\x7d"]] ++
              [[next]]) := by
          refine .token _ (.phrasePart ?_ ?_ (.token _ (.but hnext .nil)))
          · rwa [List.append_assoc]
          · simpa using hinner.before [next]
        have hfull : Phrase (.expression primary) operations (reserve + rest.length + 20 + 200)
            [[.word "\x7b"], first ++ strung (some ",") rest ++ [.word ","], [.word "\x7d"]].flatten
            [[next]].flatten := hparts.toPhrase 200 3 (by decide) rfl
        rw [display, flatMap_comma]
        refine Phrase.mono ?_ (show reserve + rest.length + 220 ≤ _ by simp)
        simpa using hfull
  exact hprimary.expression_of_operand ⟨_, rfl, by decide⟩ hnext

theorem phrase_importAs (module name : String) :
    Phrase (.statement statement) [] 160
      [.word "import", .name module, .word "as", .name name, .newline] [] := by
  have hparts : Stands 0
      [(Shape.word "import").part, namePart, (Shape.word "as").part, namePart, Shape.newline.part]
      ([[.word "import"], [.name module], [.word "as"], [.name name], [.newline]] ++ []) :=
    .token _ (.anyName module (.token _ (.anyName name (.token _ .nil))))
  exact hparts.toPhrase 160 5 (by decide +kernel) rfl

theorem phrase_importFromAs (module name other : String) :
    Phrase (.statement statement) [] 160
      [.word "from", .name module, .word "import", .name name, .word "as", .name other, .newline]
      [] := by
  have hparts : Stands 0
      [(Shape.word "from").part, namePart, (Shape.word "import").part, namePart,
        (Shape.word "as").part, namePart, Shape.newline.part]
      ([[.word "from"], [.name module], [.word "import"], [.name name], [.word "as"],
        [.name other], [.newline]] ++ []) :=
    .token _ (.anyName module (.token _ (.anyName name (.token _ (.anyName other
      (.token _ .nil))))))
  exact hparts.toPhrase 160 7 (by decide +kernel) rfl

theorem phrase_importFrom (segment : String) (segments : List String) (name : String)
    (names : List String) :
    Phrase (.statement statement) [] (segments.length + names.length + 280)
      (.word "from" :: (namesWith "." segment segments ++
        .word "import" :: (namesWith "," name names ++ [.newline]))) [] := by
  have hend : Shape.word "import" ≠ .word "." := by decide
  have hdotted := (phrase_dottedName segment segments hend).before
    (namesWith "," name names ++ [.newline])
  have hnames := phrase_importNames name names
  have hparts : Stands (segments.length + names.length + 120)
      [(Shape.word "from").part, phrasePart .anyName [dottedRule], (Shape.word "import").part,
        phrasePart .anyName [.statement importFromNames], Shape.newline.part]
      ([[.word "from"], namesWith "." segment segments, [.word "import"],
        namesWith "," name names, [.newline]] ++ []) := by
    refine .token _ (.phrasePart ⟨segment, rfl⟩ ?_ (.token _ (.phrasePart ⟨name, rfl⟩ ?_
      (.token _ .nil))))
    · simpa using hdotted.mono (show _ ≤ segments.length + names.length + 120 by omega)
    · simpa using hnames.mono (show _ ≤ segments.length + names.length + 120 by omega)
  have hphrase : Phrase (.statement statement) [] (segments.length + names.length + 120 + 160)
      [[.word "from"], namesWith "." segment segments, [.word "import"],
        namesWith "," name names, [.newline]].flatten [] :=
    hparts.toPhrase 160 5 (by decide +kernel) rfl
  simpa using hphrase

theorem phrase_docstring : Phrase (.statement statement) [] 160 [.string, .newline] [] := by
  have hparts : Stands 0 [Shape.string.part, Shape.newline.part]
      ([[.string], [.newline]] ++ []) := .token _ (.token _ .nil)
  exact hparts.toPhrase 160 2 (by decide +kernel) rfl

section

variable {reserve : Nat} {kind value : List Shape}

/-- The declaration of a map. The name tells it from a statement of its own kind that starts with
a name. -/
theorem phrase_declaration (hkind : Operand reserve kind (.word "="))
    (hfirst : Glimpse.Shows .anyName kind)
    (hvalue : Phrase (.expression starExpressions) [] reserve (.word "\x7b" :: value) [.newline]) :
    Phrase (.statement statement) [] (reserve + 160)
      (.name "model_tags" :: .word ":" :: (kind ++ .word "=" :: .word "\x7b" ::
        (value ++ [.newline]))) [] := by
  have hparts : Stands reserve
      [(Shape.name "model_tags").part, (Shape.word ":").part, expressionPart .anyName,
        (Shape.word "=").part, phrasePart (.shape (.word "\x7b")) [.expression starExpressions],
        Shape.newline.part]
      ([[.name "model_tags"], [.word ":"], kind, [.word "="], .word "\x7b" :: value,
        [.newline]] ++ []) := by
    refine .token _ (.token _ (hkind.stands hfirst rfl (.token _ (.phrasePart rfl ?_
      (.token _ .nil)))))
    simpa using hvalue
  have hphrase : Phrase (.statement statement) [] (reserve + 160)
      [[.name "model_tags"], [.word ":"], kind, [.word "="], .word "\x7b" :: value,
        [.newline]].flatten [] := hparts.toPhrase 160 6 (by decide) rfl
  simpa using hphrase

theorem phrase_return
    (hvalue : Phrase (.expression starExpressions) [] reserve (.word "\x7b" :: value) [.newline]) :
    Phrase (.statement statements) [] (reserve + 160)
      (.word "return" :: .word "\x7b" :: (value ++ [.newline])) [.dedent] := by
  have hparts : Stands reserve
      [(Shape.word "return").part, phrasePart (.shape (.word "\x7b")) [.expression starExpressions],
        Shape.newline.part, Shape.dedent.part]
      ([[.word "return"], .word "\x7b" :: value, [.newline]] ++ [[.dedent]]) := by
    refine .token _ (.phrasePart rfl ?_ (.token _ (.token _ .nil)))
    simpa using hvalue.before [.dedent]
  have hphrase : Phrase (.statement statements) [] (reserve + 160)
      [[.word "return"], .word "\x7b" :: value, [.newline]].flatten [[.dedent]].flatten :=
    hparts.toPhrase 160 3 (by decide +kernel) rfl
  simpa using hphrase

theorem phrase_method {body : List Shape} (decorator name argument : String)
    (hkind : Operand reserve kind (.word ":")) (hfirst : Glimpse.Shows .anyName kind)
    (hbody : Phrase (.statement statements) [] reserve body [.dedent])
    (hbody' : Glimpse.Shows (.noneOf []) body) :
    Phrase (.statement statement) [] (reserve + 200)
      ([.word "@", .name decorator, .newline, .word "def", .name name, .word "(", .name argument,
        .word ")", .word "->"] ++ kind ++ [.word ":", .newline, .indent] ++ body ++ [.dedent])
      [] := by
  have hparts : Stands reserve
      [(Shape.word "@").part, namePart, Shape.newline.part, (Shape.word "def").part, namePart,
        (Shape.word "(").part, namePart, (Shape.word ")").part, (Shape.word "->").part,
        expressionPart .anyName, (Shape.word ":").part, Shape.newline.part, Shape.indent.part,
        phrasePart (.noneOf []) [.statement statements], Shape.dedent.part]
      ([[.word "@"], [.name decorator], [.newline], [.word "def"], [.name name], [.word "("],
        [.name argument], [.word ")"], [.word "->"], kind, [.word ":"], [.newline], [.indent],
        body, [.dedent]] ++ []) := by
    refine .token _ (.anyName decorator (.token _ (.token _ (.anyName name (.token _
      (.anyName argument (.token _ (.token _ (hkind.stands hfirst rfl (.token _ (.token _ (.token _
        (.phrasePart hbody' ?_ (.token _ .nil))))))))))))))
    simpa using hbody
  have hphrase : Phrase (.statement statement) [] (reserve + 200)
      [[.word "@"], [.name decorator], [.newline], [.word "def"], [.name name], [.word "("],
        [.name argument], [.word ")"], [.word "->"], kind, [.word ":"], [.newline], [.indent],
        body, [.dedent]].flatten [] := hparts.toPhrase 200 15 (by decide +kernel) rfl
  simpa using hphrase

theorem phrase_class {base body : List Shape} (name : String)
    (hbase : Operand reserve base (.word ")")) (hfirst : Glimpse.Shows .anyName base)
    (hbody : Phrase (.statement statements) [] reserve body [.dedent])
    (hbody' : Glimpse.Shows (.noneOf []) body) :
    Phrase (.statement statement) [] (reserve + 400)
      ([.word "class", .name name, .word "("] ++ base ++
        [.word ")", .word ":", .newline, .indent] ++ body ++ [.dedent]) [] := by
  have harguments : Phrase (.expression arguments) [] (reserve + 200) base [.word ")"] := by
    have hparts : Stands reserve [expressionPart .anyName, (Shape.word ")").part]
        ([base] ++ [[.word ")"]]) := hbase.stands hfirst rfl (.token _ .nil)
    have hphrase : Phrase (.expression arguments) [] (reserve + 200) [base].flatten
        [[.word ")"]].flatten := hparts.toPhrase 200 1 (by decide) rfl
    simpa using hphrase
  have hshows : Glimpse.Shows (.noneOf []) base := by
    obtain ⟨text, htext⟩ := hfirst
    exact ⟨_, htext, by simp⟩
  have hparts : Stands (reserve + 200)
      [(Shape.word "class").part, namePart, (Shape.word "(").part,
        phrasePart (.noneOf []) [.expression arguments], (Shape.word ")").part,
        (Shape.word ":").part, Shape.newline.part, Shape.indent.part,
        phrasePart (.noneOf []) [.statement statements], Shape.dedent.part]
      ([[.word "class"], [.name name], [.word "("], base, [.word ")"], [.word ":"], [.newline],
        [.indent], body, [.dedent]] ++ []) := by
    refine .token _ (.anyName name (.token _ (.phrasePart hshows ?_ (.token _ (.token _ (.token _
      (.token _ (.phrasePart hbody' ?_ (.token _ .nil)))))))))
    · simpa using harguments.before (.word ":" :: .newline :: .indent :: (body ++ [.dedent]))
    · simpa using hbody.mono (show reserve ≤ reserve + 200 by omega)
  have hphrase : Phrase (.statement statement) [] (reserve + 200 + 200)
      [[.word "class"], [.name name], [.word "("], base, [.word ")"], [.word ":"], [.newline],
        [.indent], body, [.dedent]].flatten [] := hparts.toPhrase 200 10 (by decide) rfl
  simpa using hphrase

theorem phrase_file {body : List Shape}
    (hbody : Phrase (.statement statements) [] reserve body [.finish])
    (hbody' : Glimpse.Shows (.noneOf []) body) :
    Phrase (.statement file) [] (reserve + 200) (body ++ [.finish]) [] := by
  have hparts : Stands reserve
      [phrasePart (.noneOf []) [.statement statements], Shape.finish.part]
      ([body, [.finish]] ++ []) :=
    .phrasePart hbody' (by simpa using hbody) (.token _ .nil)
  have hphrase : Phrase (.statement file) [] (reserve + 200) [body, [.finish]].flatten [] :=
    hparts.toPhrase 200 2 (by decide) rfl
  simpa using hphrase

end

theorem comes_flawed : Comes (.rule (.statement file)) [] 200 [.flawed, .newline] .wrong := by
  have hparts : Stands 0 [Shape.flawed.part, Shape.newline.part] [[.flawed], [.newline]] :=
    .token _ (.token _ .nil)
  exact hparts.comes (by decide :
    (cellView [Shape.flawed.part, Shape.newline.part]).recognize 200 (([] : List Rule).map (·, 0))
      none (.rule (.statement file)) 0 = some .wrong)

theorem comes_statement_refused {shape : Shape} (h : shape = .dedent ∨ shape = .finish) :
    Comes (.rule (.statement statement)) [] 200 [shape] .refused := by
  have hparts : Stands 0 [shape.part] [[shape]] := .token _ .nil
  have hcell : (cellView [shape.part]).recognize 200 (([] : List Rule).map (·, 0)) none
      (.rule (.statement statement)) 0 = some .refused := by
    rcases h with rfl | rfl <;> decide +kernel
  exact hparts.comes hcell

end ProviderGen.Source
