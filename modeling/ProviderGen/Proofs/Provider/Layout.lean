import ProviderGen.Proofs.Sorting
import ProviderGen.Proofs.Recognition.Statements
import ProviderGen.Provider

namespace ProviderGen.Provider

open Source Source.ExpressionRule Source.StatementRule

def memberShapes (owner field : String) : List Shape :=
  [.name owner, .word ".", .name field]

/-- A member of an owner under two keys. -/
def elementShapes (owner field : String) (first second : List Shape) : List Shape :=
  .name owner :: .word "." :: .name field :: .word "[" ::
    (first ++ .word "," :: (second ++ [.word "]"]))

/-- The entry of a model in the map of tags. -/
def tagShapes (model : Model) : List Shape :=
  [.string, .word ":", wordShape model.name]

/-- The entry of a model in the map of a role. -/
def methodShapes (role : Role) (model : Model) : List Shape :=
  let method := wordShape ((model.ability role).method.getD "")
  wordShape model.name :: .word ":" :: .word "lambda" ::
    match role with
    | .serialize =>
        [.name "_model", .word ":", .name "_model", .word ".", method, .word "(", .word ")"]
    | .deserialize =>
        [.name "_data", .word ":", wordShape model.name, .word ".", method, .word "(",
          .name "_data", .word ")"]

/-- The methods of a role take and give. -/
def roleMembers : Role → List Shape × List Shape
  | .serialize => (memberShapes "_typing" "Any", memberShapes "_provider" "JsonMap")
  | .deserialize => (memberShapes "_provider" "JsonMap", memberShapes "_typing" "Any")

def roleKind (role : Role) : List Shape :=
  elementShapes "_typing" "Dict" [.name "type"]
    (elementShapes "_typing" "Callable" (.word "[" :: ((roleMembers role).1 ++ [.word "]"]))
      (roleMembers role).2)

def roleMap : Role → String
  | .serialize => "to_json_models"
  | .deserialize => "from_json_models"

/-- The map of a role, up to the end of its last line. -/
def roleShapes (registry : Registry) (role : Role) : List Shape :=
  [.word "@", .name "property", .newline, .word "def", .name (roleMap role), .word "(",
      .name "self", .word ")", .word "->"] ++ roleKind role ++ [.word ":", .newline, .indent] ++
    (.word "return" :: (display ((registry.able role).map (methodShapes role)) ++ [.newline]))

def tagsShapes (registry : Registry) : List Shape :=
  .name "model_tags" :: .word ":" ::
    (elementShapes "_typing" "Mapping" [.name "str"] [.name "type"] ++
      .word "=" :: (display (registry.byName.map tagShapes) ++ [.newline]))

/-- The provider class, up to the end of its last line. -/
def classShapes (registry : Registry) (className : String) : List Shape :=
  [.word "class", wordShape className, .word "("] ++ memberShapes "_provider" "ModelProvider" ++
    [.word ")", .word ":", .newline, .indent] ++
    ([.string, .newline] ++ tagsShapes registry ++ (roleShapes registry .serialize ++ [.dedent]) ++
      roleShapes registry .deserialize)

def wordsBetween (sign : String) : List String → List Shape
  | [] => []
  | first :: rest => wordShape first :: strung (some sign) (rest.map fun name => [wordShape name])

/-- The import of names from the module with some segments. -/
def importShapes (imported : List String × List String) : List Shape :=
  .word "from" :: (wordsBetween "." imported.1 ++
    .word "import" :: (wordsBetween "," imported.2 ++ [.newline]))

/-- The imports that every provider starts with. -/
def preambleImports : List (List Shape) :=
  [[.word "from", .name "__future__", .word "import", .name "annotations", .newline],
    [.word "import", .name "typing", .word "as", .name "_typing", .newline],
    [.word "from", .name "modelgen", .word "import", .name "provider", .word "as",
      .name "_provider", .newline]]

/-- The whole text, which opens with a string. -/
def textShapes (opening : Shape) (registry : Registry) (className : String)
    (imports : List (List String × List String)) : List Shape :=
  [opening, .newline] ++ preambleImports.flatten ++ imports.flatMap importShapes ++
    (classShapes registry className ++ [.dedent, .dedent]) ++ [.finish]

/-- The names of a model are free. -/
structure FreelyNamed (model : Model) : Prop where
  name : Text.isFreeName model.name = true
  method : ∀ role, (model.ability role).present = true →
    Text.isFreeName ((model.ability role).method.getD "") = true

theorem wordsBetween_of_free {sign first : String} {rest : List String}
    (h : ∀ name ∈ first :: rest, Text.isFreeName name = true) :
    wordsBetween sign (first :: rest) = namesWith sign first rest := by
  have hrest : rest.map (fun name => [wordShape name]) = rest.map fun name => [.name name] :=
    List.map_congr_left fun name hname => by
      rw [wordShape_of_isFreeName (h name (List.mem_cons_of_mem first hname))]
  rw [wordsBetween, namesWith, hrest, wordShape_of_isFreeName (h first (by simp))]

theorem operand_roleMembers {role : Role} {next : Shape} (hnext : Ends next) :
    Operand 200 (roleMembers role).1 next ∧ Operand 200 (roleMembers role).2 next := by
  cases role <;> exact ⟨Operand.member _ _ hnext, Operand.member _ _ hnext⟩

theorem shows_roleMembers (role : Role) :
    Glimpse.Shows .anyName (roleMembers role).1 ∧ Glimpse.Shows .anyName (roleMembers role).2 := by
  cases role <;> exact ⟨⟨_, rfl⟩, ⟨_, rfl⟩⟩

theorem operand_roleKind (role : Role) : Operand 1100 (roleKind role) (.word ":") := by
  obtain ⟨hshown, text, hfirst⟩ := shows_roleMembers role
  have hlist : Operand 500 (.word "[" :: ((roleMembers role).1 ++ [.word "]"])) (.word ",") :=
    Operand.list (operand_roleMembers (by decide)).1 hshown (by decide)
  have hresult : Operand 200 (roleMembers role).2 (.word "]") :=
    (operand_roleMembers (by decide)).2
  have hcallable : Operand 800 (elementShapes "_typing" "Callable"
      (.word "[" :: ((roleMembers role).1 ++ [.word "]"])) (roleMembers role).2) (.word "]") :=
    Operand.element _ _ hlist ⟨_, rfl, by simp⟩ (hresult.mono (by decide)) ⟨_, hfirst, by simp⟩
      (by decide)
  have htype : Operand 200 [.name "type"] (.word ",") := Operand.name "type" (by decide)
  exact Operand.element _ _ (htype.mono (by decide)) ⟨_, rfl, by simp⟩ hcallable ⟨_, rfl, by simp⟩
    (by decide)

theorem phrase_tag {model : Model} (hfree : FreelyNamed model) :
    Phrase (.expression pair) [] 900 (tagShapes model) [.word ","] := by
  rw [tagShapes, wordShape_of_isFreeName hfree.name]
  have hvalue : Operand 200 [.name model.name] (.word ",") := Operand.name model.name (by decide)
  have hpair : Phrase (.expression pair) [] 500 [.string, .word ":", .name model.name]
      [.word ","] :=
    phrase_pair phrase_key ⟨_, rfl, by decide⟩ (hvalue.matched.mono (by decide)) ⟨_, rfl, by simp⟩
  exact hpair.mono (by decide)

theorem phrase_methodEntry {role : Role} {model : Model} (hfree : FreelyNamed model)
    (hable : (model.ability role).present = true) :
    Phrase (.expression pair) [] 900 (methodShapes role model) [.word ","] := by
  have hkey : Operand 200 [.name model.name] (.word ":") := Operand.name model.name (by decide)
  have hfirst : Glimpse.Shows (.noneOf ["**"]) [Shape.name model.name] := ⟨_, rfl, by simp⟩
  have hends : Ends (.word ",") := by decide
  have hname := wordShape_of_isFreeName hfree.name
  have hmethod := wordShape_of_isFreeName (hfree.method role hable)
  cases role with
  | serialize =>
      simp only [methodShapes, hname, hmethod]
      have hbody := Operand.call "_model" ((model.ability .serialize).method.getD "") hends
      have hlambda := phrase_lambda "_model" hbody ⟨_, rfl⟩
      exact phrase_pair (hkey.matched.mono (by decide)) hfirst (hlambda.mono (by decide))
        ⟨_, rfl, by simp⟩
  | deserialize =>
      simp only [methodShapes, hname, hmethod]
      have hdata : Operand 200 [.name "_data"] (.word ")") := Operand.name "_data" (by decide)
      have hbody := Operand.callWith model.name ((model.ability .deserialize).method.getD "") hdata
        ⟨_, rfl⟩ hends
      have hlambda := phrase_lambda "_data" hbody ⟨_, rfl⟩
      exact phrase_pair (hkey.matched.mono (by decide)) hfirst hlambda ⟨_, rfl, by simp⟩

theorem phrase_map {models : List Model} {entry : Model → List Shape}
    (hentry : ∀ model ∈ models, Phrase (.expression pair) [] 900 (entry model) [.word ","])
    (hfirst : ∀ model ∈ models, Glimpse.Shows (.noneOf ["\x7d"]) (entry model)) :
    Phrase (.expression starExpressions) [] (models.length + 1420) (display (models.map entry))
      [.newline] := by
  have hdisplay : Phrase (.expression expression) [] (900 + (models.map entry).length + 320)
      (display (models.map entry)) [.newline] := by
    refine phrase_display (by decide) ?_ ?_ (by decide)
    · intro item hitem
      obtain ⟨model, hmodel, rfl⟩ := List.mem_map.mp hitem
      exact hentry model hmodel
    · intro item hitem
      obtain ⟨model, hmodel, rfl⟩ := List.mem_map.mp hitem
      exact hfirst model hmodel
  rw [List.length_map] at hdisplay
  exact (hdisplay.starExpressions ⟨_, rfl, by decide⟩ (by decide)).mono (by omega)

theorem shows_methodShapes {model : Model} (hfree : FreelyNamed model) (role : Role) :
    Glimpse.Shows (.noneOf ["\x7d"]) (methodShapes role model) :=
  ⟨_, rfl, by simp [wordShape_of_isFreeName hfree.name]⟩

theorem length_able_le (registry : Registry) (role : Role) :
    (registry.able role).length ≤ registry.models.length := by
  rw [Registry.able, Text.length_sortBy]
  exact List.length_filter_le _ _

section

variable {registry : Registry} (hfree : ∀ model ∈ registry.models, FreelyNamed model)

include hfree

theorem phrase_role (role : Role) :
    Phrase (.statement statement) [] (registry.models.length + 1800)
      (roleShapes registry role ++ [.dedent]) [] := by
  have hable : ∀ model ∈ registry.able role,
      model ∈ registry.models ∧ (model.ability role).present = true := fun model hmodel =>
    List.mem_filter.mp ((Text.perm_sortBy Model.name _).mem_iff.mp hmodel)
  have hmap := phrase_map
    (fun model hmodel =>
      phrase_methodEntry (hfree model (hable model hmodel).1) (hable model hmodel).2)
    fun model hmodel => shows_methodShapes (hfree model (hable model hmodel).1) role
  have hreturn := (phrase_return hmap).mono
    (show _ ≤ registry.models.length + 1600 by have := length_able_le registry role; omega)
  have hkind := (operand_roleKind role).mono (show _ ≤ registry.models.length + 1600 by omega)
  have hmethod := phrase_method "property" (roleMap role) "self" hkind ⟨_, rfl⟩ hreturn
    ⟨_, rfl, by simp⟩
  exact hmethod

theorem phrase_tags :
    Phrase (.statement statement) [] (registry.models.length + 1800) (tagsShapes registry) [] := by
  have hentry : ∀ model ∈ registry.byName,
      Phrase (.expression pair) [] 900 (tagShapes model) [.word ","] := fun model hmodel =>
    phrase_tag (hfree model ((Text.perm_sortBy Model.name _).mem_iff.mp hmodel))
  have hmap := (phrase_map hentry fun model _ => ⟨_, rfl, by simp⟩).mono
    (show _ ≤ registry.models.length + 1600 by
      rw [Registry.byName, Text.length_sortBy]
      omega)
  have hkind : Operand 500 (elementShapes "_typing" "Mapping" [.name "str"] [.name "type"])
      (.word "=") :=
    Operand.element _ _ (Operand.name "str" (by decide)) ⟨_, rfl, by simp⟩
      (Operand.name "type" (by decide)) ⟨_, rfl, by simp⟩ (by decide)
  exact (phrase_declaration (hkind.mono (by omega)) ⟨_, rfl⟩ hmap).mono (by omega)

theorem phrase_provider {className : String} (hclass : Text.isFreeName className = true) :
    Phrase (.statement statement) [] (registry.models.length + 2300)
      (classShapes registry className ++ [.dedent, .dedent]) [] := by
  have hstop : Comes (.rule (.statement statement)) [] (registry.models.length + 1800) [.dedent]
      .refused := (comes_statement_refused (.inl rfl)).mono (by omega)
  have hbody : Phrase (.statement statements) [] (registry.models.length + 1900)
      ([.string, .newline] ++ [tagsShapes registry, roleShapes registry .serialize ++ [.dedent],
        roleShapes registry .deserialize ++ [.dedent]].flatten) [.dedent] := by
    refine (phrase_statements hstop ?_).mono (by simp)
    simp only [List.forall_mem_cons, List.not_mem_nil, false_implies, implies_true, and_true]
    exact ⟨phrase_docstring.mono (by omega), phrase_tags hfree, phrase_role hfree .serialize,
      phrase_role hfree .deserialize⟩
  have hbase : Operand 200 (memberShapes "_provider" "ModelProvider") (.word ")") :=
    Operand.member _ _ (by decide)
  have hphrase := phrase_class className
    (hbase.mono (show 200 ≤ registry.models.length + 1900 by omega)) ⟨_, rfl⟩ hbody
    ⟨_, rfl, by simp⟩
  simpa [classShapes, wordShape_of_isFreeName hclass] using hphrase

end

theorem phrase_import {imported : List String × List String} (hsegments : imported.1 ≠ [])
    (hnames : imported.2 ≠ []) (hfree : ∀ name ∈ imported.1 ++ imported.2, Text.isFreeName name) :
    Phrase (.statement statement) [] (imported.1.length + imported.2.length + 280)
      (importShapes imported) [] := by
  obtain ⟨segments, names⟩ := imported
  obtain ⟨segment, segments, rfl⟩ := List.exists_cons_of_ne_nil hsegments
  obtain ⟨name, names, rfl⟩ := List.exists_cons_of_ne_nil hnames
  rw [List.forall_mem_append] at hfree
  rw [importShapes, wordsBetween_of_free hfree.1, wordsBetween_of_free hfree.2]
  exact (phrase_importFrom segment segments name names).mono (by simp; omega)

/-- The tokens of a provider module are those of a whole text. -/
theorem phrase_text {registry : Registry} (hfree : ∀ model ∈ registry.models, FreelyNamed model)
    {className : String} (hclass : Text.isFreeName className = true)
    {imports : List (List String × List String)} {reserve : Nat}
    (himports : ∀ imported ∈ imports, imported.1 ≠ [] ∧ imported.2 ≠ [] ∧
      (∀ name ∈ imported.1 ++ imported.2, Text.isFreeName name) ∧
      imported.1.length + imported.2.length + 280 ≤ reserve)
    (hreserve : registry.models.length + 2300 ≤ reserve) :
    Phrase (.statement file) [] (reserve + imports.length + 300)
      (textShapes .string registry className imports) [] := by
  have hstop : Comes (.rule (.statement statement)) [] reserve [.finish] .refused :=
    (comes_statement_refused (.inr rfl)).mono (by omega)
  have hbody : Phrase (.statement statements) [] (reserve + imports.length + 100)
      ([.string, .newline] ++ (preambleImports ++ (imports.map importShapes ++
        [classShapes registry className ++ [Shape.dedent, .dedent]])).flatten) [.finish] := by
    refine (phrase_statements hstop ?_).mono (by simp [preambleImports]; omega)
    intro item hitem
    simp only [preambleImports, List.mem_cons, List.mem_append, List.mem_map, List.not_mem_nil,
      or_false] at hitem
    rcases hitem with rfl | (rfl | rfl | rfl) | ⟨imported, himported, rfl⟩ | rfl
    · exact phrase_docstring.mono (by omega)
    · exact (phrase_importFrom "__future__" [] "annotations" []).mono (by simp; omega)
    · exact (phrase_importAs "typing" "_typing").mono (by omega)
    · exact (phrase_importFromAs "modelgen" "provider" "_provider").mono (by omega)
    · obtain ⟨hsegments, hnames, hnamed, hbound⟩ := himports imported himported
      exact (phrase_import hsegments hnames hnamed).mono hbound
    · exact (phrase_provider hfree hclass).mono hreserve
  have hfile := phrase_file hbody ⟨_, rfl, by simp⟩
  simpa [textShapes, preambleImports, List.flatMap_def, Nat.add_assoc] using hfile

end ProviderGen.Provider
