import ProviderGen.Proofs.Agreement
import ProviderGen.Proofs.Declared
import ProviderGen.Proofs.Respelling
import ProviderGen.Proofs.Spelling
import ProviderGen.Proofs.Wording

/-!
What a text that declares models mentions. The word `class` is there as it is; the keyword that
marks a method is there too, unless the name of the method is spelled with other characters.
-/

namespace ProviderGen

namespace Discovery

variable {discovery : Discovery} {part text : String}

theorem Mentioned.of_infix (h : discovery.Mentioned part) (hpart : part.toList <:+: text.toList) :
    discovery.Mentioned text := by
  obtain ⟨role, keyword, hkeyword, hmarked⟩ := h
  exact ⟨role, keyword, hkeyword, hmarked.trans hpart⟩

end Discovery

namespace Source

/-- The names among the tokens of a text, as they are spelled. -/
def namesIn (text : String) : List String :=
  ((tokensFrom 1 (withLineFeeds text.toList)).tokens.filter (·.kind = .name)).map (·.text)

variable {text : String}

theorem infix_of_token {token : Token}
    (htoken : token ∈ (tokensFrom 1 (withLineFeeds text.toList)).tokens)
    (hline : '\n' ∉ token.text.toList) : token.text.toList <:+: text.toList :=
  infix_of_withLineFeeds (liesIn_tokensFrom 1 _ token htoken).part hline

theorem infix_of_mem_namesIn {name : String} (h : name ∈ namesIn text) :
    name.toList <:+: text.toList := by
  obtain ⟨token, hmem, rfl⟩ := List.mem_map.mp h
  obtain ⟨htoken, hkind⟩ := List.mem_filter.mp hmem
  refine infix_of_token htoken ?_
  intro hline
  have hword := (liesIn_tokensFrom 1 _ token htoken).word (by simpa using hkind) _ hline
  exact absurd hword (by decide)

theorem stated_of_outline [Interpreter] {found : Outline} (h : outline text = .ok found) :
    ∀ statement ∈ found.statements,
      Stated (tokensFrom 1 (withLineFeeds text.toList)).tokens.toArray statement := by
  obtain ⟨-, -, tree, hparse, rfl⟩ := outline_eq_ok_iff.mp h
  exact stated_of_parse hparse

theorem infix_class_of_stated {name : String} {body : List Statement}
    (h : Stated (tokensFrom 1 (withLineFeeds text.toList)).tokens.toArray (.classDef name body)) :
    "class".toList <:+: text.toList := by
  cases h with
  | classDef hword _ _ =>
      obtain ⟨word, hmem, -, hclass⟩ := hword
      rw [← hclass]
      exact infix_of_token (List.mem_toArray.mp hmem) (by rw [hclass]; decide)

theorem exists_mem_namesIn {name : String}
    (h : Spelled (tokensFrom 1 (withLineFeeds text.toList)).tokens.toArray name) :
    ∃ word ∈ namesIn text, Text.compatible word = name := by
  obtain ⟨token, hmem, hkind, hname⟩ := h
  refine ⟨token.text, List.mem_map_of_mem ?_, hname⟩
  rw [List.mem_filter]
  exact ⟨List.mem_toArray.mp hmem, by simpa using hkind⟩

end Source

namespace Workplace

open Source Detection

section Declaring

variable [Interpreter] {workplace : Workplace} {path : Path} {text : String} {models : List Model}

/-- A text that declares models contains `class`, and a name in it is the same as one that mentions
a keyword. -/
theorem exists_name_of_result (h : (workplace.analyzeText path text).result = .ok models)
    (hmodels : models ≠ []) :
    "class".toList <:+: text.toList ∧
      ∃ name ∈ namesIn text, workplace.discovery.Mentioned (Text.compatible name) := by
  obtain ⟨outline, importPath, houtline, rfl, -⟩ := exists_detect_of_analyzeText h
  obtain ⟨detected, hmem⟩ := List.exists_mem_of_ne_nil _ (mt List.map_eq_nil_iff.mpr hmodels)
  obtain ⟨body, -, hlast, -, role, method, hoffers, keyword, hkeyword, hmarked⟩ :=
    mem_detect.mp hmem
  obtain ⟨decorators, hmethod, -⟩ := hoffers
  have hclass := stated_of_outline houtline _ hlast.mem
  refine ⟨infix_class_of_stated hclass, ?_⟩
  cases hclass with
  | classDef _ _ hbody =>
      cases hbody _ hmethod with
      | functionDef hname =>
          obtain ⟨word, hword, rfl⟩ := exists_mem_namesIn hname
          exact ⟨word, hword, role, keyword, hkeyword, hmarked⟩

/-- A text that declares models may do so for the collector too, unless a keyword is mentioned by a
name that is spelled with characters that stand for others. -/
theorem mayDeclare_or_respelled (h : (workplace.analyzeText path text).result = .ok models)
    (hmodels : models ≠ []) :
    "class".toList <:+: text.toList ∧
      (Collection.mayDeclare workplace.discovery text = true ∨
        ∃ name ∈ namesIn text, Text.compatible name ≠ name ∧
          workplace.discovery.Mentioned (Text.compatible name)) := by
  obtain ⟨hclass, name, hname, hmentioned⟩ := exists_name_of_result h hmodels
  refine ⟨hclass, ?_⟩
  by_cases hsame : Text.compatible name = name
  · rw [hsame] at hmentioned
    have htext := hmentioned.of_infix (infix_of_mem_namesIn hname)
    exact .inl (Collection.mayDeclare_iff.mpr ⟨hclass, htext⟩)
  · exact .inr ⟨name, hname, hsame, hmentioned⟩

end Declaring

open Interpreter.Common

/-- A text whose only method is spelled with a long s. -/
def hiddenText : String := "class A:\n def to_jſon(s): 0\n"

/-- The model that the text declares. -/
def hiddenModel : Model := ⟨"A", "a.py", .ofMethod "to_json", .none⟩

/-- A tree of a class that holds a single function, of names that are spelled as given. -/
def isSingle (className method : String) : Tree → Bool
  | .node .module _ (.node .sequence _ [.node .block _ [.node .sequence _
      [.node .classDef _ [_, .leaf first, _, _, .node .block _ [.node .sequence _
        [.node .functionDef _ (_ :: .leaf second :: _)]]]]]] :: _) =>
      first.text == className && second.text == method
  | _ => false

theorem outline_of_isSingle {className method : String} {tree : Tree}
    (h : isSingle className method tree = true) :
    tree.outline.statements =
      [.classDef (Text.compatible className) [.functionDef (Text.compatible method) []]] := by
  unfold isSingle at h
  split at h
  · simp only [Bool.and_eq_true, beq_iff_eq] at h
    simp [Tree.outline, Tree.statementsOfAll, Tree.statement, Tree.nameOf?, h.1, h.2]
  · cases h

theorem outline_of_single {text className method : String}
    (hnull : text.toList.contains '\x00' = false)
    (hparse : (parse text.toList).toOption.any (isSingle className method) = true) :
    Source.outline text = .ok ⟨[.classDef (Text.compatible className)
      [.functionDef (Text.compatible method) []]]⟩ := by
  obtain ⟨tree, htree, hsingle⟩ := exists_of_any_toOption hparse
  have hstatements := outline_of_isSingle hsingle
  exact outline_eq_ok_iff.mpr ⟨by simpa using hnull, rfl, tree, htree, by simp [← hstatements]⟩

theorem outline_hiddenText :
    Source.outline hiddenText = .ok ⟨[.classDef "A" [.functionDef "to_json" []]]⟩ := by
  have houtline : Source.outline hiddenText = .ok ⟨[.classDef (Text.compatible "A")
      [.functionDef (Text.compatible Text.longName) []]]⟩ :=
    outline_of_single (by decide) (by decide +kernel)
  rwa [Text.compatible_longName, Text.compatible_of_ascii (Text.ascii_of_all (by decide))]
    at houtline

theorem result_hiddenText :
    (emptyWorkplace.analyzeText ⟨.root, ["a.py"]⟩ hiddenText).result = .ok [hiddenModel] := by
  have hdetect : detect emptyWorkplace.discovery ⟨[.classDef "A" [.functionDef "to_json" []]]⟩ =
      [⟨"A", some "to_json", none⟩] := by
    decide
  have himport : emptyWorkplace.importPath ⟨.root, ["a.py"]⟩ = .ok "a.py" := by decide
  rw [result_analyzeText_of_outline outline_hiddenText himport, hdetect]
  rfl

theorem mayDeclare_or_respelled_hiddenText :
    (emptyWorkplace.analyzeText ⟨.root, ["a.py"]⟩ hiddenText).result = .ok [hiddenModel] ∧
      [hiddenModel] ≠ [] ∧ "class".toList <:+: hiddenText.toList ∧
        (Collection.mayDeclare emptyWorkplace.discovery hiddenText = true ∨
          ∃ name ∈ namesIn hiddenText, Text.compatible name ≠ name ∧
            emptyWorkplace.discovery.Mentioned (Text.compatible name)) :=
  ⟨result_hiddenText, by simp, mayDeclare_or_respelled result_hiddenText (by simp)⟩

/-- Some text declares a model but may not do so for the collector. -/
theorem not_forall_mayDeclare :
    ¬ ∀ (workplace : Workplace) (path : Path) (text : String) (models : List Model),
      (workplace.analyzeText path text).result = .ok models → models ≠ [] →
        Collection.mayDeclare workplace.discovery text = true := by
  intro h
  have hmay := h emptyWorkplace _ hiddenText [hiddenModel] result_hiddenText (by simp)
  exact absurd hmay (by decide)

end Workplace

end ProviderGen
