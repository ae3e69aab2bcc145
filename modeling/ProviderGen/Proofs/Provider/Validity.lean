import ProviderGen.Interpreter.Common
import ProviderGen.Proofs.Provider.Preamble
import ProviderGen.Proofs.Rearrangement
import ProviderGen.Proofs.Recognition.Acceptance
import ProviderGen.Proofs.Wording
import ProviderGen.ProviderName
import ProviderGen.Source.Outline

namespace ProviderGen

theorem exists_map_eq {α β : Type} {f : α → β} {p : α → Prop} {results : List β}
    (h : ∀ result ∈ results, ∃ item, f item = result ∧ p item) :
    ∃ items : List α, results = items.map f ∧ ∀ item ∈ items, p item := by
  induction results with
  | nil => exact ⟨[], rfl, nofun⟩
  | cons first rest ih =>
      obtain ⟨item, rfl, hitem⟩ := h first (by simp)
      obtain ⟨items, rfl, hitems⟩ := ih fun result hresult => h result (by simp [hresult])
      exact ⟨item :: items, rfl, List.forall_mem_cons.mpr ⟨hitem, hitems⟩⟩

theorem exists_of_moduleName {importPath module : String} (h : moduleName importPath = .ok module) :
    ∃ segments : List String, module = ".".intercalate segments ∧ segments ≠ [] ∧
      ∀ segment ∈ segments, Text.isFreeName segment = true := by
  unfold moduleName at h
  dsimp only at h
  split at h
  · cases h
  split at h
  · cases h
  next hsome =>
  split at h
  · cases h
  next hnone =>
  refine ⟨_, (Except.ok.inj h).symm, hsome, ?_⟩
  simpa using hnone

namespace Registry

/-- Names that are imported from the module with some segments. -/
structure Importable (imported : List String × List String) : Prop where
  segments : imported.1 ≠ []
  names : imported.2 ≠ []
  free : ∀ name ∈ imported.1 ++ imported.2, Text.isFreeName name = true

/-- The module and the names to import from it, as they are written. -/
def written (imported : List String × List String) : String × List String :=
  (".".intercalate imported.1, imported.2)

theorem exists_of_imports {registry : Registry} {imports : List (String × List String)}
    (hfree : ∀ model ∈ registry.models, Text.isFreeName model.name = true)
    (h : registry.imports = .ok imports) :
    ∃ entries : List (List String × List String), imports = entries.map written ∧
      ∀ imported ∈ entries, Importable imported := by
  obtain ⟨pairs, rfl, -, hpair⟩ := exists_pairs h
  refine exists_map_eq fun entry hentry => ?_
  obtain ⟨⟨name, hname⟩, hnames, hall⟩ := exists_of_mem_grouped hentry
  obtain ⟨model, -, hmodule, -⟩ := (hpair _ _).mp hname
  obtain ⟨segments, hsegments, hsome, hsegmentsfree⟩ := exists_of_moduleName hmodule
  refine ⟨(segments, entry.2), Prod.ext hsegments.symm rfl, hsome, hnames, ?_⟩
  rw [List.forall_mem_append]
  refine ⟨hsegmentsfree, fun name hname => ?_⟩
  obtain ⟨model, hmem, -, rfl⟩ := (hpair _ _).mp (hall name hname)
  exact hfree model hmem

end Registry

namespace Provider

open Source

theorem toList_join (lines : List String) : (String.join (lines.map (· ++ "\n"))).toList =
    lines.flatMap fun line => line.toList ++ ['\n'] := by
  simp [String.toList_join, List.flatMap_map]

section

variable [Interpreter] {registry : Registry} {className projectName : String}
variable {imports : List (List String × List String)}

theorem reads_lines (hfree : ∀ model ∈ registry.models, FreelyNamed model)
    (hclass : Text.isIdentifier className.toList = true) (hname : StaysInside projectName.toList)
    (himports : ∀ imported ∈ imports, Registry.Importable imported) :
    ReadsLines ([opening projectName, .newline] ++ preambleImports.flatten ++
        imports.flatMap importShapes ++ classShapes registry className)
      (preamble projectName ++ (imports.map Registry.written).map importLine ++
        classLines registry className) [] [] [] [(8, 8), (4, 4)] := by
  have hentries : ReadsLines (imports.flatMap importShapes)
      (imports.map fun imported => importLine (Registry.written imported)) [] [] [] [] := by
    refine ReadsLines.map fun imported himported => ?_
    obtain ⟨hsegments, hnames, hwords⟩ := himports imported himported
    exact reads_import hsegments hnames fun name hname =>
      (Bool.and_eq_true_iff.mp (hwords name hname)).1
  have hread := ((reads_preamble hname).append hentries).append (reads_class hfree hclass)
  rwa [List.map_map]

end

def textOf (lines : List String) : List Char :=
  lines.flatMap fun line => line.toList ++ ['\n']

section

variable [Interpreter] {lines : List String} {shapes : List Shape} {indents : List (Nat × Nat)}

theorem isKept_textOf (h : ReadsLines shapes lines [] [] [] indents) :
    ∀ c ∈ textOf lines, IsKept c := by
  intro c hc
  obtain ⟨line, hline, hc⟩ := List.mem_flatMap.mp hc
  rcases List.mem_append.mp hc with hc | hc
  · exact h.isKept line hline c hc
  · obtain rfl := List.mem_singleton.mp hc
    decide

theorem exists_tokens (h : ReadsLines shapes lines [] [] [] [(8, 8), (4, 4)])
    (hlines : lines ≠ []) :
    ∃ tokens, tokensFrom 1 (withLineFeeds (textOf lines)) = ⟨tokens, none⟩ ∧
      tokens.map shapeOf = shapes ++ [.dedent, .dedent] ++ [.finish] := by
  have hlast : (textOf lines).getLast? = some '\n' := by
    obtain ⟨front, last, rfl⟩ : ∃ front last, lines = front ++ [last] :=
      ⟨_, _, (List.dropLast_append_getLast hlines).symm⟩
    simp [textOf, List.flatMap_append]
  have hturns : Turns 0 [(8, 8), (4, 4)] [.dedent, .dedent] [] := fun _ _ => ⟨_, rfl, rfl⟩
  have hstart : Reads [.dedent, .dedent] ⟨true, List.replicate 0 ' ' ++ [], [], [(8, 8), (4, 4)]⟩
      ⟨false, [], [], []⟩ := Reads.start nofun nofun hturns
  have hall := (h.reads []).trans hstart
  have hreturn : '\r' ∉ textOf lines := fun hmem => (isKept_textOf h _ hmem).1 rfl
  rw [withLineFeeds_of_not_mem hreturn hlast]
  rw [List.append_nil] at hall
  exact tokensFrom_of_reads hall 1

end

section Size

variable {registry : Registry} {imports : List (List String × List String)}

theorem length_le_length_flatMap {α β : Type} {parts : α → List β} (h : ∀ item, parts item ≠ [])
    (items : List α) : items.length ≤ (items.flatMap parts).length := by
  induction items with
  | nil => exact le_rfl
  | cons item items ih =>
      have hitem := List.length_pos_iff.mpr (h item)
      simp only [List.flatMap_cons, List.length_cons, List.length_append]
      omega

theorem length_le_wordsBetween (sign : String) (names : List String) :
    names.length ≤ (wordsBetween sign names).length := by
  cases names with
  | nil => exact le_rfl
  | cons first rest =>
      have hrest : rest.length ≤
          (strung (some sign) (rest.map fun name => [wordShape name])).length := by
        rw [strung, List.flatMap_map]
        exact length_le_length_flatMap (fun _ => by simp) rest
      simp only [wordsBetween, List.length_cons]
      omega

theorem length_le_importShapes (imported : List String × List String) :
    imported.1.length + imported.2.length ≤ (importShapes imported).length := by
  have hsegments := length_le_wordsBetween "." imported.1
  have hnames := length_le_wordsBetween "," imported.2
  simp only [importShapes, List.length_cons, List.length_append]
  omega

theorem length_models_le (className : String) :
    registry.models.length ≤ (classShapes registry className).length := by
  have htags : registry.models.length ≤ (display (registry.byName.map tagShapes)).length := by
    have hcomma : ∀ item : List Shape, item ++ [.word ","] ≠ [] := fun _ => by simp
    have hentries := length_le_length_flatMap hcomma (registry.byName.map tagShapes)
    have hcount : (registry.byName.map tagShapes).length = registry.models.length := by
      rw [List.length_map, Registry.byName, Text.length_sortBy]
    simp only [display, List.length_cons, List.length_append]
    omega
  simp only [classShapes, tagsShapes, List.length_cons, List.length_append]
  omega

theorem length_le_textShapes (opened : Shape) (className : String) :
    registry.models.length + imports.length ≤
        (textShapes opened registry className imports).length ∧
      ∀ imported ∈ imports, imported.1.length + imported.2.length ≤
        (textShapes opened registry className imports).length := by
  have hmodels : registry.models.length ≤ (classShapes registry className).length :=
    length_models_le className
  have hentry : ∀ imported, importShapes imported ≠ [] := fun _ => by simp [importShapes]
  have himports := length_le_length_flatMap hentry imports
  have hlength : (imports.flatMap importShapes).length + (classShapes registry className).length ≤
      (textShapes opened registry className imports).length := by
    simp only [textShapes, List.length_append]
    omega
  refine ⟨by omega, fun imported himported => ?_⟩
  have hmember : (importShapes imported).Sublist (imports.flatMap importShapes) := by
    rw [List.flatMap_def]
    exact List.sublist_flatten_of_mem (List.mem_map_of_mem himported)
  have hparts := length_le_importShapes imported
  have hsize := hmember.length_le
  omega

end Size

section

variable {registry : Registry} {className projectName : String}
variable {imports : List (List String × List String)}

/-- A provider module is accepted unless the documentation of the module is flawed. -/
theorem comes_textShapes (hfree : ∀ model ∈ registry.models, FreelyNamed model)
    (hclass : Text.isFreeName className = true)
    (himports : ∀ imported ∈ imports, Registry.Importable imported) {shapes : List Shape}
    {complete : Bool}
    (hshapes : shapes =
      textShapes (if complete then .string else .flawed) registry className imports) :
    ∃ extent, Comes (.rule (.statement .file)) [] (2 * shapes.length + 2600) shapes extent ∧
      extent.accepts = complete := by
  cases complete with
  | false =>
      refine ⟨.wrong, ?_, rfl⟩
      rw [hshapes]
      exact (comes_flawed.before _).mono (by omega)
  | true =>
      replace hshapes : shapes = textShapes .string registry className imports := hshapes
      have hlength : registry.models.length + imports.length ≤ shapes.length ∧
          ∀ imported ∈ imports, imported.1.length + imported.2.length ≤ shapes.length :=
        hshapes ▸ length_le_textShapes .string className
      obtain ⟨hcount, hlengths⟩ := hlength
      have hphrase : Phrase (.statement .file) [] (shapes.length + 2300 + imports.length + 300)
          (textShapes .string registry className imports) [] := by
        refine phrase_text hfree hclass (fun imported himported => ?_) (by omega)
        obtain ⟨hsegments, hnames, hwords⟩ := himports imported himported
        have hlength := hlengths imported himported
        exact ⟨hsegments, hnames, hwords, by omega⟩
      refine ⟨.upTo shapes.length, ?_, rfl⟩
      rw [← hshapes, Phrase, List.append_nil] at hphrase
      exact hphrase.mono (by omega)

variable [Interpreter]

theorem opening_eq (projectName : String) : opening projectName =
    if Literal.escapesComplete (projectName.toList ++ ['.']) then .string else .flawed :=
  literalShape_documented isPlain_documentFront

/-- A provider module of free names is accepted exactly if its documentation has complete escapes
and the interpreter does not break down on it. -/
theorem isOk_outline_of_lines (hfree : ∀ model ∈ registry.models, FreelyNamed model)
    (hclass : Text.isFreeName className = true) (hname : StaysInside projectName.toList)
    (himports : ∀ imported ∈ imports, Registry.Importable imported) {text : String}
    (htext : text.toList = textOf (preamble projectName ++
      (imports.map Registry.written).map importLine ++ classLines registry className)) :
    (Source.outline text).isOk = ((Interpreter.sourceBreakdown? text).isNone &&
      Literal.escapesComplete (projectName.toList ++ ['.'])) := by
  have hlines := reads_lines hfree (Bool.and_eq_true_iff.mp hclass).1 hname himports
  obtain ⟨tokens, htokens, hshapes⟩ := exists_tokens hlines (by simp [preamble])
  have hshapes : tokens.map shapeOf = textShapes
      (if Literal.escapesComplete (projectName.toList ++ ['.']) then .string else .flawed)
      registry className imports := by
    rw [hshapes, textShapes, ← opening_eq]
    simp
  obtain ⟨extent, hcomes, haccepts⟩ := comes_textShapes hfree hclass himports hshapes
  rw [← htext] at htokens
  have hbound : 2 * (tokens.map shapeOf).length + 2600 + 9 ≤ searchBound ⟨tokens, none⟩ := by
    simp only [List.length_map, searchBound]
    omega
  have hparse : (parse text.toList).isOk =
      Literal.escapesComplete (projectName.toList ++ ['.']) := by
    rw [parse_of_comes htokens hcomes hbound, haccepts]
  have hnull : text.toList.contains '\x00' = false := by
    rw [List.contains_eq_mem, decide_eq_false_iff_not, htext]
    exact fun hmem => (isKept_textOf hlines _ hmem).2 rfl
  rw [← hparse, Source.outline, hnull]
  cases Interpreter.sourceBreakdown? text with
  | some message => rfl
  | none => cases parse text.toList <;> rfl

end

theorem isFreeName_providerName {projectName : String}
    (h : Text.isIdentifier (providerName projectName).toList = true) :
    Text.isFreeName (providerName projectName) = true := by
  have hshort : ∀ word ∈ Text.reservedWords, word.length < "ModelProvider".length := by decide
  have hlong : "ModelProvider".length ≤ (providerName projectName).length := by
    rw [providerName, String.length_append]
    omega
  have hfree : Text.reservedWords.contains (providerName projectName) = false := by
    rw [List.contains_eq_mem, decide_eq_false_iff_not]
    intro hmem
    have := hshort _ hmem
    omega
  rw [Text.isFreeName, h, hfree]
  rfl

theorem staysInside_of_isIdentifier [Interpreter] {name : String}
    (h : Text.isIdentifier name.toList = true) :
    StaysInside name.toList ∧ Literal.escapesComplete (name.toList ++ ['.']) = true := by
  obtain ⟨-, -, -, -, hgoes⟩ := exists_of_isIdentifier h
  have hplain : ∀ c ∈ name.toList, IsPlain c := by
    intro c hc
    have hname := hgoes c hc
    refine ⟨?_, ?_, ?_, ?_, ?_⟩
    all_goals
      rintro rfl
      exact absurd hname (by decide)
  refine ⟨⟨fun c hc => (hplain c hc).2.2.2, fun hline => (hplain _ hline).2.2.1 rfl, ?_⟩, ?_⟩
  · intro hinner
    exact (hplain '"' (hinner.subset (by simp [tripleQuote]))).1 rfl
  · rw [escapesComplete_of_plainText hplain]
    rfl

/-- What a provider module calls its project. -/
def shownName (className projectName : String) : String :=
  if projectName = "" then className else projectName

theorem toList_textWith (registry : Registry) (className projectName : String)
    (imports : List (String × List String)) :
    (textWith registry className projectName imports).toList =
      textOf (preamble (shownName className projectName) ++ imports.map importLine ++
        classLines registry className) :=
  toList_join _

theorem staysInside_shownName [Interpreter] {className projectName : String}
    (hclass : Text.isIdentifier className.toList = true) (hname : StaysInside projectName.toList) :
    StaysInside (shownName className projectName).toList ∧
      Literal.escapesComplete ((shownName className projectName).toList ++ ['.']) =
        Literal.escapesComplete (projectName.toList ++ ['.']) := by
  unfold shownName
  split
  · next hempty =>
      obtain ⟨hinside, hcomplete⟩ := staysInside_of_isIdentifier hclass
      rw [hempty, hcomplete]
      exact ⟨hinside, rfl⟩
  · exact ⟨hname, rfl⟩

/-- The provider of models with free names is a valid source text exactly if the escapes in the
project's name are complete and the interpreter does not break down on the text, where the name
stays inside the comment and the documentation that it is put into. -/
theorem isOk_outline_source [Interpreter] {registry : Registry} {projectName text : String}
    (hfree : ∀ model ∈ registry.models, FreelyNamed model)
    (hname : StaysInside projectName.toList)
    (hsource : source registry (providerName projectName) projectName = .ok text) :
    (Source.outline text).isOk = ((Interpreter.sourceBreakdown? text).isNone &&
      Literal.escapesComplete (projectName.toList ++ ['.'])) := by
  rw [source_eq] at hsource
  split at hsource
  · cases hsource
  next hclass =>
  rw [Bool.not_eq_false] at hclass
  split at hsource
  · cases hsource
  obtain ⟨imports, himports, hsource⟩ := bind_eq_ok_iff.mp hsource
  obtain rfl := Except.ok.inj hsource
  have hregistry : registry.imports = .ok imports := by
    cases hregistry : registry.imports with
    | error failure =>
        rw [hregistry] at himports
        cases himports
    | ok named =>
        rw [hregistry] at himports
        rw [Except.ok.inj himports]
  obtain ⟨entries, rfl, hentries⟩ := Registry.exists_of_imports
    (fun model hmodel => (hfree model hmodel).name) hregistry
  obtain ⟨hinside, hcomplete⟩ := staysInside_shownName hclass hname
  rw [← hcomplete]
  exact isOk_outline_of_lines hfree (isFreeName_providerName hclass) hinside hentries
    (toList_textWith _ _ _ _)

open Interpreter.Common

/-- A model that can be written, in a package. -/
def invoice : Model where
  name := "Invoice"
  importPath := "shop/models.py"
  serializer := .ofMethod (some "to_json")
  deserializer := .none

theorem freelyNamed_invoice : FreelyNamed invoice where
  name := by decide
  method role hable := by
    cases role with
    | serialize => decide
    | deserialize => cases hable

theorem staysInside_shop : StaysInside "shop".toList where
  kept := forall_of_all (by decide)
  unbroken := by decide
  unquoted := by decide

theorem isOk_outline_source_invoice : ∃ text,
    source ⟨[invoice]⟩ (providerName "shop") "shop" = .ok text ∧
      (Source.outline text).isOk = true := by
  have hsome : (source ⟨[invoice]⟩ (providerName "shop") "shop").isOk = true := by decide
  cases hsource : source ⟨[invoice]⟩ (providerName "shop") "shop" with
  | error failure =>
      rw [hsource] at hsome
      cases hsome
  | ok text =>
      have hfree : ∀ model ∈ Registry.models ⟨[invoice]⟩, FreelyNamed model := by
        simpa using freelyNamed_invoice
      refine ⟨text, rfl, ?_⟩
      have hsurvived : Interpreter.sourceBreakdown? text = none := rfl
      have hescapes : Literal.escapesComplete ("shop".toList ++ ['.']) = true := by decide +kernel
      rw [isOk_outline_source hfree staysInside_shop hsource, hsurvived, hescapes]
      rfl

/-- On an interpreter that does not break down, the provider of no models, for a project named like
a path, is no valid source text. -/
theorem not_forall_isOk_outline :
    ¬ ∀ (workplace : Workplace) (paths : List Path) (models : List Model)
      (projectName text : String), (workplace.analyze paths).result = .ok models →
        source ⟨models⟩ (providerName projectName) projectName = .ok text →
          (Source.outline text).isOk = true := by
  intro h
  have hname : StaysInside "team\\users".toList :=
    ⟨forall_of_all (by decide +kernel), by decide +kernel, by decide +kernel⟩
  have hclass : Text.isIdentifier (providerName "team\\users").toList = true := by decide +kernel
  have hsource : source ⟨[]⟩ (providerName "team\\users") "team\\users" =
      .ok (textWith ⟨[]⟩ (providerName "team\\users") "team\\users" []) := by
    rw [source_eq, hclass]
    rfl
  have hvalid := h ⟨⟨.directory [], [], "/"⟩, ⟨[], [], []⟩, ⟨.root, []⟩⟩ [] [] _ _ rfl hsource
  have hfree : ∀ model ∈ Registry.models ⟨[]⟩, FreelyNamed model := nofun
  have himports : ∀ imported ∈ ([] : List (List String × List String)),
      Registry.Importable imported := nofun
  have hflawed := isOk_outline_of_lines hfree (isFreeName_providerName hclass) hname himports
    (toList_textWith ⟨[]⟩ (providerName "team\\users") "team\\users" [])
  rw [hvalid] at hflawed
  exact absurd hflawed (by decide +kernel)

end Provider

end ProviderGen
