import ProviderGen.Proofs.Provider.Layout
import ProviderGen.Proofs.Lines.Literals

namespace ProviderGen.Provider

open Source

section Indentation

variable [Interpreter]

theorem opens_of_turns {count : Nat} {indents indents' : List (Nat × Nat)} {shapes : List Shape}
    (h : Turns count indents shapes indents') : Opens count [] indents shapes indents' :=
  h

theorem opens_module : Opens 0 [] [] [] [] :=
  opens_of_turns fun _ _ => ⟨_, rfl, rfl⟩

theorem opens_class : Opens 4 [] [] [.indent] [(4, 4)] :=
  opens_of_turns fun _ _ => ⟨_, rfl, rfl⟩

theorem opens_member : Opens 4 [] [(4, 4)] [] [(4, 4)] :=
  opens_of_turns fun _ _ => ⟨_, rfl, rfl⟩

theorem opens_method : Opens 8 [] [(4, 4)] [.indent] [(8, 8), (4, 4)] :=
  opens_of_turns fun _ _ => ⟨_, rfl, rfl⟩

theorem opens_next : Opens 4 [] [(8, 8), (4, 4)] [.dedent] [(4, 4)] :=
  opens_of_turns fun _ _ => ⟨_, rfl, rfl⟩

theorem opens_inner (count : Nat) (opened : Char) (brackets : List Char)
    (indents : List (Nat × Nat)) : Opens count (opened :: brackets) indents [] indents :=
  ⟨rfl, rfl⟩

end Indentation

section Map

variable [Interpreter] {α : Type} {items : List α} {text : α → String} {row : α → List Piece}
variable {entry : α → List Shape} {start indent : String} {count : Nat} {pieces : List Piece}
variable {shapes : List Shape} {indents indents' : List (Nat × Nat)}

theorem reads_map (hindent : indent.toList = List.replicate count ' ')
    (hstart : start.toList = List.replicate count ' ' ++ charsOf pieces)
    (hopens : Opens count [] indents shapes indents')
    (hempty : Row (pieces ++ [.sign "\x7b", .sign "\x7d"]) [] [])
    (hfull : Row (pieces ++ [.sign "\x7b"]) [] ['\x7b'])
    (hrows : ∀ item ∈ items, Row (row item) ['\x7b'] ['\x7b'])
    (htext : ∀ item ∈ items, (text item).toList = charsOf (row item))
    (hentry : ∀ item ∈ items, shapesOf (row item) = entry item ++ [.word ","]) :
    ReadsLines (shapes ++ (shapesOf pieces ++ (display (items.map entry) ++ [.newline])))
      (mapLines start indent (items.map text)) [] indents [] indents' := by
  cases items with
  | nil =>
      have hline : (start ++ "\x7b\x7d").toList = List.replicate count ' ' ++
          charsOf (pieces ++ [.sign "\x7b", .sign "\x7d"]) := by
        simp [hstart, charsOf, Piece.chars]
      have hread := ReadsLines.row hline hopens hempty
      simpa [mapLines, display, shapesOf, Piece.shapes, lineEnd] using hread
  | cons first rest =>
      have hopened : ReadsLines (shapes ++ (shapesOf (pieces ++ [.sign "\x7b"]) ++ []))
          [start ++ "\x7b"] [] indents ['\x7b'] indents' :=
        ReadsLines.row (by simp [hstart, charsOf, Piece.chars]) hopens hfull
      have hitems : ReadsLines ((first :: rest).flatMap fun item => entry item ++ [.word ","])
          ((first :: rest).map fun item => indent ++ "    " ++ text item) ['\x7b'] indents' ['\x7b']
          indents' := by
        refine ReadsLines.map fun item hitem => ?_
        have hline : (indent ++ "    " ++ text item).toList =
            List.replicate (count + 4) ' ' ++ charsOf (row item) := by
          rw [String.toList_append, String.toList_append, hindent, htext item hitem,
            List.replicate_add]
          rfl
        have hread := ReadsLines.row hline (opens_inner _ _ _ indents') (hrows item hitem)
        simpa [hentry item hitem, lineEnd] using hread
      have hclosed : ReadsLines [.word "\x7d", .newline] [indent ++ "\x7d"] ['\x7b'] indents' []
          indents' := by
        have hrow : Row [.sign "\x7d"] ['\x7b'] [] :=
          ⟨by simp [Piece.Valid], by decide, rfl⟩
        have hline : (indent ++ "\x7d").toList =
            List.replicate count ' ' ++ charsOf [.sign "\x7d"] := by
          simp [hindent, charsOf, Piece.chars]
        exact ReadsLines.row hline (opens_inner _ _ _ _) hrow
      have hread := (hopened.append hitems).append hclosed
      simpa [mapLines, display, shapesOf, Piece.shapes, Function.comp_def, List.flatMap_map] using
        hread

end Map

section Entries

variable {model : Model} (hfree : FreelyNamed model)

theorem FreelyNamed.isIdentifier_name (hfree : FreelyNamed model) :
    Text.isIdentifier model.name.toList = true :=
  (Bool.and_eq_true_iff.mp hfree.name).1

theorem FreelyNamed.isIdentifier_method (hfree : FreelyNamed model) {role : Role}
    (hable : (model.ability role).present = true) :
    Text.isIdentifier ((model.ability role).method.getD "").toList = true :=
  (Bool.and_eq_true_iff.mp (hfree.method role hable)).1

/-- The entry of a model in the map of tags, in pieces. -/
def tagPieces (model : Model) : List Piece :=
  [.literal (Text.asciiLiteral model.name).toList, .sign ":", .blank, .word model.name, .sign ","]

/-- The entry of a model in the map of a role, in pieces. -/
def methodPieces (role : Role) (model : Model) : List Piece :=
  let method := Piece.word ((model.ability role).method.getD "")
  .word model.name :: .sign ":" :: .blank :: .word "lambda" :: .blank ::
    match role with
    | .serialize =>
        [.word "_model", .sign ":", .blank, .word "_model", .sign ".", method, .sign "(",
          .sign ")", .sign ","]
    | .deserialize =>
        [.word "_data", .sign ":", .blank, .word model.name, .sign ".", method, .sign "(",
          .word "_data", .sign ")", .sign ","]

theorem toList_tagEntry (model : Model) : (tagEntry model).toList = charsOf (tagPieces model) := by
  simp [tagEntry, tagPieces, charsOf, Piece.chars, ToString.toString]

theorem toList_methodEntry (role : Role) (model : Model) :
    (methodEntry role model).toList = charsOf (methodPieces role model) := by
  cases role <;> simp [methodEntry, methodPieces, charsOf, Piece.chars, ToString.toString]

theorem shapesOf_tagPieces [Interpreter] (model : Model) :
    shapesOf (tagPieces model) = tagShapes model ++ [.word ","] := by
  simp [tagPieces, tagShapes, shapesOf, Piece.shapes, literalShape_asciiLiteral]

theorem shapesOf_methodPieces [Interpreter] (role : Role) (model : Model) :
    shapesOf (methodPieces role model) = methodShapes role model ++ [.word ","] := by
  cases role <;> rfl

include hfree

theorem name_ne_empty : model.name ≠ "" := by
  intro hempty
  have hname := hfree.isIdentifier_name
  rw [hempty] at hname
  cases hname

theorem row_tagPieces : Row (tagPieces model) ['\x7b'] ['\x7b'] where
  valid := by
    have hliteral := valid_asciiLiteral (name_ne_empty hfree)
    simp only [tagPieces, List.forall_mem_cons]
    exact ⟨hliteral, trivial, trivial, hfree.isIdentifier_name, trivial, nofun⟩
  tidy := rfl
  brackets := rfl

theorem row_methodPieces {role : Role} (hable : (model.ability role).present = true) :
    Row (methodPieces role model) ['\x7b'] ['\x7b'] where
  valid := by
    have hmethod := hfree.isIdentifier_method hable
    cases role
    all_goals
      simp [methodPieces, Piece.Valid, hfree.isIdentifier_name, hmethod]
      decide
  tidy := by cases role <;> rfl
  brackets := by cases role <;> rfl

end Entries

/-- The start of the declaration of the map of tags, in pieces. -/
def tagsStart : List Piece :=
  [.word "model_tags", .sign ":", .blank, .word "_typing", .sign ".", .word "Mapping", .sign "[",
    .word "str", .sign ",", .blank, .word "type", .sign "]", .blank, .sign "=", .blank]

/-- What the methods of a role take and give, in pieces. -/
def memberPieces : Role → List Piece × List Piece
  | .serialize =>
      ([.word "_typing", .sign ".", .word "Any"], [.word "_provider", .sign ".", .word "JsonMap"])
  | .deserialize =>
      ([.word "_provider", .sign ".", .word "JsonMap"], [.word "_typing", .sign ".", .word "Any"])

/-- The line that declares the map of a role up to what its methods take, in pieces. -/
def headerStart (role : Role) : List Piece :=
  [.word "def", .blank, .word (roleMap role), .sign "(", .word "self", .sign ")", .blank,
    .sign "->", .blank, .word "_typing", .sign ".", .word "Dict", .sign "[", .word "type",
    .sign ",", .blank, .word "_typing", .sign ".", .word "Callable", .sign "[", .sign "["]

/-- The line that declares the map of a role, in pieces. -/
def headerPieces (role : Role) : List Piece :=
  headerStart role ++ (memberPieces role).1 ++ [.sign "]", .sign ",", .blank] ++
    (memberPieces role).2 ++ [.sign "]", .sign "]", .sign ":"]

theorem row_headerPieces (role : Role) : Row (headerPieces role) [] [] where
  valid := by
    cases role
    all_goals
      simp [headerPieces, headerStart, memberPieces, roleMap, Piece.Valid]
      decide
  tidy := by cases role <;> decide
  brackets := by cases role <;> decide

/-- The line that starts the class, in pieces. -/
def classPieces (className : String) : List Piece :=
  [.word "class", .blank, .word className, .sign "(", .word "_provider", .sign ".",
    .word "ModelProvider", .sign ")", .sign ":"]

theorem toList_classHeader (className : String) :
    (s!"class {className}(_provider.ModelProvider):").toList =
      List.replicate 0 ' ' ++ charsOf (classPieces className) := by
  simp [classPieces, charsOf, Piece.chars, ToString.toString]

theorem shapesOf_classPieces [Interpreter] (className : String) :
    shapesOf (classPieces className) = [.word "class", wordShape className, .word "("] ++
      memberShapes "_provider" "ModelProvider" ++ [.word ")", .word ":"] :=
  rfl

theorem row_classPieces {className : String} (hclass : Text.isIdentifier className.toList = true) :
    Row (classPieces className) [] [] where
  valid := by
    simp [classPieces, Piece.Valid, hclass]
    decide
  tidy := rfl
  brackets := rfl

theorem row_documented {front text : List Char} (hfront : ∀ c ∈ front, IsPlain c)
    (hkept : ∀ c ∈ text, IsKept c) (h : ¬ tripleQuote <:+: text) :
    Row [.literal (documented front text)] [] [] where
  valid := by simpa using valid_documented hfront hkept h
  tidy := rfl
  brackets := rfl

theorem toList_toString_nat (n : Nat) : (toString n).toList = Nat.toDigits 10 n := by
  rw [Nat.toString_eq_repr, Nat.repr_eq_ofList_toDigits, String.toList_ofList]

theorem isPlain_of_isDigit {c : Char} (h : c.isDigit = true) : IsPlain c := by
  refine ⟨?_, ?_, ?_, ?_, ?_⟩
  all_goals
    rintro rfl
    exact absurd h (by decide)

/-- The documentation of a class for some models, up to the full stop. -/
def classDocument (count : Nat) (models : String) : String :=
  s!"Dispatches serialization for {count} discovered {models}"

theorem toList_classDocument (count : Nat) (models : String) :
    (classDocument count models).toList = "Dispatches serialization for ".toList ++
      (Nat.toDigits 10 count ++ (" discovered ".toList ++ models.toList)) := by
  unfold classDocument
  rw [String.toList_append, String.toList_append, String.toList_append, toList_toString_nat,
    List.append_assoc, List.append_assoc]
  rfl

theorem isPlain_classDocument (count : Nat) {models : String}
    (hmodels : ∀ c ∈ models.toList, IsPlain c) :
    ∀ c ∈ (classDocument count models).toList, IsPlain c := by
  have hstart : ∀ c ∈ "Dispatches serialization for ".toList, IsPlain c :=
    forall_of_all (by decide)
  have hnumber : ∀ c ∈ Nat.toDigits 10 count, IsPlain c := fun c hc =>
    isPlain_of_isDigit (Nat.isDigit_of_mem_toDigits (by decide) (by decide) hc)
  have hbetween : ∀ c ∈ " discovered ".toList, IsPlain c := forall_of_all (by decide)
  rw [toList_classDocument]
  simp only [List.forall_mem_append]
  exact ⟨hstart, hnumber, hbetween, hmodels⟩

theorem reads_classDocument [Interpreter] (count : Nat) {models : String}
    (hmodels : ∀ c ∈ models.toList, IsPlain c) :
    ReadsLines [.indent, .string, .newline]
      [s!"    \"\"\"Dispatches serialization for {count} discovered {models}.\"\"\""] [] [] []
      [(4, 4)] := by
  have hplain := isPlain_classDocument count hmodels
  have hrow : Row [.literal (documented (classDocument count models).toList [])] [] [] :=
    row_documented hplain nofun (by decide)
  have hstring : shapesOf [.literal (documented (classDocument count models).toList [])] =
      [.string] := by
    simp [shapesOf, Piece.shapes, literalShape_documented hplain, Literal.escapesComplete]
  have hline :
      (s!"    \"\"\"Dispatches serialization for {count} discovered {models}.\"\"\"").toList =
      List.replicate 4 ' ' ++
        charsOf [.literal (documented (classDocument count models).toList [])] := by
    have hstart : (toString "    \"\"\"Dispatches serialization for ").toList =
        List.replicate 4 ' ' ++ (tripleQuote ++ "Dispatches serialization for ".toList) := by
      decide
    have hfinish : (toString ".\"\"\"").toList = '.' :: tripleQuote := by decide
    rw [String.toList_append, String.toList_append, String.toList_append, String.toList_append,
      toList_toString_nat, hstart, hfinish]
    simp only [charsOf, Piece.chars, documented, tripled, toList_classDocument, List.flatMap_cons,
      List.flatMap_nil, List.append_assoc, List.append_nil, List.cons_append, List.nil_append]
    rfl
  have hread := ReadsLines.row hline opens_class hrow
  rwa [hstring] at hread

section

variable [Interpreter] {registry : Registry} (hfree : ∀ model ∈ registry.models, FreelyNamed model)

include hfree

theorem reads_tags : ReadsLines (tagsShapes registry)
    (mapLines "    model_tags: _typing.Mapping[str, type] = " "    "
      (registry.byName.map tagEntry)) [] [(4, 4)] [] [(4, 4)] := by
  have hfree' : ∀ model ∈ registry.byName, FreelyNamed model := fun model hmodel =>
    hfree model ((Text.perm_sortBy Model.name _).mem_iff.mp hmodel)
  have hvalid : ∀ piece ∈ tagsStart, piece.Valid := by
    simp [tagsStart, Piece.Valid]
    decide
  have hempty : Row (tagsStart ++ [.sign "\x7b", .sign "\x7d"]) [] [] :=
    ⟨by simpa [or_imp, forall_and, Piece.Valid] using hvalid, by decide, by decide⟩
  have hfull : Row (tagsStart ++ [.sign "\x7b"]) [] ['\x7b'] :=
    ⟨by simpa [or_imp, forall_and, Piece.Valid] using hvalid, by decide, by decide⟩
  have hstart : "    model_tags: _typing.Mapping[str, type] = ".toList =
      List.replicate 4 ' ' ++ charsOf tagsStart := by decide
  have hindent : "    ".toList = List.replicate 4 ' ' := by decide
  have hmap := reads_map hindent hstart opens_member hempty hfull
    (fun model hmodel => row_tagPieces (hfree' model hmodel))
    (fun model _ => toList_tagEntry model)
    fun model _ => shapesOf_tagPieces model
  have hshapes : shapesOf tagsStart = .name "model_tags" :: .word ":" ::
      (elementShapes "_typing" "Mapping" [.name "str"] [.name "type"] ++ [.word "="]) :=
    rfl
  simpa [hshapes, tagsShapes] using hmap

theorem reads_role (role : Role) {shapes : List Shape} {indents : List (Nat × Nat)}
    (hopens : Opens 4 [] indents shapes [(4, 4)]) :
    ReadsLines (shapes ++ roleShapes registry role) (roleLines registry role) [] indents []
      [(8, 8), (4, 4)] := by
  have hable : ∀ model ∈ registry.able role,
      FreelyNamed model ∧ (model.ability role).present = true := fun model hmodel => by
    obtain ⟨hmodel, hpresent⟩ :=
      List.mem_filter.mp ((Text.perm_sortBy Model.name _).mem_iff.mp hmodel)
    exact ⟨hfree model hmodel, hpresent⟩
  have hproperty : Row [.sign "@", .word "property"] [] [] :=
    ⟨by simp [Piece.Valid]; decide, by decide, by decide⟩
  have hempty : Row ([.word "return", .blank] ++ [.sign "\x7b", .sign "\x7d"]) [] [] :=
    ⟨by simp [Piece.Valid]; decide, by decide, by decide⟩
  have hfull : Row ([.word "return", .blank] ++ [.sign "\x7b"]) [] ['\x7b'] :=
    ⟨by simp [Piece.Valid]; decide, by decide, by decide⟩
  have hdecorator : ReadsLines (shapes ++ [.word "@", .name "property", .newline])
      ["    @property"] [] indents [] [(4, 4)] :=
    ReadsLines.row (by decide) hopens hproperty
  have hline : (mapHeader role).toList = List.replicate 4 ' ' ++ charsOf (headerPieces role) := by
    cases role <;> decide
  have hheader := ReadsLines.row hline opens_member (row_headerPieces role)
  have hshapes : shapesOf (headerPieces role) = [.word "def", .name (roleMap role), .word "(",
      .name "self", .word ")", .word "->"] ++ roleKind role ++ [.word ":"] := by
    cases role <;> rfl
  have hstart : "        return ".toList =
      List.replicate 8 ' ' ++ charsOf [.word "return", .blank] := by decide
  have hindent : "        ".toList = List.replicate 8 ' ' := by decide
  have hmap := reads_map hindent hstart opens_method hempty hfull
    (fun model hmodel => row_methodPieces (hable model hmodel).1 (hable model hmodel).2)
    (fun model _ => toList_methodEntry role model) fun model _ => shapesOf_methodPieces role model
  have hread := ReadsLines.empty.append (hdecorator.append (hheader.append hmap))
  have hreturn : shapesOf [.word "return", .blank] = [.word "return"] := rfl
  simpa [hshapes, hreturn, roleShapes, roleLines, lineEnd] using hread

theorem reads_class {className : String} (hclass : Text.isIdentifier className.toList = true) :
    ReadsLines (classShapes registry className) (classLines registry className) [] [] []
      [(8, 8), (4, 4)] := by
  have hmodels : ∀ c ∈ (if registry.models.length = 1 then "model" else "models").toList,
      IsPlain c := by
    split <;> exact forall_of_all (by decide)
  have hheader := ReadsLines.row (toList_classHeader className) opens_module
    (row_classPieces hclass)
  have hdocument := reads_classDocument registry.models.length hmodels
  have htags := reads_tags hfree
  have hserialize := reads_role hfree .serialize opens_member
  have hdeserialize := reads_role hfree .deserialize opens_next
  have hread := ReadsLines.empty.append (ReadsLines.empty.append (hheader.append
    (hdocument.append (ReadsLines.empty.append (htags.append (hserialize.append hdeserialize))))))
  rw [shapesOf_classPieces] at hread
  simp only [classShapes, classLines, lineEnd, List.append_assoc, List.cons_append,
    List.nil_append, if_true] at hread ⊢
  exact hread

end

end ProviderGen.Provider
