import ProviderGen.Proofs.Provider.Validity

namespace ProviderGen

open Source Source.Number

namespace Text

theorem not_mem_intercalate {c : Char} {separator : String} {texts : List String}
    (hseparator : c ∉ separator.toList) (h : ∀ text ∈ texts, c ∉ text.toList) :
    c ∉ (separator.intercalate texts).toList := by
  induction texts with
  | nil => simp
  | cons text texts ih =>
      obtain ⟨htext, htexts⟩ := List.forall_mem_cons.mp h
      cases texts with
      | nil => simpa using htext
      | cons next others =>
          rw [String.intercalate_cons_cons]
          simpa [htext, hseparator] using ih htexts

end Text

/-- The words of a line: what stands between blanks. -/
def wordsIn (line : String) : List String :=
  (Text.pieces ' ' line).filter (· ≠ "")

/-- The name at the start of a word. -/
def headName (word : String) : String :=
  String.ofList (word.toList.takeWhile goesOnInName)

/-- What follows the name at the start of a word and the sign after it. -/
def afterName (word : String) : String :=
  String.ofList ((word.toList.dropWhile goesOnInName).drop 1)

section Words

variable {name word : String}

theorem wordsIn_append (line rest : String) :
    wordsIn (line ++ " " ++ rest) = wordsIn line ++ wordsIn rest := by
  have hpieces := Text.pieces_append ' ' line rest
  rw [wordsIn, wordsIn, wordsIn, ← List.filter_append, ← hpieces]
  rfl

theorem wordsIn_blank (line : String) : wordsIn (" " ++ line) = wordsIn line :=
  wordsIn_append "" line

theorem wordsIn_indent {indent : String} (h : indent.toList.all (· == ' ') = true)
    (line : String) : wordsIn (indent ++ line) = wordsIn line := by
  obtain ⟨chars, rfl⟩ : ∃ chars, indent = String.ofList chars := ⟨_, String.ofList_toList.symm⟩
  rw [String.toList_ofList] at h
  induction chars with
  | nil => rw [String.ofList_nil, String.empty_append]
  | cons c chars ih =>
      obtain ⟨rfl, hchars⟩ : c = ' ' ∧ chars.all (· == ' ') = true := by simpa using h
      have hcons : String.ofList (' ' :: chars) ++ line = " " ++ (String.ofList chars ++ line) :=
        String.toList_inj.mp (by simp)
      rw [hcons, wordsIn_blank, ih hchars]

theorem wordsIn_word (hblank : ' ' ∉ word.toList) (hsome : word ≠ "") : wordsIn word = [word] := by
  rw [wordsIn, Text.pieces_of_not_mem hblank]
  simpa using hsome

theorem not_mem_of_isIdentifier {c : Char} (h : Text.isIdentifier name.toList = true)
    (hc : goesOnInName c = false) : c ∉ name.toList := by
  obtain ⟨-, -, -, -, hall⟩ := exists_of_isIdentifier h
  intro hmem
  rw [hall c hmem] at hc
  cases hc

theorem blank_not_mem (h : Text.isIdentifier name.toList = true) : ' ' ∉ name.toList :=
  not_mem_of_isIdentifier h (by decide)

theorem lineFeed_not_mem (h : Text.isIdentifier name.toList = true) : '\n' ∉ name.toList :=
  not_mem_of_isIdentifier h (by decide)

theorem ne_empty_of_isIdentifier (h : Text.isIdentifier name.toList = true) : name ≠ "" := by
  rintro rfl
  cases h

theorem headName_append {rest : String} (h : Text.isIdentifier name.toList = true)
    (hrest : rest.toList.head?.any goesOnInName = false) : headName (name ++ rest) = name := by
  obtain ⟨-, -, -, -, hall⟩ := exists_of_isIdentifier h
  have hstop : rest.toList.takeWhile goesOnInName = [] := by
    cases hchars : rest.toList with
    | nil => rfl
    | cons c chars =>
        rw [hchars] at hrest
        exact List.takeWhile_cons_of_neg (by simpa using hrest)
  rw [headName, String.toList_append, List.takeWhile_append_of_pos hall, hstop, List.append_nil,
    String.ofList_toList]

theorem afterName_append (sign : Char) (rest : String) (h : Text.isIdentifier name.toList = true)
    (hsign : goesOnInName sign = false) :
    afterName (name ++ String.singleton sign ++ rest) = rest := by
  obtain ⟨-, -, -, -, hall⟩ := exists_of_isIdentifier h
  have hchars : (name ++ String.singleton sign ++ rest).toList =
      name.toList ++ sign :: rest.toList := by simp
  rw [afterName, hchars, List.dropWhile_append_of_pos hall,
    List.dropWhile_cons_of_neg (by simp [hsign])]
  simp

end Words

namespace Provider

/-- What a line of a provider says about models: names that are imported from a module, the key of
a class among the tags, or the method of a class for a role and what it is a method of. -/
inductive Entry
  | imported (module : String) (names : List String)
  | tagged (key name : String)
  | mapped (role : Role) (name subject method : String)
  deriving DecidableEq

def Entry.name : Entry → String
  | imported module _ => module
  | tagged _ name => name
  | mapped _ name _ _ => name

def Entry.line : Entry → String
  | imported module names => importLine (module, names)
  | tagged key name => s!"{key}: {name},"
  | mapped .serialize name subject method => s!"{name}: lambda _model: {subject}.{method}(),"
  | mapped .deserialize name subject method => s!"{name}: lambda _data: {subject}.{method}(_data),"

/-- What a line says, by its words. -/
def entryOf? (line : String) : Option Entry :=
  match wordsIn line with
  | "from" :: module :: "import" :: names => some (.imported module (names.map headName))
  | [name, "lambda", "_model:", call] =>
      some (.mapped .serialize (headName name) (headName call) (headName (afterName call)))
  | [name, "lambda", "_data:", call] =>
      some (.mapped .deserialize (headName name) (headName call) (headName (afterName call)))
  | [key, name] =>
      if key.toList.head? = some '"' then
        some (.tagged (String.ofList key.toList.dropLast) (headName name))
      else
        none
  | _ => none

/-- What the provider of a class says about models, line by line after the lines in front of the
imports. -/
def entriesIn (className projectName text : String) : List Entry :=
  let front := textOf (preamble (shownName className projectName))
  (Text.pieces '\n' (String.ofList (text.toList.drop front.length))).filterMap entryOf?

theorem entryOf?_indent {indent : String} (h : indent.toList.all (· == ' ') = true)
    (line : String) : entryOf? (indent ++ line) = entryOf? line := by
  simp only [entryOf?, wordsIn_indent h]

theorem ne_of_mem_literalCharacter {c d : Char} (h : d ∈ Text.literalCharacter c) :
    d ≠ '\n' ∧ (d = ' ' → c = ' ') := by
  have hnumbered : d ∈ Text.numbered c → d ≠ '\n' ∧ (d = ' ' → c = ' ') := by
    intro h
    obtain ⟨unit, hunit, hmem⟩ := List.mem_flatMap.mp h
    have hmem : d ∈ ['\\', 'u'] ++ Text.hexadecimal 4 unit := hmem
    have hdigits := (hexadecimal_four (lt_of_mem_units16 hunit)).2
    have hname : ∀ e ∈ ['\\', 'u'], e ≠ '\n' ∧ e ≠ ' ' := by simp
    have hplain : d ≠ '\n' ∧ d ≠ ' ' := by
      rcases List.mem_append.mp hmem with hmem | hmem
      · exact hname d hmem
      · refine ⟨?_, ?_⟩ <;>
        · rintro rfl
          exact absurd (hdigits _ hmem) (by decide)
    exact ⟨hplain.1, fun heq => absurd heq hplain.2⟩
  have hescape : ∀ e : Char, e ≠ '\n' → e ≠ ' ' → d ∈ ['\\', e] →
      d ≠ '\n' ∧ (d = ' ' → c = ' ') := by
    intro e hline hblank hmem
    rcases List.mem_pair.mp hmem with rfl | rfl
    · exact ⟨by decide, fun heq => absurd heq (by decide)⟩
    · exact ⟨hline, fun heq => absurd heq hblank⟩
  unfold Text.literalCharacter at h
  split at h
  · next hquote =>
      simp only [Bool.or_eq_true, beq_iff_eq] at hquote
      rcases hquote with rfl | rfl <;> exact hescape _ (by decide) (by decide) h
  split at h
  · exact hescape 'n' (by decide) (by decide) h
  next hline =>
  iterate 4
    split at h
    · exact hescape _ (by decide) (by decide) h
  split at h
  · exact hnumbered h
  split at h
  · obtain rfl := List.mem_singleton.mp h
    exact ⟨by simpa using hline, id⟩
  · exact hnumbered h

theorem not_mem_asciiLiteral {name : String} (h : Text.isIdentifier name.toList = true) :
    ' ' ∉ (Text.asciiLiteral name).toList ∧ '\n' ∉ (Text.asciiLiteral name).toList := by
  have hblank := blank_not_mem h
  simp only [Text.asciiLiteral, String.toList_ofList, List.mem_append, List.mem_cons,
    List.mem_flatMap, List.not_mem_nil, or_false, not_or, not_exists, not_and]
  refine ⟨⟨⟨by decide, ?_⟩, by decide⟩, ⟨by decide, ?_⟩, by decide⟩
  · intro c hc hmem
    exact hblank ((ne_of_mem_literalCharacter hmem).2 rfl ▸ hc)
  · intro c hc hmem
    exact (ne_of_mem_literalCharacter hmem).1 rfl

section Lines

variable {model : Model} {role : Role}

/-- A model whose name is an identifier, as is each method that it has for what it can do. -/
structure Identified (model : Model) : Prop where
  name : Text.isIdentifier model.name.toList = true
  method : ∀ role, (model.ability role).present = true →
    Text.isIdentifier ((model.ability role).method.getD "").toList = true

/-- What the entry of a model among the tags says. -/
def tagOf (model : Model) : Entry :=
  .tagged (Text.asciiLiteral model.name) model.name

/-- What the entry of a model in the map of a role says. -/
def mappedOf (role : Role) (model : Model) : Entry :=
  let subject := match role with
    | .serialize => "_model"
    | .deserialize => model.name
  .mapped role model.name subject ((model.ability role).method.getD "")

theorem line_tagOf (model : Model) : (tagOf model).line = tagEntry model := rfl

theorem line_mappedOf (role : Role) (model : Model) :
    (mappedOf role model).line = methodEntry role model := by
  cases role with
  | serialize =>
      exact String.toList_inj.mp (by simp [mappedOf, Entry.line, methodEntry, ToString.toString])
  | deserialize => rfl

theorem wordsIn_cons {word : String} (hblank : ' ' ∉ word.toList) (hsome : word ≠ "")
    (rest : String) : wordsIn (word ++ " " ++ rest) = word :: wordsIn rest := by
  rw [wordsIn_append, wordsIn_word hblank hsome, List.singleton_append]

theorem entryOf?_tagEntry (h : Identified model) : entryOf? (tagEntry model) = some (tagOf model) := by
  have hline : tagEntry model =
      Text.asciiLiteral model.name ++ ":" ++ " " ++ (model.name ++ ",") :=
    String.toList_inj.mp (by simp [tagEntry, ToString.toString])
  have hblank := blank_not_mem h.name
  have hwords : wordsIn (tagEntry model) =
      [Text.asciiLiteral model.name ++ ":", model.name ++ ","] := by
    rw [hline, wordsIn_cons (by simpa using (not_mem_asciiLiteral h.name).1) (by simp),
      wordsIn_word (by simpa using hblank) (by simp)]
  have hquote : (Text.asciiLiteral model.name ++ ":").toList.head? = some '"' := by
    simp [Text.asciiLiteral]
  have hkey : String.ofList (Text.asciiLiteral model.name ++ ":").toList.dropLast =
      Text.asciiLiteral model.name := by
    simp
  have hname : headName (model.name ++ ",") = model.name := headName_append h.name (by decide)
  unfold entryOf?
  rw [hwords]
  simp only [hquote, hkey, hname, if_true, tagOf]

section Call

variable {name subject method rest : String} (hsubject : Text.isIdentifier subject.toList = true)
  (hmethod : Text.isIdentifier method.toList = true)

include hsubject hmethod

theorem headName_call (hrest : rest.toList.head?.any goesOnInName = false) :
    headName (subject ++ "." ++ (method ++ rest)) = subject ∧
      headName (afterName (subject ++ "." ++ (method ++ rest))) = method := by
  have hafter : afterName (subject ++ "." ++ (method ++ rest)) = method ++ rest :=
    afterName_append '.' _ hsubject (by decide)
  refine ⟨?_, by rw [hafter, headName_append hmethod hrest]⟩
  rw [String.append_assoc]
  exact headName_append hsubject (by simp; decide)

theorem wordsIn_lambda {binder : String} (hname : Text.isIdentifier name.toList = true)
    (hbinder : ' ' ∉ binder.toList) (hrest : ' ' ∉ rest.toList) :
    wordsIn (name ++ ": lambda " ++ binder ++ ": " ++ (subject ++ "." ++ (method ++ rest))) =
      [name ++ ":", "lambda", binder ++ ":", subject ++ "." ++ (method ++ rest)] := by
  have hline : name ++ ": lambda " ++ binder ++ ": " ++ (subject ++ "." ++ (method ++ rest)) =
      name ++ ":" ++ " " ++ ("lambda" ++ " " ++ (binder ++ ":" ++ " " ++
        (subject ++ "." ++ (method ++ rest)))) :=
    String.toList_inj.mp (by simp)
  have hblank := blank_not_mem hname
  have hcall : ' ' ∉ (subject ++ "." ++ (method ++ rest)).toList := by
    simpa [hrest] using ⟨blank_not_mem hsubject, blank_not_mem hmethod⟩
  rw [hline, wordsIn_cons (by simpa using hblank) (by simp), wordsIn_cons (by decide) (by decide),
    wordsIn_cons (by simpa using hbinder) (by simp), wordsIn_word hcall (by simp)]

end Call

theorem entryOf?_methodEntry (h : Identified model) (hable : (model.ability role).present = true) :
    entryOf? (methodEntry role model) = some (mappedOf role model) := by
  have hmethod := h.method role hable
  have hname : headName (model.name ++ ":") = model.name := headName_append h.name (by decide)
  cases role with
  | serialize =>
      obtain ⟨method, hget⟩ : ∃ method, (model.ability .serialize).method.getD "" = method := ⟨_, rfl⟩
      rw [hget] at hmethod
      have hline : methodEntry .serialize model =
          model.name ++ ": lambda " ++ "_model" ++ ": " ++ ("_model" ++ "." ++ (method ++ "(),")) :=
        String.toList_inj.mp (by simp [methodEntry, hget, ToString.toString])
      have hmodel : Text.isIdentifier "_model".toList = true := by decide
      have hrest : "(),".toList.head?.any goesOnInName = false := by decide
      obtain ⟨hsubject, hcalled⟩ := headName_call hmodel hmethod hrest
      have hbinder : "_model" ++ ":" = "_model:" := by decide
      unfold entryOf?
      rw [hline, wordsIn_lambda hmodel hmethod h.name (by decide) (by decide), hbinder]
      simp only [hname, hsubject, hcalled, mappedOf, hget]
  | deserialize =>
      obtain ⟨method, hget⟩ : ∃ method, (model.ability .deserialize).method.getD "" = method :=
        ⟨_, rfl⟩
      rw [hget] at hmethod
      have hline : methodEntry .deserialize model =
          model.name ++ ": lambda " ++ "_data" ++ ": " ++
            (model.name ++ "." ++ (method ++ "(_data),")) :=
        String.toList_inj.mp (by simp [methodEntry, hget, ToString.toString])
      have hrest : "(_data),".toList.head?.any goesOnInName = false := by decide
      obtain ⟨hsubject, hcalled⟩ := headName_call h.name hmethod hrest
      have hbinder : "_data" ++ ":" = "_data:" := by decide
      unfold entryOf?
      rw [hline, wordsIn_lambda h.name hmethod h.name (by decide) (by decide), hbinder]
      simp only [hname, hsubject, hcalled, mappedOf, hget]

theorem headName_wordsIn {names : List String} (hsome : names ≠ [])
    (h : ∀ name ∈ names, Text.isIdentifier name.toList = true) :
    (wordsIn (", ".intercalate names)).map headName = names := by
  induction names with
  | nil => exact absurd rfl hsome
  | cons name names ih =>
      obtain ⟨hname, hnames⟩ := List.forall_mem_cons.mp h
      have hblank := blank_not_mem hname
      cases names with
      | nil =>
          have hhead : headName (name ++ "") = name := headName_append hname (by simp)
          rw [String.append_empty] at hhead
          rw [String.intercalate_singleton, wordsIn_word hblank (ne_empty_of_isIdentifier hname),
            List.map_singleton, hhead]
      | cons next others =>
          have hline : ", ".intercalate (name :: next :: others) =
              name ++ "," ++ " " ++ ", ".intercalate (next :: others) :=
            String.toList_inj.mp (by simp [String.intercalate_cons_cons])
          have hhead : headName (name ++ ",") = name := headName_append hname (by decide)
          rw [hline, wordsIn_cons (by simpa using hblank) (by simp), List.map_cons, hhead,
            ih (by simp) hnames]

theorem entryOf?_importLine {imported : String × List String} (hblank : ' ' ∉ imported.1.toList)
    (hmodule : imported.1 ≠ "") (hsome : imported.2 ≠ [])
    (h : ∀ name ∈ imported.2, Text.isIdentifier name.toList = true) :
    entryOf? (importLine imported) = some (.imported imported.1 imported.2) := by
  have hline : importLine imported = "from" ++ " " ++ (imported.1 ++ " " ++ ("import" ++ " " ++
      ", ".intercalate imported.2)) :=
    String.toList_inj.mp (by simp [importLine, ToString.toString])
  have hwords : wordsIn (importLine imported) =
      "from" :: imported.1 :: "import" :: wordsIn (", ".intercalate imported.2) := by
    rw [hline, wordsIn_cons (by decide) (by decide), wordsIn_cons hblank hmodule,
      wordsIn_cons (by decide) (by decide)]
  unfold entryOf?
  rw [hwords]
  simp only [headName_wordsIn hsome h]

theorem filterMap_mapLines (start indent : String) {line : Model → String} {read : Model → Entry}
    {models : List Model} (hindent : indent.toList.all (· == ' ') = true)
    (hopened : entryOf? (start ++ "\x7b") = none) (hempty : entryOf? (start ++ "\x7b\x7d") = none)
    (hline : ∀ model ∈ models, entryOf? (line model) = some (read model)) :
    (mapLines start indent (models.map line)).filterMap entryOf? = models.map read := by
  have hclosed : entryOf? (indent ++ "\x7d") = none := by
    rw [entryOf?_indent hindent]
    decide
  have hdeeper : (indent ++ "    ").toList.all (· == ' ') = true := by
    simpa using hindent
  unfold mapLines
  split
  · next hnil =>
      simp [List.map_eq_nil_iff.mp hnil, hempty]
  · have hentries : ((models.map line).map (indent ++ "    " ++ ·)).filterMap entryOf? =
        models.map read := by
      rw [List.map_map, List.filterMap_map, ← List.filterMap_eq_map]
      refine List.filterMap_congr fun model hmodel => ?_
      simp [entryOf?_indent hdeeper, hline model hmodel]
    rw [List.filterMap_append, List.filterMap_append, hentries]
    simp [hopened, hclosed]

theorem wordsIn_classHeader {className : String}
    (hclass : Text.isIdentifier className.toList = true) :
    wordsIn s!"class {className}(_provider.ModelProvider):" =
      ["class", className ++ "(_provider.ModelProvider):"] := by
  have hline : s!"class {className}(_provider.ModelProvider):" =
      "class" ++ " " ++ (className ++ "(_provider.ModelProvider):") :=
    String.toList_inj.mp (by simp [ToString.toString])
  have hblank := blank_not_mem hclass
  rw [hline, wordsIn_cons (by decide) (by decide), wordsIn_word (by simpa using hblank) (by simp)]

theorem entryOf?_classHeader {className : String}
    (hclass : Text.isIdentifier className.toList = true) :
    entryOf? s!"class {className}(_provider.ModelProvider):" = none := by
  unfold entryOf?
  rw [wordsIn_classHeader hclass]
  simp

theorem entryOf?_classDocument (count : Nat) (models : String) :
    entryOf? s!"    \"\"\"Dispatches serialization for {count} discovered {models}.\"\"\"" =
      none := by
  have hline : s!"    \"\"\"Dispatches serialization for {count} discovered {models}.\"\"\"" =
      "    " ++ ("\"\"\"Dispatches" ++ " " ++ ("serialization" ++ " " ++ ("for" ++ " " ++
        (toString count ++ " discovered " ++ models ++ ".\"\"\"")))) :=
    String.toList_inj.mp (by simp [ToString.toString])
  rw [hline, entryOf?_indent (by decide)]
  unfold entryOf?
  rw [wordsIn_cons (by decide) (by decide), wordsIn_cons (by decide) (by decide),
    wordsIn_cons (by decide) (by decide)]
  simp

section Class

variable {registry : Registry} (h : ∀ model ∈ registry.models, Identified model)

include h

theorem filterMap_roleLines (role : Role) : (roleLines registry role).filterMap entryOf? =
    (registry.able role).map (mappedOf role) := by
  have hline : ∀ model ∈ registry.able role,
      entryOf? (methodEntry role model) = some (mappedOf role model) := by
    intro model hmodel
    obtain ⟨hmem, hable⟩ := List.mem_filter.mp ((Text.perm_sortBy _ _).mem_iff.mp hmodel)
    exact entryOf?_methodEntry (h model hmem) hable
  have hheader : ["", "    @property", mapHeader role].filterMap entryOf? = [] := by
    cases role <;> decide +kernel
  rw [roleLines, List.filterMap_append, hheader, List.nil_append]
  exact filterMap_mapLines _ _ (by decide) (by decide) (by decide) hline

theorem filterMap_classLines {className : String}
    (hclass : Text.isIdentifier className.toList = true) :
    (classLines registry className).filterMap entryOf? = registry.byName.map tagOf ++
      (registry.able .serialize).map (mappedOf .serialize) ++
        (registry.able .deserialize).map (mappedOf .deserialize) := by
  have hline : ∀ model ∈ registry.byName, entryOf? (tagEntry model) = some (tagOf model) :=
    fun model hmodel => entryOf?_tagEntry (h model ((Text.perm_sortBy _ _).mem_iff.mp hmodel))
  have htags := filterMap_mapLines "    model_tags: _typing.Mapping[str, type] = " "    "
    (by decide) (by decide) (by decide) hline
  have hempty : entryOf? "" = none := by decide
  unfold classLines
  simp only [List.filterMap_append, htags, filterMap_roleLines h, List.filterMap_cons,
    List.filterMap_nil, hempty, entryOf?_classHeader hclass, entryOf?_classDocument,
    List.nil_append]

end Class

end Lines

section Text

theorem not_mem_mapLines {start indent : String} {entries : List String}
    (hstart : '\n' ∉ start.toList) (hindent : '\n' ∉ indent.toList)
    (h : ∀ entry ∈ entries, '\n' ∉ entry.toList) :
    ∀ line ∈ mapLines start indent entries, '\n' ∉ line.toList := by
  intro line hline
  unfold mapLines at hline
  split at hline
  · obtain rfl := List.mem_singleton.mp hline
    simpa using hstart
  · simp only [List.mem_append, List.mem_singleton, List.mem_map] at hline
    rcases hline with (rfl | ⟨entry, hentry, rfl⟩) | rfl
    · simpa using hstart
    · simpa [hindent] using h entry hentry
    · simpa using hindent

theorem not_mem_importLine {imported : String × List String} (hmodule : '\n' ∉ imported.1.toList)
    (h : ∀ name ∈ imported.2, Text.isIdentifier name.toList = true) :
    '\n' ∉ (importLine imported).toList := by
  have hnames : '\n' ∉ (", ".intercalate imported.2).toList :=
    Text.not_mem_intercalate (by decide) fun name hname => lineFeed_not_mem (h name hname)
  simpa [importLine, ToString.toString, hmodule] using hnames

theorem not_mem_methodEntry {model : Model} {role : Role} (h : Identified model)
    (hable : (model.ability role).present = true) : '\n' ∉ (methodEntry role model).toList := by
  have hname := lineFeed_not_mem h.name
  have hmethod := lineFeed_not_mem (h.method role hable)
  cases role <;> simpa [methodEntry, ToString.toString, hname] using hmethod

theorem not_mem_classDocument (count : Nat) {models : String} (hmodels : '\n' ∉ models.toList) :
    '\n' ∉
      (s!"    \"\"\"Dispatches serialization for {count} discovered {models}.\"\"\"").toList := by
  have hcount : '\n' ∉ (toString count).toList := by
    rw [toList_toString_nat]
    intro hmem
    exact absurd (Nat.isDigit_of_mem_toDigits (by decide) (by decide) hmem) (by decide)
  have hstart : '\n' ∉ "    \"\"\"Dispatches serialization for ".toList := by decide
  have hbetween : '\n' ∉ " discovered ".toList := by decide
  have hstop : '\n' ∉ ".\"\"\"".toList := by decide
  simp only [String.toList_append, List.mem_append, not_or]
  exact ⟨⟨⟨⟨hstart, hcount⟩, hbetween⟩, hmodels⟩, hstop⟩

theorem not_mem_classLines {registry : Registry} {className : String}
    (h : ∀ model ∈ registry.models, Identified model)
    (hclass : Text.isIdentifier className.toList = true) :
    ∀ line ∈ classLines registry className, '\n' ∉ line.toList := by
  have htags : ∀ entry ∈ registry.byName.map tagEntry, '\n' ∉ entry.toList := by
    intro entry hentry
    obtain ⟨model, hmodel, rfl⟩ := List.mem_map.mp hentry
    have hmodel := h model ((Text.perm_sortBy _ _).mem_iff.mp hmodel)
    simpa [tagEntry, ToString.toString, (not_mem_asciiLiteral hmodel.name).2] using
      lineFeed_not_mem hmodel.name
  have hrole : ∀ role, ∀ line ∈ roleLines registry role, '\n' ∉ line.toList := by
    intro role line hline
    have hentries : ∀ entry ∈ (registry.able role).map (methodEntry role),
        '\n' ∉ entry.toList := by
      intro entry hentry
      obtain ⟨model, hmodel, rfl⟩ := List.mem_map.mp hentry
      obtain ⟨hmem, hable⟩ := List.mem_filter.mp ((Text.perm_sortBy _ _).mem_iff.mp hmodel)
      exact not_mem_methodEntry (h model hmem) hable
    rcases List.mem_append.mp hline with hline | hline
    · have hheader : ∀ line ∈ ["", "    @property", mapHeader role], '\n' ∉ line.toList := by
        cases role <;> decide +kernel
      exact hheader line hline
    · exact not_mem_mapLines (by decide) (by decide) hentries line hline
  have hname := lineFeed_not_mem hclass
  intro line hline
  simp only [classLines, List.mem_append, List.mem_cons, List.not_mem_nil, or_false] at hline
  rcases hline with (((rfl | rfl | rfl | rfl | rfl) | hline) | hline) | hline
  · simp
  · simp
  · simpa [ToString.toString] using hname
  · exact not_mem_classDocument _ (by split <;> decide)
  · simp
  · exact not_mem_mapLines (by decide) (by decide) htags line hline
  · exact hrole .serialize line hline
  · exact hrole .deserialize line hline

theorem textOf_append (lines others : List String) :
    textOf (lines ++ others) = textOf lines ++ textOf others :=
  List.flatMap_append

theorem pieces_textOf {lines : List String} (h : ∀ line ∈ lines, '\n' ∉ line.toList) :
    Text.pieces '\n' (String.ofList (textOf lines)) = lines ++ [""] := by
  induction lines with
  | nil => rfl
  | cons line lines ih =>
      obtain ⟨hline, hlines⟩ := List.forall_mem_cons.mp h
      have htext : String.ofList (textOf (line :: lines)) =
          line ++ String.singleton '\n' ++ String.ofList (textOf lines) :=
        String.toList_inj.mp (by simp [textOf])
      rw [htext, Text.pieces_append, Text.pieces_of_not_mem hline, ih hlines]
      rfl

/-- An import that can be read back: a module in one word on one line, and names from it. -/
structure Legible (imported : String × List String) : Prop where
  module : imported.1 ≠ ""
  blank : ' ' ∉ imported.1.toList
  line : '\n' ∉ imported.1.toList
  some : imported.2 ≠ []
  names : ∀ name ∈ imported.2, Text.isIdentifier name.toList = true

/-- What a provider says about models, line by line. -/
def entriesOf (registry : Registry) (imports : List (String × List String)) : List Entry :=
  imports.map (fun imported => .imported imported.1 imported.2) ++ registry.byName.map tagOf ++
    (registry.able .serialize).map (mappedOf .serialize) ++
      (registry.able .deserialize).map (mappedOf .deserialize)

/-- What is written in a provider is read back from it. -/
theorem entriesIn_textWith {registry : Registry} {className : String}
    {imports : List (String × List String)} (h : ∀ model ∈ registry.models, Identified model)
    (hclass : Text.isIdentifier className.toList = true)
    (himports : ∀ imported ∈ imports, Legible imported) (projectName : String) :
    entriesIn className projectName (textWith registry className projectName imports) =
      entriesOf registry imports := by
  have hrest : (textWith registry className projectName imports).toList.drop
      (textOf (preamble (shownName className projectName))).length =
        textOf (imports.map importLine ++ classLines registry className) := by
    rw [toList_textWith, List.append_assoc, textOf_append, List.drop_left]
  have hlines : ∀ line ∈ imports.map importLine ++ classLines registry className,
      '\n' ∉ line.toList := by
    rw [List.forall_mem_append]
    refine ⟨?_, not_mem_classLines h hclass⟩
    intro line hline
    obtain ⟨imported, himported, rfl⟩ := List.mem_map.mp hline
    exact not_mem_importLine (himports imported himported).line (himports imported himported).names
  have hread : (imports.map importLine).filterMap entryOf? =
      imports.map fun imported => .imported imported.1 imported.2 := by
    rw [List.filterMap_map, ← List.filterMap_eq_map]
    refine List.filterMap_congr fun imported himported => ?_
    obtain ⟨hmodule, hblank, -, hsome, hnames⟩ := himports imported himported
    exact entryOf?_importLine hblank hmodule hsome hnames
  have hempty : entryOf? "" = none := by decide
  rw [entriesIn, hrest, pieces_textOf hlines, List.filterMap_append, List.filterMap_append, hread,
    filterMap_classLines h hclass]
  simp [hempty, entriesOf]

end Text

end Provider

end ProviderGen
