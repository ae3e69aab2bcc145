import ProviderGen.Proofs.Provider.Rows

namespace ProviderGen.Provider

open Source

section Imports

/-- Words with some pieces in between. -/
def wordPieces (between : List Piece) : List String → List Piece
  | [] => []
  | first :: rest => .word first :: rest.flatMap fun name => between ++ [.word name]

/-- The line that imports names from the module with some segments, in pieces. -/
def importPieces (imported : List String × List String) : List Piece :=
  .word "from" :: .blank :: (wordPieces [.sign "."] imported.1 ++
    .blank :: .word "import" :: .blank :: wordPieces [.sign ",", .blank] imported.2)

theorem charsOf_wordPieces {between : List Piece} {separator : String}
    (hbetween : charsOf between = separator.toList) (names : List String) :
    charsOf (wordPieces between names) = (separator.intercalate names).toList := by
  cases names with
  | nil => rfl
  | cons first rest =>
      induction rest generalizing first with
      | nil => simp [wordPieces, charsOf, Piece.chars]
      | cons second rest ih =>
          rw [String.intercalate_cons_cons, String.toList_append, String.toList_append, ← ih second,
            ← hbetween]
          simp [wordPieces, charsOf, Piece.chars]

theorem shapesOf_wordPieces [Interpreter] {between : List Piece} {sign : String}
    (hbetween : shapesOf between = [.word sign]) (names : List String) :
    shapesOf (wordPieces between names) = wordsBetween sign names := by
  cases names with
  | nil => rfl
  | cons first rest =>
      have hbetween' : between.flatMap Piece.shapes = [.word sign] := hbetween
      simp [wordPieces, wordsBetween, shapesOf, Piece.shapes, strung, Comes.gap, hbetween',
        List.flatMap_assoc, List.flatMap_map]

theorem mem_wordPieces {between : List Piece} {names : List String} {piece : Piece}
    (h : piece ∈ wordPieces between names) :
    piece ∈ between ∨ ∃ name ∈ names, piece = .word name := by
  cases names with
  | nil => cases h
  | cons first rest =>
      simp only [wordPieces, List.mem_cons, List.mem_flatMap, List.mem_append, List.not_mem_nil,
        or_false] at h
      rcases h with rfl | ⟨name, hname, h | rfl⟩
      · exact .inr ⟨first, by simp, rfl⟩
      · exact .inl h
      · exact .inr ⟨name, by simp [hname], rfl⟩

theorem spaced_word (first second : String) (more : List Piece) :
    spaced (.word first :: more) = spaced (.word second :: more) := by
  cases more with
  | nil => rfl
  | cons piece more => cases piece <;> rfl

theorem spaced_wordPieces {between : List Piece}
    (hbetween : ∀ first second more, spaced (.word first :: (between ++ .word second :: more)) =
      spaced (.word second :: more))
    (first : String) (rest : List String) (more : List Piece) :
    spaced (wordPieces between (first :: rest) ++ more) = spaced (.word first :: more) := by
  induction rest generalizing first with
  | nil => simp [wordPieces]
  | cons second rest ih =>
      have hstart : wordPieces between (first :: second :: rest) ++ more =
          .word first :: (between ++ .word second ::
            (rest.flatMap (fun name => between ++ [.word name]) ++ more)) := by
        simp [wordPieces]
      have hrest := ih second
      rw [wordPieces, List.cons_append] at hrest
      rw [hstart, hbetween, hrest]
      exact spaced_word second first more

theorem exists_getLast?_wordPieces (between : List Piece) (first : String) (rest : List String) :
    ∃ name, (wordPieces between (first :: rest)).getLast? = some (.word name) := by
  rcases rest.eq_nil_or_concat with rfl | ⟨rest, last, rfl⟩
  · exact ⟨first, rfl⟩
  · refine ⟨last, ?_⟩
    have hsplit : wordPieces between (first :: rest.concat last) =
        (wordPieces between (first :: rest) ++ between) ++ [.word last] := by
      simp [wordPieces]
    rw [hsplit, List.getLast?_concat]

theorem foldlM_brackets? {pieces : List Piece} {brackets : List Char}
    (h : ∀ piece ∈ pieces, piece.brackets? brackets = some brackets) :
    pieces.foldlM Piece.brackets? brackets = some brackets := by
  induction pieces with
  | nil => rfl
  | cons first rest ih =>
      rw [List.foldlM_cons, h first (by simp)]
      exact ih fun piece hpiece => h piece (List.mem_cons_of_mem first hpiece)

/-- The pieces of an import that are the same for all imports. -/
def constantPieces : List Piece :=
  [.word "from", .word "import", .blank, .sign ".", .sign ","]

section

variable {imported : List String × List String} (hsegments : imported.1 ≠ [])
  (hnames : imported.2 ≠ [])

include hsegments hnames

theorem row_importPieces
    (hwords : ∀ name ∈ imported.1 ++ imported.2, Text.isIdentifier name.toList = true) :
    Row (importPieces imported) [] [] := by
  obtain ⟨segments, names⟩ := imported
  obtain ⟨segment, segments, rfl⟩ := List.exists_cons_of_ne_nil hsegments
  obtain ⟨name, names, rfl⟩ := List.exists_cons_of_ne_nil hnames
  have hmem : ∀ piece ∈ importPieces (segment :: segments, name :: names),
      piece ∈ constantPieces ∨
        ∃ other ∈ (segment :: segments) ++ (name :: names), piece = .word other := by
    intro piece hpiece
    simp only [importPieces, List.mem_cons, List.mem_append] at hpiece
    rcases hpiece with rfl | rfl | hpiece | rfl | rfl | rfl | hpiece
    · exact .inl (by simp [constantPieces])
    · exact .inl (by simp [constantPieces])
    · rcases mem_wordPieces hpiece with hpiece | ⟨other, hother, rfl⟩
      · exact .inl (by simp_all [constantPieces])
      · exact .inr ⟨other, List.mem_append_left _ hother, rfl⟩
    · exact .inl (by simp [constantPieces])
    · exact .inl (by simp [constantPieces])
    · exact .inl (by simp [constantPieces])
    · rcases mem_wordPieces hpiece with hpiece | ⟨other, hother, rfl⟩
      · refine .inl ?_
        simp only [List.mem_cons, List.not_mem_nil, or_false] at hpiece
        rcases hpiece with rfl | rfl <;> simp [constantPieces]
      · exact .inr ⟨other, List.mem_append_right _ hother, rfl⟩
  refine ⟨fun piece hpiece => ?_, ?_, foldlM_brackets? fun piece hpiece => ?_⟩
  · rcases hmem piece hpiece with hpiece | ⟨other, hother, rfl⟩
    · have hvalid : ∀ piece ∈ constantPieces, piece.Valid := by
        simp [constantPieces, Piece.Valid]
        decide
      exact hvalid piece hpiece
    · exact hwords other hother
  · have hstart : spaced (importPieces (segment :: segments, name :: names)) =
        spaced (wordPieces [.sign "."] (segment :: segments) ++ .blank :: .word "import" ::
          .blank :: wordPieces [.sign ",", .blank] (name :: names)) := rfl
    have hlisted : spaced (wordPieces [.sign ",", .blank] (name :: names) ++ []) =
        spaced [.word name] := spaced_wordPieces (fun _ _ _ => rfl) name names []
    rw [List.append_nil] at hlisted
    have hspaced : spaced (importPieces (segment :: segments, name :: names)) = true := by
      rw [hstart, spaced_wordPieces (fun _ _ _ => rfl)]
      exact hlisted
    obtain ⟨last, hlast⟩ := exists_getLast?_wordPieces [.sign ",", .blank] name names
    have hend : (importPieces (segment :: segments, name :: names)).getLast? =
        some (.word last) := by
      have hsplit : importPieces (segment :: segments, name :: names) =
          (.word "from" :: .blank :: (wordPieces [.sign "."] (segment :: segments) ++
            [.blank, .word "import", .blank])) ++
              wordPieces [.sign ",", .blank] (name :: names) := by
        simp [importPieces]
      rw [hsplit, List.getLast?_append, hlast]
      rfl
    rw [tidy, hspaced, hend]
    rfl
  · rcases hmem piece hpiece with hpiece | ⟨other, hother, rfl⟩
    · have hbrackets : ∀ piece ∈ constantPieces, piece.brackets? [] = some [] := by
        simp only [constantPieces, List.forall_mem_cons]
        exact ⟨rfl, rfl, rfl, rfl, rfl, List.forall_mem_nil _⟩
      exact hbrackets piece hpiece
    · rfl

theorem reads_import [Interpreter]
    (hwords : ∀ name ∈ imported.1 ++ imported.2, Text.isIdentifier name.toList = true) :
    ReadsLines (importShapes imported) [importLine (".".intercalate imported.1, imported.2)] [] []
      [] [] := by
  have hline : (importLine (".".intercalate imported.1, imported.2)).toList =
      List.replicate 0 ' ' ++ charsOf (importPieces imported) := by
    have hdotted : charsOf (wordPieces [.sign "."] imported.1) =
        (".".intercalate imported.1).toList := charsOf_wordPieces rfl imported.1
    have hlisted : charsOf (wordPieces [.sign ",", .blank] imported.2) =
        (", ".intercalate imported.2).toList := charsOf_wordPieces rfl imported.2
    simp only [charsOf] at hdotted hlisted
    simp [importLine, importPieces, charsOf, Piece.chars, hdotted, hlisted, ToString.toString]
  have hshapes : shapesOf (importPieces imported) =
      .word "from" ::
        (wordsBetween "." imported.1 ++ .word "import" :: wordsBetween "," imported.2) := by
    have hdotted : shapesOf (wordPieces [.sign "."] imported.1) = wordsBetween "." imported.1 :=
      shapesOf_wordPieces rfl imported.1
    have hlisted : shapesOf (wordPieces [.sign ",", .blank] imported.2) =
        wordsBetween "," imported.2 := shapesOf_wordPieces rfl imported.2
    rw [← hdotted, ← hlisted]
    simp [importPieces, shapesOf, Piece.shapes]
    decide
  have hread := ReadsLines.row hline opens_module (row_importPieces hsegments hnames hwords)
  rw [hshapes] at hread
  simpa [importShapes, lineEnd] using hread

end

end Imports

/-- The start of the documentation of a module. -/
def documentFront : List Char := "Model provider for ".toList

theorem isPlain_documentFront : ∀ c ∈ documentFront, IsPlain c :=
  forall_of_all (by decide)

/-- A text that stays within a comment on one line, and between three quotes on each side. -/
structure StaysInside (text : List Char) : Prop where
  kept : ∀ c ∈ text, IsKept c
  unbroken : '\n' ∉ text
  unquoted : ¬ tripleQuote <:+: text

/-- The documentation of a provider module, as it is read. -/
def opening [Interpreter] (projectName : String) : Shape :=
  literalShape (documented documentFront projectName.toList)

theorem reads_constant [Interpreter] {line : String} {pieces : List Piece} {shapes : List Shape}
    (hline : line.toList = charsOf pieces) (hrow : Row pieces [] [])
    (hshapes : shapesOf pieces ++ [.newline] = shapes) : ReadsLines shapes [line] [] [] [] [] := by
  have hrest : line.toList = List.replicate 0 ' ' ++ charsOf pieces := hline
  have hread := ReadsLines.row hrest opens_module hrow
  rwa [List.nil_append, show lineEnd [] = [.newline] from rfl, hshapes] at hread

theorem reads_preamble [Interpreter] {projectName : String} (h : StaysInside projectName.toList) :
    ReadsLines ([opening projectName, .newline] ++ preambleImports.flatten) (preamble projectName)
      [] [] [] [] := by
  have hmark : ReadsLines [] ["# GENERATED CODE - DO NOT MODIFY BY HAND"] [] [] [] [] := by
    have hline : "# GENERATED CODE - DO NOT MODIFY BY HAND".toList =
        '#' :: " GENERATED CODE - DO NOT MODIFY BY HAND".toList := by decide
    exact ReadsLines.comment hline (by decide) (forall_of_all (by decide))
  have hsource : ReadsLines []
      [s!"# Produced by `modelgen generate models` from the {projectName} sources."]
      [] [] [] [] := by
    have hline :
        (s!"# Produced by `modelgen generate models` from the {projectName} sources.").toList =
        '#' :: (" Produced by `modelgen generate models` from the ".toList ++ projectName.toList ++
          " sources.".toList) := by
      rw [String.toList_append, String.toList_append]
      rfl
    refine ReadsLines.comment hline ?_ ?_
    · simp only [List.mem_append, not_or]
      exact ⟨⟨by decide, h.unbroken⟩, by decide⟩
    · simp only [List.forall_mem_append]
      exact ⟨⟨forall_of_all (by decide), h.kept⟩, forall_of_all (by decide)⟩
  have hdocument : ReadsLines [opening projectName, .newline]
      [s!"\"\"\"Model provider for {projectName}.\"\"\""] [] [] [] [] := by
    have hrow : Row [.literal (documented documentFront projectName.toList)] [] [] :=
      row_documented isPlain_documentFront h.kept h.unquoted
    have hstart : (toString "\"\"\"Model provider for ").toList = tripleQuote ++ documentFront := by
      decide
    have hfinish : (toString ".\"\"\"").toList = '.' :: tripleQuote := by decide
    refine reads_constant ?_ hrow rfl
    rw [String.toList_append, String.toList_append, hstart, hfinish]
    simp only [charsOf, Piece.chars, documented, tripled, List.flatMap_cons, List.flatMap_nil,
      List.append_assoc, List.append_nil, List.cons_append, List.nil_append]
    rfl
  have hfuture : ReadsLines [.word "from", .name "__future__", .word "import",
      .name "annotations", .newline] ["from __future__ import annotations"] [] [] [] [] := by
    have hrow : Row [.word "from", .blank, .word "__future__", .blank, .word "import", .blank,
        .word "annotations"] [] [] :=
      ⟨by simp [Piece.Valid]; decide, by decide, by decide⟩
    exact reads_constant (by decide) hrow rfl
  have htyping : ReadsLines [.word "import", .name "typing", .word "as", .name "_typing",
      .newline] ["import typing as _typing"] [] [] [] [] := by
    have hrow : Row [.word "import", .blank, .word "typing", .blank, .word "as", .blank,
        .word "_typing"] [] [] :=
      ⟨by simp [Piece.Valid]; decide, by decide, by decide⟩
    exact reads_constant (by decide) hrow rfl
  have hprovider : ReadsLines [.word "from", .name "modelgen", .word "import", .name "provider",
      .word "as", .name "_provider", .newline] ["from modelgen import provider as _provider"]
      [] [] [] [] := by
    have hrow : Row [.word "from", .blank, .word "modelgen", .blank, .word "import", .blank,
        .word "provider", .blank, .word "as", .blank, .word "_provider"] [] [] :=
      ⟨by simp [Piece.Valid]; decide, by decide, by decide⟩
    exact reads_constant (by decide) hrow rfl
  exact hmark.append (hsource.append (hdocument.append (ReadsLines.empty.append (hfuture.append
    (ReadsLines.empty.append (htyping.append (ReadsLines.empty.append hprovider)))))))

end ProviderGen.Provider
