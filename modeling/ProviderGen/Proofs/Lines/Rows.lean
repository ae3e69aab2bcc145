import ProviderGen.Proofs.Lines.Pieces

namespace ProviderGen.Source

/-- The token at the end of a line, unless brackets are open. -/
def lineEnd (brackets : List Char) : List Shape :=
  if brackets = [] then [.newline] else []

variable [Interpreter]

/-- A line with some indentation closes and opens blocks, unless brackets are open. -/
def Opens (count : Nat) (brackets : List Char) (indents : List (Nat × Nat)) (shapes : List Shape)
    (indents' : List (Nat × Nat)) : Prop :=
  if brackets = [] then Turns count indents shapes indents' else shapes = [] ∧ indents' = indents

def Piece.isBlank : Piece → Bool
  | blank => true
  | _ => false

/-- Pieces make a line of their own. -/
def tidy (pieces : List Piece) : Bool :=
  spaced pieces && pieces.head?.any (!·.isBlank) && pieces.getLast?.any (·.endsAt '\n')

/-- A row of pieces that can be read: it opens some brackets, and closes some. -/
structure Row (pieces : List Piece) (brackets brackets' : List Char) : Prop where
  valid : ∀ piece ∈ pieces, piece.Valid
  tidy : tidy pieces = true
  brackets : pieces.foldlM Piece.brackets? brackets = some brackets'

/-- Characters with which no row starts. -/
def rowless : List Char := [' ', '\t', '\x0c', '\\', '\n', '#']

omit [Interpreter] in
theorem head_of_piece {piece : Piece} {brackets brackets' : List Char}
    (hblank : piece.isBlank = false) (hvalid : piece.Valid)
    (hbrackets : piece.brackets? brackets = some brackets') (rest : List Char) :
    ∀ c ∈ (piece.chars ++ rest).head?, c ∉ rowless := by
  intro c hc
  cases piece with
  | blank => cases hblank
  | word text =>
      obtain ⟨first, others, htext, hstart, -⟩ := exists_of_isIdentifier hvalid
      obtain rfl : first = c := by simpa [Piece.chars, htext] using hc
      intro hmem
      have hnone : ∀ d ∈ rowless, Text.isIdentifierStart d = false := forall_of_all (by decide)
      rw [hnone first hmem] at hstart
      cases hstart
  | literal text =>
      rw [Piece.chars, List.head?_append, hvalid.1] at hc
      obtain rfl := Option.some.inj hc
      decide
  | sign text =>
      simp only [Piece.chars] at hc
      rcases exists_of_signBrackets? hbrackets with ⟨d, htext, hafter⟩ | ⟨htext, -⟩
      · obtain rfl : d = c := by simpa [htext] using hc
        have hnone : ∀ d ∈ signs, d ∉ rowless := forall_of_all (by decide)
        exact hnone d (mem_signs hafter)
      · obtain rfl : '-' = c := by simpa [htext] using hc
        decide

namespace Reads

variable {rest : List Char} {brackets brackets' : List Char} {indents indents' : List (Nat × Nat)}
variable {count : Nat} {shapes : List Shape}

theorem lineStart (hrest : ∀ c ∈ rest.head?, c ∉ rowless)
    (hopens : Opens count brackets indents shapes indents') :
    Reads shapes ⟨true, List.replicate count ' ' ++ rest, brackets, indents⟩
      ⟨false, rest, brackets, indents'⟩ := by
  have hunindented : Unindented rest := by
    intro c hc
    have hnot := hrest c hc
    simp only [rowless, List.mem_cons, List.not_mem_nil, or_false, not_or] at hnot
    exact ⟨hnot.1, hnot.2.1, hnot.2.2.1, hnot.2.2.2.1⟩
  have hplain : ∀ c ∈ rest.head?, c ≠ '\n' ∧ c ≠ '#' := by
    intro c hc
    have hnot := hrest c hc
    simp only [rowless, List.mem_cons, List.not_mem_nil, or_false, not_or] at hnot
    exact hnot.2.2.2.2
  cases brackets with
  | nil => exact Reads.start hunindented hplain hopens
  | cons opened brackets =>
      obtain ⟨rfl, rfl⟩ := hopens
      exact Reads.innerStart hunindented hplain

theorem lineEnd : Reads (Source.lineEnd brackets) ⟨false, '\n' :: rest, brackets, indents⟩
    ⟨true, rest, brackets, indents⟩ := by
  cases brackets with
  | nil => exact Reads.newline
  | cons opened brackets => exact Reads.innerNewline

theorem line {pieces : List Piece} (hopens : Opens count brackets indents shapes indents')
    (hrow : Row pieces brackets brackets') :
    Reads (shapes ++ (shapesOf pieces ++ Source.lineEnd brackets'))
      ⟨true, List.replicate count ' ' ++ (charsOf pieces ++ '\n' :: rest), brackets, indents⟩
      ⟨true, rest, brackets', indents'⟩ := by
  obtain ⟨hvalid, htidy, hbrackets⟩ := hrow
  simp only [tidy, Bool.and_eq_true, Option.any_eq_true, Bool.not_eq_true'] at htidy
  obtain ⟨⟨hspaced, first, hfirst, hblank⟩, last, hlast, hends⟩ := htidy
  have hlast' : ∀ last ∈ pieces.getLast?, last.EndsBefore ('\n' :: rest) := by
    intro other hother c hc
    obtain rfl : last = other := Option.some.inj (hlast.symm.trans hother)
    obtain rfl : '\n' = c := Option.some.inj hc
    exact hends
  have hstart : ∀ c ∈ (charsOf pieces ++ '\n' :: rest).head?, c ∉ rowless := by
    cases pieces with
    | nil => cases hfirst
    | cons piece pieces =>
        obtain rfl := Option.some.inj hfirst
        rw [List.foldlM_cons] at hbrackets
        obtain ⟨between, hpiece, -⟩ := Option.bind_eq_some_iff.mp hbrackets
        have hhead := head_of_piece hblank (hvalid piece (by simp)) hpiece
          (charsOf pieces ++ '\n' :: rest)
        rwa [← List.append_assoc] at hhead
  exact (lineStart hstart hopens).trans ((Reads.row hvalid hspaced hlast' hbrackets).trans lineEnd)

end Reads

omit [Interpreter] in
theorem isKept_of_piece {piece : Piece} {brackets brackets' : List Char} (hvalid : piece.Valid)
    (hbrackets : piece.brackets? brackets = some brackets') : ∀ c ∈ piece.chars, IsKept c := by
  intro c hc
  cases piece with
  | blank =>
      obtain rfl := List.mem_singleton.mp hc
      decide
  | word text =>
      obtain ⟨-, -, -, -, hname⟩ := exists_of_isIdentifier hvalid
      have hgoes := hname c hc
      constructor
      all_goals
        rintro rfl
        exact absurd hgoes (by decide)
  | literal text => exact hvalid.2.1 c hc
  | sign text =>
      simp only [Piece.chars] at hc
      rcases exists_of_signBrackets? hbrackets with ⟨d, htext, hafter⟩ | ⟨htext, -⟩
      · obtain rfl : c = d := by simpa [htext] using hc
        obtain ⟨-, -, -, -, -, -, -, -, -, hprintable⟩ :=
          not_special_of_sign c (mem_signs hafter)
        constructor
        all_goals
          rintro rfl
          exact absurd hprintable (by decide)
      · obtain rfl | rfl : c = '-' ∨ c = '>' := by simpa [htext] using hc
        all_goals decide

omit [Interpreter] in
theorem Row.isKept {pieces : List Piece} {brackets brackets' : List Char}
    (hrow : Row pieces brackets brackets') : ∀ c ∈ charsOf pieces, IsKept c := by
  obtain ⟨hvalid, -, hbrackets⟩ := hrow
  induction pieces generalizing brackets with
  | nil => exact nofun
  | cons piece pieces ih =>
      rw [List.foldlM_cons] at hbrackets
      obtain ⟨between, hpiece, hothers⟩ := Option.bind_eq_some_iff.mp hbrackets
      intro c hc
      rcases List.mem_append.mp hc with hc | hc
      · exact isKept_of_piece (hvalid piece (by simp)) hpiece c hc
      · exact ih (fun other hother => hvalid other (List.mem_cons_of_mem piece hother)) hothers c hc

/-- Lines are read from the start of a line on, and all their characters are kept. -/
structure ReadsLines (shapes : List Shape) (lines : List String) (brackets : List Char)
    (indents : List (Nat × Nat)) (brackets' : List Char) (indents' : List (Nat × Nat)) : Prop where
  reads : ∀ rest : List Char,
    Reads shapes
      ⟨true, lines.flatMap (fun line => line.toList ++ ['\n']) ++ rest, brackets, indents⟩
      ⟨true, rest, brackets', indents'⟩
  isKept : ∀ line ∈ lines, ∀ c ∈ line.toList, IsKept c

namespace ReadsLines

variable {shapes more : List Shape} {lines others : List String}
variable {brackets brackets' brackets'' : List Char}
variable {indents indents' indents'' : List (Nat × Nat)}

theorem nil : ReadsLines [] [] brackets indents brackets indents where
  reads rest := Reads.refl ⟨true, rest, brackets, indents⟩
  isKept := nofun

theorem append (h : ReadsLines shapes lines brackets indents brackets' indents')
    (hmore : ReadsLines more others brackets' indents' brackets'' indents'') :
    ReadsLines (shapes ++ more) (lines ++ others) brackets indents brackets'' indents'' where
  reads rest := by
    have hread := (h.reads (others.flatMap (fun line => line.toList ++ ['\n']) ++ rest)).trans
      (hmore.reads rest)
    rwa [← List.append_assoc, ← List.flatMap_append] at hread
  isKept line hline := (List.mem_append.mp hline).elim (h.isKept line) (hmore.isKept line)

theorem empty : ReadsLines [] [""] brackets indents brackets indents where
  reads _ := Reads.emptyLine
  isKept line hline := by
    obtain rfl := List.mem_singleton.mp hline
    exact nofun

theorem comment {line : String} {text : List Char} (hline : line.toList = '#' :: text)
    (hcomment : '\n' ∉ text) (hkept : ∀ c ∈ text, IsKept c) :
    ReadsLines [] [line] brackets indents brackets indents where
  reads rest := by
    have hread : Reads [] ⟨true, '#' :: (text ++ '\n' :: rest), brackets, indents⟩
        ⟨true, rest, brackets, indents⟩ := Reads.commentLine hcomment
    simpa [hline] using hread
  isKept other hother := by
    obtain rfl := List.mem_singleton.mp hother
    have hmark : IsKept '#' := by decide
    simpa [hline, hmark] using hkept

theorem row {line : String} {count : Nat} {pieces : List Piece}
    (hline : line.toList = List.replicate count ' ' ++ charsOf pieces)
    (hopens : Opens count brackets indents shapes indents')
    (hrow : Row pieces brackets brackets') :
    ReadsLines (shapes ++ (shapesOf pieces ++ lineEnd brackets')) [line] brackets indents
      brackets' indents' where
  reads rest := by
    have hread : Reads (shapes ++ (shapesOf pieces ++ lineEnd brackets'))
        ⟨true, List.replicate count ' ' ++ (charsOf pieces ++ '\n' :: rest), brackets, indents⟩
        ⟨true, rest, brackets', indents'⟩ := Reads.line hopens hrow
    simpa [hline] using hread
  isKept other hother := by
    obtain rfl := List.mem_singleton.mp hother
    rw [hline]
    intro c hc
    rcases List.mem_append.mp hc with hc | hc
    · obtain rfl := (List.mem_replicate.mp hc).2
      decide
    · exact hrow.isKept c hc

theorem map {α : Type} {items : List α} {line : α → String} {shapes : α → List Shape}
    (h : ∀ item ∈ items, ReadsLines (shapes item) [line item] brackets indents brackets indents) :
    ReadsLines (items.flatMap shapes) (items.map line) brackets indents brackets indents := by
  induction items with
  | nil => exact nil
  | cons item items ih =>
      exact (h item (by simp)).append
        (ih fun other hother => h other (List.mem_cons_of_mem item hother))

end ReadsLines

end ProviderGen.Source
