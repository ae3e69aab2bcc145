import ProviderGen.Proofs.Recognition.Shapes
import Mathlib.Data.List.Basic

namespace ProviderGen.Source

/-- As much of a reader as decides on the shapes of tokens: whether it is at the start of a line,
the text in front of it, the open brackets and the open blocks. -/
structure Standing where
  fresh : Bool
  rest : List Char
  brackets : List Char
  indents : List (Nat × Nat)

/-- A reader that stands on a line, with the lines that the brackets were opened on. -/
def Standing.lexer (standing : Standing) (line : Nat) (within : List (Char × Nat)) : Lexer :=
  ⟨standing.rest, line, within, standing.indents⟩

/-- A bound on the number of steps up to the end of the text. -/
def Standing.weight (standing : Standing) : Nat :=
  2 * standing.rest.length + if standing.fresh then 1 else 0

namespace Standing

variable {before after : Standing}

theorem weight_lt_of_shorter (h : after.rest.length < before.rest.length) :
    after.weight < before.weight := by
  unfold weight
  split <;> split <;> omega

theorem weight_lt_of_started (hbefore : before.fresh = true) (hafter : after.fresh = false)
    (h : after.rest.length ≤ before.rest.length) : after.weight < before.weight := by
  simp only [weight, hbefore, hafter, if_true, Bool.false_eq_true, if_false]
  omega

end Standing

variable [Interpreter]

/-- A reader gets from one place to another, and reads tokens of some shapes. -/
def Reads (shapes : List Shape) (before after : Standing) : Prop :=
  ∀ (line : Nat) (within : List (Char × Nat)) (found : List Token),
    within.map (·.1) = before.brackets →
    ∃ (steps : Nat) (tokens : List Token) (line' : Nat) (within' : List (Char × Nat)),
      steps + after.weight ≤ before.weight ∧ tokens.map shapeOf = shapes ∧
      within'.map (·.1) = after.brackets ∧ ∀ bound,
        Lexer.run (bound + steps) before.fresh (before.lexer line within) found =
          Lexer.run bound after.fresh (after.lexer line' within') (tokens.reverse ++ found)

namespace Reads

variable {shapes more : List Shape} {before between after : Standing}

theorem refl (place : Standing) : Reads [] place place := by
  intro line within found hwithin
  exact ⟨0, [], line, within, by omega, rfl, hwithin, fun bound => rfl⟩

theorem trans (h : Reads shapes before between) (hmore : Reads more between after) :
    Reads (shapes ++ more) before after := by
  intro line within found hwithin
  obtain ⟨steps, tokens, line', within', hsteps, rfl, hwithin', hrun⟩ :=
    h line within found hwithin
  obtain ⟨steps', tokens', line'', within'', hsteps', rfl, hwithin'', hrun'⟩ :=
    hmore line' within' (tokens.reverse ++ found) hwithin'
  refine ⟨steps' + steps, tokens ++ tokens', line'', within'', by omega, by simp, hwithin'', ?_⟩
  intro bound
  rw [← Nat.add_assoc, hrun, hrun']
  simp

theorem of_step (hweight : after.weight < before.weight)
    (h : ∀ (line : Nat) (within : List (Char × Nat)) (found : List Token),
      within.map (·.1) = before.brackets →
      ∃ (tokens : List Token) (line' : Nat) (within' : List (Char × Nat)),
        tokens.map shapeOf = shapes ∧ within'.map (·.1) = after.brackets ∧ ∀ bound,
        Lexer.run (bound + 1) before.fresh (before.lexer line within) found =
          Lexer.run bound after.fresh (after.lexer line' within') (tokens.reverse ++ found)) :
    Reads shapes before after := by
  intro line within found hwithin
  obtain ⟨tokens, line', within', hshapes, hwithin', hrun⟩ := h line within found hwithin
  exact ⟨1, tokens, line', within', by omega, hshapes, hwithin', hrun⟩

end Reads

section Steps

attribute [local simp] Lexer.run Lexer.skipBlanks

/-- A text does not start with what counts as indentation. -/
def Unindented (rest : List Char) : Prop :=
  ∀ c ∈ rest.head?, c ≠ ' ' ∧ c ≠ '\t' ∧ c ≠ '\x0c' ∧ c ≠ '\\'

omit [Interpreter] in
theorem readIndentation_of_unindented {rest : List Char} (h : Unindented rest) (lexer : Lexer)
    (column shortColumn : Nat) :
    readIndentation lexer column shortColumn 0 rest =
      .ok ⟨column, shortColumn, { lexer with rest := rest }⟩ := by
  unfold readIndentation
  split
  · exact absurd rfl (h ' ' rfl).1
  · exact absurd rfl (h '\t' rfl).2.1
  · exact absurd rfl (h '\x0c' rfl).2.2.1
  · exact absurd rfl (h '\\' rfl).2.2.2
  · exact absurd rfl (h '\\' rfl).2.2.2
  · rfl

omit [Interpreter] in
theorem readIndentation_blanks {rest : List Char} (h : Unindented rest) (lexer : Lexer)
    (count column shortColumn : Nat) :
    readIndentation lexer column shortColumn 0 (List.replicate count ' ' ++ rest) =
      .ok ⟨column + count, shortColumn + count, { lexer with rest := rest }⟩ := by
  induction count generalizing column shortColumn with
  | zero => exact readIndentation_of_unindented h lexer column shortColumn
  | succ count ih =>
      have hstep := ih (column + 1) (shortColumn + 1)
      rw [Nat.add_right_comm column, Nat.add_right_comm shortColumn] at hstep
      rw [List.replicate_succ, List.cons_append, readIndentation]
      exact hstep

omit [Interpreter] in
theorem skipBlanks_of_ne {c : Char} {rest : List Char} {line : Nat} {within : List (Char × Nat)}
    {indents : List (Nat × Nat)} (hblank : isLineBlank c = false) (hcomment : c ≠ '#') :
    Lexer.skipBlanks ⟨c :: rest, line, within, indents⟩ = ⟨c :: rest, line, within, indents⟩ := by
  simp [hblank, hcomment]

namespace Reads

variable {rest : List Char} {brackets : List Char} {indents : List (Nat × Nat)}

theorem blank :
    Reads [] ⟨false, ' ' :: rest, brackets, indents⟩ ⟨false, rest, brackets, indents⟩ := by
  intro line within found hwithin
  refine ⟨0, [], line, within, ?_, rfl, hwithin, fun bound => ?_⟩
  · simp only [Standing.weight, List.length_cons]
    omega
  · cases bound with
    | zero => rfl
    | succ bound =>
        have hskip : Lexer.skipBlanks ⟨' ' :: rest, line, within, indents⟩ =
            Lexer.skipBlanks ⟨rest, line, within, indents⟩ := by
          simp [isLineBlank]
        simp only [Standing.lexer, Lexer.run, hskip]
        rfl

theorem newline :
    Reads [.newline] ⟨false, '\n' :: rest, [], indents⟩ ⟨true, rest, [], indents⟩ := by
  refine of_step (Standing.weight_lt_of_shorter (by simp)) fun line within found hwithin => ?_
  obtain rfl : within = [] := by simpa using hwithin
  refine ⟨[Lexer.token ⟨'\n' :: rest, line, [], indents⟩ .newline []], line + 1, [], rfl, rfl,
    fun bound => ?_⟩
  simp only [Standing.lexer, Lexer.run,
    skipBlanks_of_ne (by decide : isLineBlank '\n' = false) (by decide : '\n' ≠ '#')]
  rfl

theorem innerNewline {opened : Char} :
    Reads [] ⟨false, '\n' :: rest, opened :: brackets, indents⟩
      ⟨true, rest, opened :: brackets, indents⟩ := by
  refine of_step (Standing.weight_lt_of_shorter (by simp)) fun line within found hwithin => ?_
  have hsome : within.isEmpty = false := by
    cases within with
    | nil => cases hwithin
    | cons _ _ => rfl
  refine ⟨[], line + 1, within, rfl, hwithin, fun bound => ?_⟩
  simp only [Standing.lexer, Lexer.run, hsome,
    skipBlanks_of_ne (by decide : isLineBlank '\n' = false) (by decide : '\n' ≠ '#')]
  rfl

theorem emptyLine :
    Reads [] ⟨true, '\n' :: rest, brackets, indents⟩ ⟨true, rest, brackets, indents⟩ := by
  refine of_step (Standing.weight_lt_of_shorter (by simp)) fun line within found hwithin => ?_
  exact ⟨[], line + 1, within, rfl, hwithin, fun bound => rfl⟩

theorem commentLine {comment : List Char} (hcomment : '\n' ∉ comment) :
    Reads [] ⟨true, '#' :: (comment ++ '\n' :: rest), brackets, indents⟩
      ⟨true, rest, brackets, indents⟩ := by
  have hshorter : rest.length < (('#' :: comment) ++ '\n' :: rest).length := by
    simp only [List.length_cons, List.length_append]
    omega
  refine of_step (Standing.weight_lt_of_shorter hshorter) fun line within found hwithin => ?_
  have hrest : ((comment ++ '\n' :: rest).dropWhile (· != '\n')).drop 1 = rest := by
    rw [List.dropWhile_append_of_pos]
    · simp
    · intro c hc
      simpa using ne_of_mem_of_not_mem hc hcomment
  refine ⟨[], line + 1, within, rfl, hwithin, fun bound => ?_⟩
  have hunindented : Unindented ('#' :: (comment ++ '\n' :: rest)) := by simp [Unindented]
  have hindentation := readIndentation_of_unindented hunindented
    ⟨'#' :: (comment ++ '\n' :: rest), line, within, indents⟩ 0 0
  simp only [Standing.lexer, Lexer.run, hindentation, hrest]
  rfl

theorem innerStart {opened : Char} {count : Nat} (h : Unindented rest)
    (hrest : ∀ c ∈ rest.head?, c ≠ '\n' ∧ c ≠ '#') :
    Reads [] ⟨true, List.replicate count ' ' ++ rest, opened :: brackets, indents⟩
      ⟨false, rest, opened :: brackets, indents⟩ := by
  refine of_step (Standing.weight_lt_of_started rfl rfl (by simp)) fun line within found hwithin => ?_
  have hsome : within.isEmpty = false := by
    cases within with
    | nil => cases hwithin
    | cons _ _ => rfl
  refine ⟨[], line, within, rfl, hwithin, fun bound => ?_⟩
  have hindentation := readIndentation_blanks h
    ⟨List.replicate count ' ' ++ rest, line, within, indents⟩ count 0 0
  simp only [Standing.lexer, Lexer.run, hindentation]
  split
  · exact absurd rfl (hrest '\n' rfl).1
  · exact absurd rfl (hrest '#' rfl).2
  · simp only [hsome]
    rfl

end Reads

/-- A line with some indentation closes and opens blocks. -/
def Turns (count : Nat) (indents : List (Nat × Nat)) (shapes : List Shape)
    (indents' : List (Nat × Nat)) : Prop :=
  ∀ rest line, ∃ tokens : List Token,
    blockTokens ⟨count, count, ⟨rest, line, [], indents⟩⟩ =
      .ok (tokens, ⟨rest, line, [], indents'⟩) ∧ tokens.map shapeOf = shapes

namespace Reads

variable {shapes : List Shape} {rest : List Char} {indents indents' : List (Nat × Nat)}

theorem start {count : Nat} (h : Unindented rest)
    (hrest : ∀ c ∈ rest.head?, c ≠ '\n' ∧ c ≠ '#') (hturns : Turns count indents shapes indents') :
    Reads shapes ⟨true, List.replicate count ' ' ++ rest, [], indents⟩
      ⟨false, rest, [], indents'⟩ := by
  refine of_step (Standing.weight_lt_of_started rfl rfl (by simp)) fun line within found hwithin => ?_
  obtain rfl : within = [] := by simpa using hwithin
  obtain ⟨tokens, hblocks, hshapes⟩ := hturns rest line
  refine ⟨tokens, line, [], hshapes, rfl, fun bound => ?_⟩
  have hindentation := readIndentation_blanks h
    ⟨List.replicate count ' ' ++ rest, line, [], indents⟩ count 0 0
  rw [Nat.zero_add] at hindentation
  simp only [Standing.lexer, Lexer.run, hindentation]
  split
  · exact absurd rfl (hrest '\n' rfl).1
  · exact absurd rfl (hrest '#' rfl).2
  · simp only [List.isEmpty_nil, if_true, hblocks]

theorem token {shape : Shape} {c : Char} {text more : List Char} {brackets brackets' : List Char}
    (hblank : isLineBlank c = false) (hc : c ≠ '#' ∧ c ≠ '\n' ∧ c ≠ '\\')
    (hmore : more.length < (c :: text).length)
    (htake : ∀ line within, within.map (·.1) = brackets → ∃ token line' within',
      Lexer.takeNext ⟨c :: text, line, within, indents⟩ =
        .ok (token, ⟨more, line', within', indents⟩) ∧ shapeOf token = shape ∧
      within'.map (·.1) = brackets') :
    Reads [shape] ⟨false, c :: text, brackets, indents⟩ ⟨false, more, brackets', indents⟩ := by
  refine of_step (Standing.weight_lt_of_shorter hmore) fun line within found hwithin => ?_
  obtain ⟨token, line', within', hnext, hshape, hwithin'⟩ := htake line within hwithin
  refine ⟨[token], line', within', by simp [hshape], hwithin', fun bound => ?_⟩
  simp only [Standing.lexer, Lexer.run, skipBlanks_of_ne hblank hc.1]
  split
  · next heq => cases heq
  · next heq => exact absurd (List.cons.inj heq).1 hc.2.1
  · next heq => exact absurd (List.cons.inj heq).1 hc.2.2
  · next heq => exact absurd (List.cons.inj heq).1 hc.2.2
  · simp only [hnext]
    rfl

end Reads

/-- A reader that gets to the end of a text reads all its tokens. -/
theorem tokensFrom_of_reads {shapes : List Shape} {text : List Char}
    (h : Reads shapes ⟨true, text, [], []⟩ ⟨false, [], [], []⟩) (line : Nat) :
    ∃ tokens, tokensFrom line text = ⟨tokens, none⟩ ∧
      tokens.map shapeOf = shapes ++ [.finish] := by
  obtain ⟨steps, tokens, line', within, hsteps, rfl, hwithin, hrun⟩ := h line [] [] rfl
  obtain rfl : within = [] := by simpa using hwithin
  refine ⟨tokens ++ [Lexer.token ⟨[], line', [], []⟩ .finish []], ?_, by simp; rfl⟩
  obtain ⟨bound, hbound⟩ : ∃ bound, 2 * text.length + 2 = bound + 1 + steps := by
    simp only [Standing.weight, List.length_nil, if_true] at hsteps
    exact ⟨2 * text.length + 1 - steps, by omega⟩
  have hfirst := hrun (bound + 1)
  rw [← hbound] at hfirst
  refine hfirst.trans ?_
  simp only [Standing.lexer, Lexer.run, Lexer.skipBlanks, List.dropWhile_nil, List.head?_nil,
    List.append_nil]
  simp

end Steps

end ProviderGen.Source
