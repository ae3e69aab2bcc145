import ProviderGen.Proofs.Recognition.Cell

namespace ProviderGen.Source.Comes

variable {reserve size rest : Nat} {context piece more : List Shape} {extent : Extent}
variable {name : Rule} {part : Pattern Rule} {terminal : Terminal} {text : String}

theorem later {growing : List (Rule × Nat)} {place : Nat}
    (h : ∀ grown ∈ growing, grown.2 < place ∨ grown.2 = place ∧ grown.1 ∈ ([] : List Rule))
    {size : Nat} : ∀ grown ∈ growing,
      grown.2 < place + size ∨ grown.2 = place + size ∧ grown.1 ∈ ([] : List Rule) := by
  intro grown hgrown
  rcases h grown hgrown with hlt | ⟨-, hin⟩
  · exact .inl (by omega)
  · cases hin

theorem prefix_drop {shapes piece more : List Shape} {place : Nat}
    (h : piece ++ more <+: shapes.drop place) : more <+: shapes.drop (place + piece.length) := by
  obtain ⟨rest, hrest⟩ := h
  rw [← List.drop_drop, ← hrest, List.append_assoc, List.drop_left]
  exact List.prefix_append more rest

theorem of_choice (name : Rule) {amid : List Rule}
    (h : Comes (.choice (Rule.production name).alternatives) amid reserve context extent)
    (hname : name ≠ stringsRule) (hkeeping : (Rule.production name).keeping ≠ .leftRecursive)
    (hamid : name ∉ amid) : Comes (.rule name) amid (reserve + 1) context extent.settled := by
  intro shapes place hplace bound growing hbound hgrowing
  obtain ⟨bound, rfl⟩ : ∃ less, bound = less + 1 := ⟨bound - 1, by omega⟩
  have hchoice := h shapes place hplace bound growing (by omega) hgrowing
  have hnot : growing.contains (name, place) = false := by
    rw [List.contains_eq_mem, decide_eq_false_iff_not]
    intro hmem
    rcases hgrowing _ hmem with hlt | ⟨-, hin⟩
    · exact lt_irrefl place hlt
    · exact hamid hin
  have hknown : (shapeView shapes).known name place = none := by simp [shapeView, hname]
  have hopen : (shapeView shapes).isSealed name = false := by simp [shapeView, hname]
  have hproduction : (shapeView shapes).production = Rule.production := rfl
  have hchoice' : (shapeView shapes).recognize (bound + 1) growing none
      (.choice (Rule.production name).alternatives) place = some (extent.move (place + ·)) :=
    hchoice
  change (shapeView shapes).rule ((shapeView shapes).recognize (bound + 1)) growing none name
    place = _
  simp only [View.rule, Seed.at?, Option.bind_none, hnot, hknown, hopen, hproduction, hkeeping,
    hchoice', Bool.false_eq_true, if_false, Option.map_some, Extent.move_settled]

theorem choice {items : List (Pattern Rule)} {label : Label} {others : List (Alternative Rule)}
    (h : Comes (.items items) [] reserve context (.upTo size)) :
    Comes (.choice (.mk false items [] (.node label) :: others)) [] (reserve + 1) context
      (.upTo size) := by
  intro shapes place hplace bound growing hbound hgrowing
  obtain ⟨bound, rfl⟩ : ∃ less, bound = less + 1 := ⟨bound - 1, by omega⟩
  have hitems : (shapeView shapes).recognize (bound + 1) growing none (.items items) place =
      some (.upTo (place + size)) := h shapes place hplace bound growing (by omega) hgrowing
  change View.choice ((shapeView shapes).recognize (bound + 1)) growing none
    (.mk false items [] (.node label) :: others) place = _
  simp only [View.choice, Bool.false_eq_true, if_false, hitems]
  rfl

theorem items_nil : Comes (.items []) [] 0 context (.upTo 0) :=
  fun _ _ _ _ _ _ _ => rfl

theorem items_cons {items : List (Pattern Rule)}
    (h : Comes (.pattern part) [] reserve (piece ++ more) (.upTo piece.length))
    (hrest : Comes (.items items) [] reserve more (.upTo rest)) :
    Comes (.items (part :: items)) [] (reserve + 1) (piece ++ more)
      (.upTo (piece.length + rest)) := by
  intro shapes place hplace bound growing hbound hgrowing
  obtain ⟨bound, rfl⟩ : ∃ less, bound = less + 1 := ⟨bound - 1, by omega⟩
  have hpart : (shapeView shapes).recognize (bound + 1) growing none (.pattern part) place =
      some (.upTo (place + piece.length)) :=
    h shapes place hplace bound growing (by omega) hgrowing
  have hitems : (shapeView shapes).recognize (bound + 1) growing none (.items items)
      (place + piece.length) = some (.upTo (place + piece.length + rest)) :=
    hrest shapes _ (prefix_drop hplace) bound growing (by omega) (later hgrowing)
  change View.items ((shapeView shapes).recognize (bound + 1)) growing none (part :: items)
    place = _
  simp only [View.items, hpart, hitems]
  rw [Nat.add_assoc]
  rfl

theorem pattern_rule (h : Comes (.rule name) [] reserve context extent) :
    Comes (.pattern (.rule name)) [] (reserve + 1) context extent := by
  intro shapes place hplace bound growing hbound hgrowing
  obtain ⟨bound, rfl⟩ : ∃ less, bound = less + 1 := ⟨bound - 1, by omega⟩
  exact h shapes place hplace bound growing (by omega) hgrowing

theorem token_word {shapes : List Shape} {place : Nat} {shape : Shape}
    (hplace : context <+: shapes.drop place) (hhead : context.head? = some shape) (text : String) :
    (shapeView shapes).token (.word text) place =
      some (if shape = .word text then .upTo (place + 1) else .refused) := by
  have hanswer : shape.answer (.word text) = some (decide (shape = .word text)) := by
    cases shape with
    | word other => by_cases heq : other = text <;> simp [Shape.answer, heq]
    | _ => rfl
  simp only [View.token, shapeView, getElem?_of_prefix_drop hplace hhead, hanswer, Option.map_some]
  by_cases heq : shape = .word text <;> simp [heq]

theorem optional_word (hhead : context.head? = some (.word text)) :
    Comes (.pattern (.optional (.token (.word text)))) [] 1 context (.upTo 1) := by
  intro shapes place hplace bound growing hbound hgrowing
  obtain ⟨bound, rfl⟩ : ∃ less, bound = less + 1 := ⟨bound - 1, by omega⟩
  have htoken : (shapeView shapes).recognize (bound + 1) growing none
      (.pattern (.token (.word text))) place = some (.upTo (place + 1)) := by
    change (shapeView shapes).token (.word text) place = _
    rw [token_word hplace hhead, if_pos rfl]
  change (shapeView shapes).pattern ((shapeView shapes).recognize (bound + 1)) growing none
    (.optional (.token (.word text))) place = _
  simp only [View.pattern, htoken]
  rfl

theorem separated
    (h : Comes (.pattern part) [] reserve (piece ++ more) (.upTo piece.length))
    (hrest : Comes (.repeated (some terminal) part) [] reserve more (.upTo rest)) :
    Comes (.pattern (.separated terminal part)) [] (reserve + 1) (piece ++ more)
      (.upTo (piece.length + rest)) := by
  intro shapes place hplace bound growing hbound hgrowing
  obtain ⟨bound, rfl⟩ : ∃ less, bound = less + 1 := ⟨bound - 1, by omega⟩
  have hpart : (shapeView shapes).recognize (bound + 1) growing none (.pattern part) place =
      some (.upTo (place + piece.length)) :=
    h shapes place hplace bound growing (by omega) hgrowing
  have hrepeated : (shapeView shapes).recognize (bound + 1) growing none
      (.repeated (some terminal) part) (place + piece.length) =
        some (.upTo (place + piece.length + rest)) :=
    hrest shapes _ (prefix_drop hplace) bound growing (by omega) (later hgrowing)
  change (shapeView shapes).pattern ((shapeView shapes).recognize (bound + 1)) growing none
    (.separated terminal part) place = _
  simp only [View.pattern, hpart, hrepeated]
  rw [Nat.add_assoc]
  rfl

theorem many1 (h : Comes (.pattern part) [] reserve (piece ++ more) (.upTo piece.length))
    (hwidth : part.width ≠ 0)
    (hrest : Comes (.repeated none part) [] reserve more (.upTo rest)) :
    Comes (.pattern (.many1 part)) [] (reserve + 2) (piece ++ more)
      (.upTo (piece.length + rest)) := by
  intro shapes place hplace bound growing hbound hgrowing
  obtain ⟨bound, rfl⟩ : ∃ less, bound = less + 2 := ⟨bound - 2, by omega⟩
  have hpart : (shapeView shapes).recognize (bound + 1) growing none (.pattern part) place =
      some (.upTo (place + piece.length)) :=
    h shapes place hplace bound growing (by omega) hgrowing
  have hrepeated : (shapeView shapes).recognize (bound + 1) growing none (.repeated none part)
      (place + piece.length) = some (.upTo (place + piece.length + rest)) :=
    hrest shapes _ (prefix_drop hplace) bound growing (by omega) (later hgrowing)
  change View.repeatedOnce ((shapeView shapes).recognize (bound + 1)) growing none part place = _
  simp only [View.repeatedOnce, hwidth, if_false, hpart, hrepeated]
  rw [Nat.add_assoc]
  rfl

/-- The tokens of a separator, if there is one. -/
def gap (separator : Option String) : List Shape :=
  separator.toList.map .word

section

variable {separator : Option String}

theorem separated_gap {shapes : List Shape} {place : Nat}
    (h : gap separator ++ more <+: shapes.drop place) :
    (shapeView shapes).separated (separator.map .word) place =
      some (.upTo (place + (gap separator).length)) := by
  cases separator with
  | none => rfl
  | some word =>
      change (shapeView shapes).token (.word word) place = _
      rw [token_word h rfl word, if_pos rfl]
      rfl

theorem repeated_cons (h : Comes (.pattern part) [] reserve (piece ++ more) (.upTo piece.length))
    (hrest : Comes (.repeated (separator.map .word) part) [] reserve more (.upTo rest)) :
    Comes (.repeated (separator.map .word) part) [] (reserve + 1)
      (gap separator ++ (piece ++ more))
      (.upTo ((gap separator).length + piece.length + rest)) := by
  intro shapes place hplace bound growing hbound hgrowing
  obtain ⟨bound, rfl⟩ : ∃ less, bound = less + 1 := ⟨bound - 1, by omega⟩
  have hseparated := separated_gap hplace
  have hpart : (shapeView shapes).recognize (bound + 1) growing none (.pattern part)
      (place + (gap separator).length) =
        some (.upTo (place + (gap separator).length + piece.length)) :=
    h shapes _ (prefix_drop hplace) bound growing (by omega) (later hgrowing)
  have hrepeated : (shapeView shapes).recognize (bound + 1) growing none
      (.repeated (separator.map .word) part)
      (place + (gap separator).length + piece.length) =
        some (.upTo (place + (gap separator).length + piece.length + rest)) :=
    hrest shapes _ (prefix_drop (prefix_drop hplace)) bound growing (by omega)
      (later (later hgrowing))
  change (shapeView shapes).repeated ((shapeView shapes).recognize (bound + 1)) growing none
    (separator.map .word) part place = _
  simp only [View.repeated, hseparated, hpart, hrepeated]
  simp only [Extent.move_upTo, Nat.add_assoc]

theorem repeated_of_refused (separator : Option String)
    (h : Comes (.pattern part) [] reserve more .refused) :
    Comes (.repeated (separator.map .word) part) [] (reserve + 1) (gap separator ++ more)
      (.upTo 0) := by
  intro shapes place hplace bound growing hbound hgrowing
  obtain ⟨bound, rfl⟩ : ∃ less, bound = less + 1 := ⟨bound - 1, by omega⟩
  have hseparated := separated_gap hplace
  have hpart : (shapeView shapes).recognize (bound + 1) growing none (.pattern part)
      (place + (gap separator).length) = some .refused :=
    h shapes _ (prefix_drop hplace) bound growing (by omega) (later hgrowing)
  change (shapeView shapes).repeated ((shapeView shapes).recognize (bound + 1)) growing none
    (separator.map .word) part place = _
  simp only [View.repeated, hseparated, hpart]
  rfl

end

theorem repeated_of_no_separator {word : String} {shape : Shape}
    (hhead : context.head? = some shape) (hshape : shape ≠ .word word) :
    Comes (.repeated (some (.word word)) part) [] 0 context (.upTo 0) := by
  intro shapes place hplace bound growing hbound hgrowing
  have hseparated : (shapeView shapes).separated (some (.word word)) place = some .refused := by
    change (shapeView shapes).token (.word word) place = _
    rw [token_word hplace hhead, if_neg hshape]
  change (shapeView shapes).repeated ((shapeView shapes).recognize bound) growing none
    (some (.word word)) part place = _
  simp only [View.repeated, hseparated]
  rfl

end ProviderGen.Source.Comes
