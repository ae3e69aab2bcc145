import ProviderGen.Proofs.Recognition.Shapes

/-!
Cells: short stretches of tokens in which longer ones are taken as a whole. What is recognized in a
cell, by evaluation, is recognized wherever the tokens stand.
-/

namespace ProviderGen.Source

/-- What a task comes to wherever a context stands, even while some rules grow there. The extent is
counted from the start of the context. -/
def Comes (task : Task Rule) (amid : List Rule) (reserve : Nat) (context : List Shape)
    (extent : Extent) : Prop :=
  ∀ shapes place, context <+: shapes.drop place → ∀ bound growing, reserve ≤ bound →
    (∀ grown ∈ growing, grown.2 < place ∨ grown.2 = place ∧ grown.1 ∈ amid) →
      (shapeView shapes).recognize (bound + 1) growing none (task.move (place + ·)) place =
        some (extent.move (place + ·))

/-- As much of a token as a cell knows. -/
inductive Glimpse
  | shape (shape : Shape)
  | anyName
  /-- A token that is none of some words. -/
  | noneOf (words : List String)
  deriving DecidableEq, Repr

/-- What is known of a rule in a cell, where a stretch of tokens starts: whether the rule matches
the whole stretch, or is refused, even while some rules grow there. -/
structure Fact where
  name : Rule
  matched : Bool
  amid : List Rule

/-- A part of a cell: a token, or a stretch of tokens of which the first one is known. -/
structure Part where
  first : Glimpse
  single : Bool
  facts : List Fact

def Fact.known (fact : Fact) (place : Nat) : Known Rule :=
  ⟨if fact.matched then .upTo (place + 1) else .refused, some fact.amid⟩

def Glimpse.answer : Glimpse → Terminal → Option Bool
  | .shape seen, terminal => seen.answer terminal
  | .anyName, .word _ => some false
  | .anyName, .kind kind => some (TokenKind.name == kind)
  | .anyName, _ => none
  | .noneOf words, .word text => if words.contains text then some false else none
  | .noneOf _, _ => none

def Part.shape? (part : Part) : Option Shape :=
  match part.first with
  | .shape shape => if part.single then some shape else none
  | _ => none

/-- What the first token of a part answers. Only a token on its own can be accepted. -/
def Part.answer (part : Part) (terminal : Terminal) : Option Bool :=
  match part.first.answer terminal with
  | some true => if part.single then some true else none
  | result => result

/-- What is known of strings at a place of a cell. -/
def literalIn (parts : List Part) (place : Nat) : Option (Known Rule) := do
  let shape ← (← parts[place]?).shape?
  let next ← (← parts[place + 1]?).shape?
  return ⟨← shape.literal? next place, none⟩

/-- A view of a cell, which knows nothing of what follows it. -/
def cellView (parts : List Part) : View Rule where
  production := Rule.production
  isSealed name := name = stringsRule
  answer place terminal := parts[place]?.bind (·.answer terminal)
  known name place :=
    if name = stringsRule then literalIn parts place
    else (parts[place]?.bind fun part => part.facts.find? (·.name = name)).map (·.known place)

def Shape.part (shape : Shape) : Part := ⟨.shape shape, true, []⟩

/-- A glimpse of the first token of some shapes is right. -/
def Glimpse.Shows : Glimpse → List Shape → Prop
  | .shape seen, shapes => shapes.head? = some seen
  | .anyName, shapes => ∃ text, shapes.head? = some (.name text)
  | .noneOf words, shapes => ∃ shape, shapes.head? = some shape ∧
      ∀ word ∈ words, shape ≠ .word word

/-- The parts of a cell stand for stretches of tokens. -/
inductive Stands (reserve : Nat) : List Part → List (List Shape) → Prop
  | nil : Stands reserve [] []
  | cons {part parts stretch stretches} (shown : part.first.Shows stretch)
      (single : part.single = true → stretch.length = 1)
      (facts : ∀ fact ∈ part.facts, Comes (.rule fact.name) fact.amid reserve
        (stretch ++ stretches.flatten)
        (if fact.matched then .upTo stretch.length else .refused))
      (rest : Stands reserve parts stretches) :
      Stands reserve (part :: parts) (stretch :: stretches)

/-- Where the part with an index starts, from the start of the cell. -/
def offset (stretches : List (List Shape)) (index : Nat) : Nat :=
  (stretches.take index).flatten.length + (index - stretches.length)

section

variable {reserve : Nat} {parts : List Part} {stretches : List (List Shape)}

theorem Stands.length_eq (h : Stands reserve parts stretches) :
    parts.length = stretches.length := by
  induction h with
  | nil => rfl
  | cons _ _ _ _ ih => simp [ih]

theorem Stands.get (h : Stands reserve parts stretches) {index : Nat} {part : Part}
    (hpart : parts[index]? = some part) :
    ∃ stretch rest, stretches.drop index = stretch :: rest ∧ part.first.Shows stretch ∧
      (part.single = true → stretch.length = 1) ∧
      ∀ fact ∈ part.facts, Comes (.rule fact.name) fact.amid reserve (stretch ++ rest.flatten)
        (if fact.matched then .upTo stretch.length else .refused) := by
  induction h generalizing index with
  | nil => simp at hpart
  | cons shown single facts rest ih =>
      cases index with
      | zero =>
          obtain rfl := Option.some.inj hpart
          exact ⟨_, _, rfl, shown, single, facts⟩
      | succ index => exact ih (by simpa using hpart)

theorem Glimpse.Shows.ne_nil {first : Glimpse} {shapes : List Shape} (h : first.Shows shapes) :
    shapes ≠ [] := by
  rintro rfl
  cases first with
  | shape shape => cases h
  | anyName =>
      obtain ⟨text, htext⟩ := h
      cases htext
  | noneOf words =>
      obtain ⟨shape, hshape, -⟩ := h
      cases hshape

theorem offset_succ {index : Nat} {stretch : List Shape} {rest : List (List Shape)}
    (h : stretches.drop index = stretch :: rest) :
    offset stretches (index + 1) = offset stretches index + stretch.length := by
  have hlt : index < stretches.length := by
    by_contra hle
    simp [List.drop_eq_nil_of_le (not_lt.mp hle)] at h
  have hget : stretches[index] = stretch := by
    rw [List.drop_eq_getElem_cons hlt] at h
    exact (List.cons.inj h).1
  simp only [offset, List.take_succ_eq_append_getElem hlt, hget, List.flatten_append,
    List.length_append, List.flatten_cons, List.flatten_nil, List.append_nil]
  omega

theorem offset_of_length_le {index : Nat} (h : stretches.length ≤ index) :
    offset stretches (index + 1) = offset stretches index + 1 := by
  simp only [offset, List.take_of_length_le h, List.take_of_length_le (Nat.le_succ_of_le h)]
  omega

@[simp]
theorem offset_zero : offset stretches 0 = 0 := by
  simp [offset]

theorem Stands.strictMono_offset (h : Stands reserve parts stretches) :
    StrictMono (offset stretches) := by
  refine strictMono_nat_of_lt_succ fun index => ?_
  by_cases hindex : index < parts.length
  · obtain ⟨stretch, rest, hdrop, hshown, -, -⟩ := h.get (List.getElem?_eq_getElem hindex)
    rw [offset_succ hdrop]
    have := List.length_pos_iff.mpr hshown.ne_nil
    omega
  · rw [offset_of_length_le (by rw [← h.length_eq]; omega)]
    omega

theorem drop_offset (index : Nat) : stretches.flatten.drop (offset stretches index) =
    (stretches.drop index).flatten := by
  have hsplit : stretches.flatten = (stretches.take index).flatten ++
      (stretches.drop index).flatten := by
    rw [← List.flatten_append, List.take_append_drop]
  rw [offset, ← List.drop_drop, hsplit, List.drop_left]
  by_cases hindex : index ≤ stretches.length
  · rw [Nat.sub_eq_zero_of_le hindex, List.drop_zero]
  · simp [List.drop_eq_nil_of_le (Nat.le_of_not_le hindex)]

theorem prefix_drop_offset {shapes : List Shape} {place : Nat}
    (h : stretches.flatten <+: shapes.drop place) (index : Nat) :
    (stretches.drop index).flatten <+: shapes.drop (place + offset stretches index) := by
  obtain ⟨rest, hrest⟩ := h
  rw [← List.drop_drop, ← hrest, ← drop_offset, List.drop_append]
  exact List.prefix_append _ _

theorem Glimpse.Shows.answer {first : Glimpse} {shapes : List Shape} (h : first.Shows shapes)
    {terminal : Terminal} {accepts : Bool} (hanswer : first.answer terminal = some accepts) :
    ∃ shape, shapes.head? = some shape ∧ shape.answer terminal = some accepts := by
  cases first with
  | shape shape => exact ⟨shape, h, hanswer⟩
  | anyName =>
      obtain ⟨text, htext⟩ := h
      refine ⟨.name text, htext, ?_⟩
      cases terminal with
      | word _ => exact hanswer
      | kind kind => exact hanswer
      | _ => cases hanswer
  | noneOf words =>
      obtain ⟨shape, hshape, hnone⟩ := h
      refine ⟨shape, hshape, ?_⟩
      cases terminal with
      | word text =>
          simp only [Glimpse.answer] at hanswer
          split at hanswer
          · next hmem =>
              obtain rfl := Option.some.inj hanswer
              cases shape with
              | word other =>
                  have hne := hnone text (by simpa using hmem)
                  simpa [Shape.answer] using hne
              | _ => rfl
          · cases hanswer
      | _ => cases hanswer

theorem getElem?_of_prefix_drop {shapes context : List Shape} {place : Nat} {shape : Shape}
    (h : context <+: shapes.drop place) (hhead : context.head? = some shape) :
    shapes[place]? = some shape := by
  obtain ⟨rest, hrest⟩ := h
  have hdrop : (shapes.drop place).head? = some shape := by
    rw [← hrest]
    simp [List.head?_append, hhead]
  simpa using hdrop

theorem Part.answer_eq_some {part : Part} {terminal : Terminal} {accepts : Bool}
    (h : part.answer terminal = some accepts) :
    part.first.answer terminal = some accepts ∧ (accepts = true → part.single = true) := by
  unfold Part.answer at h
  split at h
  · next haccepted =>
      split at h
      · next hsingle =>
          obtain rfl := Option.some.inj h
          exact ⟨haccepted, fun _ => hsingle⟩
      · cases h
  · next hnot =>
      refine ⟨h, ?_⟩
      rintro rfl
      exact absurd h hnot

theorem Part.shape?_eq_some {part : Part} {shape : Shape} (h : part.shape? = some shape) :
    part.first = .shape shape ∧ part.single = true := by
  unfold Part.shape? at h
  split at h
  · next hfirst =>
      split at h
      · next hsingle =>
          obtain rfl := Option.some.inj h
          exact ⟨hfirst, hsingle⟩
      · cases h
  · cases h

theorem literalIn_eq_some {index : Nat} {known : Known Rule}
    (h : literalIn parts index = some known) :
    ∃ part after shape next, parts[index]? = some part ∧ parts[index + 1]? = some after ∧
      part.shape? = some shape ∧ after.shape? = some next ∧
      shape.literal? next index = some known.extent ∧ known.amid = none := by
  obtain ⟨part, hpart, h⟩ := Option.bind_eq_some_iff.mp h
  obtain ⟨shape, hshape, h⟩ := Option.bind_eq_some_iff.mp h
  obtain ⟨after, hafter, h⟩ := Option.bind_eq_some_iff.mp h
  obtain ⟨next, hnext, h⟩ := Option.bind_eq_some_iff.mp h
  obtain ⟨extent, hextent, h⟩ := Option.bind_eq_some_iff.mp h
  obtain rfl := Option.some.inj h
  exact ⟨part, after, shape, next, hpart, hafter, hshape, hnext, hextent, rfl⟩

section

variable {shapes : List Shape} {place : Nat} (h : Stands reserve parts stretches)
  (hplace : stretches.flatten <+: shapes.drop place)

include h hplace

theorem Stands.getElem?_of_answer {index : Nat} {part : Part} (hpart : parts[index]? = some part)
    {terminal : Terminal} {accepts : Bool} (hanswer : part.first.answer terminal = some accepts) :
    ∃ shape, shapes[place + offset stretches index]? = some shape ∧
      shape.answer terminal = some accepts := by
  obtain ⟨stretch, rest, hdrop, hshown, -, -⟩ := h.get hpart
  obtain ⟨shape, hhead, hshape⟩ := hshown.answer hanswer
  refine ⟨shape, getElem?_of_prefix_drop (prefix_drop_offset hplace index) ?_, hshape⟩
  simp [hdrop, List.head?_append, hhead]

theorem Stands.getElem?_of_shape? {index : Nat} {part : Part} (hpart : parts[index]? = some part)
    {shape : Shape} (hshape : part.shape? = some shape) :
    shapes[place + offset stretches index]? = some shape ∧
      offset stretches (index + 1) = offset stretches index + 1 := by
  obtain ⟨stretch, rest, hdrop, hshown, hsingle, -⟩ := h.get hpart
  obtain ⟨hfirst, hone⟩ := Part.shape?_eq_some hshape
  rw [hfirst] at hshown
  refine ⟨getElem?_of_prefix_drop (prefix_drop_offset hplace index) ?_, ?_⟩
  · simp [hdrop, List.head?_append, show stretch.head? = some shape from hshown]
  · rw [offset_succ hdrop, hsingle hone]

theorem Stands.known_strings {index : Nat} {known : Known Rule}
    (hknown : literalIn parts index = some known) :
    (shapeView shapes).known stringsRule (place + offset stretches index) =
      some ⟨known.extent.move fun index => place + offset stretches index, none⟩ := by
  obtain ⟨part, after, shape, next, hpart, hafter, hshape, hnext, hliteral, -⟩ :=
    literalIn_eq_some hknown
  obtain ⟨hat, hone⟩ := h.getElem?_of_shape? hplace hpart hshape
  obtain ⟨hthen, -⟩ := h.getElem?_of_shape? hplace hafter hnext
  rw [hone, ← Nat.add_assoc] at hthen
  have hmoved : shape.literal? next (place + offset stretches index) =
      some (known.extent.move fun index => place + offset stretches index) := by
    unfold Shape.literal? at hliteral ⊢
    split at hliteral
    · cases hliteral
    next hstring =>
    rw [if_neg hstring]
    split at hliteral
    · rw [← Option.some.inj hliteral]
      simp [hone, Nat.add_assoc]
    · rw [← Option.some.inj hliteral]
      rfl
    · cases hliteral
  simp [shapeView, hat, hthen, hmoved]

theorem Stands.embeds :
    (cellView parts).Embeds (shapeView shapes) (fun index => place + offset stretches index)
      reserve where
  strictMono _ _ hlt := Nat.add_lt_add_left (h.strictMono_offset hlt) place
  production := rfl
  isSealed := rfl
  answer := by
    intro index terminal accepts hanswer
    obtain ⟨part, hpart, hpart'⟩ := Option.bind_eq_some_iff.mp hanswer
    obtain ⟨shape, hat, hshape⟩ :=
      h.getElem?_of_answer hplace hpart (Part.answer_eq_some hpart').1
    simp only [shapeView, hat, hshape]
  next := by
    intro index terminal hanswer
    obtain ⟨part, hpart, hpart'⟩ := Option.bind_eq_some_iff.mp hanswer
    obtain ⟨stretch, rest, hdrop, -, hsingle, -⟩ := h.get hpart
    rw [offset_succ hdrop, hsingle ((Part.answer_eq_some hpart').2 rfl), Nat.add_assoc]
  known := by
    intro name index known hknown bound growing hbound hnot hholds
    simp only [cellView] at hknown
    split at hknown
    · next hname =>
        subst hname
        have hthere := h.known_strings hplace hknown
        have hself := (View.embeds_self (shapeView shapes)).known hthere bound growing
          (Nat.zero_le bound) hnot (Known.holdsAmid_iff.mpr (by simp))
        rwa [Extent.move_id] at hself
    · obtain ⟨fact, hfact, rfl⟩ := Option.map_eq_some_iff.mp hknown
      obtain ⟨part, hpart, hfind⟩ := Option.bind_eq_some_iff.mp hfact
      obtain rfl : fact.name = name := by simpa using List.find?_some hfind
      obtain ⟨stretch, rest, hdrop, -, -, hfacts⟩ := h.get hpart
      have hcontext := prefix_drop_offset hplace index
      rw [hdrop, List.flatten_cons] at hcontext
      have hcomes := hfacts fact (List.mem_of_find?_eq_some hfind) shapes _ hcontext bound growing
        hbound ?_
      · rw [show (Task.rule fact.name).move _ = .rule fact.name from rfl] at hcomes
        rw [hcomes]
        cases hmatched : fact.matched with
        | true => simp [Fact.known, hmatched, offset_succ hdrop, Nat.add_assoc]
        | false => simp [Fact.known, hmatched]
      · exact fun grown hgrown => Known.holdsAmid_iff.mp hholds fact.amid rfl grown hgrown
  opened := by
    intro name index _ hopen
    have hname : name ≠ stringsRule := by simpa [cellView] using hopen
    simp [shapeView, hname]

end

theorem Stands.recognize (h : Stands reserve parts stretches) {task : Task Rule}
    {amid : List Rule} {seed : Option (Seed Rule)} {bound : Nat} {extent : Extent}
    (hcell : (cellView parts).recognize bound (amid.map (·, 0)) seed task 0 = some extent)
    {shapes : List Shape} {place : Nat} (hplace : stretches.flatten <+: shapes.drop place)
    {outside : Nat} (houtside : reserve + bound ≤ outside) {growing : List (Rule × Nat)}
    (hgrowing : ∀ grown ∈ growing, grown.2 < place ∨ grown.2 = place ∧ grown.1 ∈ amid) :
    (shapeView shapes).recognize outside growing
        (seed.map (·.move fun index => place + offset stretches index))
        (task.move fun index => place + offset stretches index) place =
      some (extent.move fun index => place + offset stretches index) := by
  have hcovers : Covers (fun index => place + offset stretches index) (amid.map (·, 0))
      growing := by
    intro grown hgrown
    rcases hgrowing grown hgrown with hlt | ⟨heq, hmem⟩
    · exact .inr (by simpa using hlt)
    · refine .inl ⟨(grown.1, 0), by simpa using hmem, ?_⟩
      simp [← heq]
  have hwide := (h.embeds hplace).transfers bound outside houtside hcovers hcell
  have hstart : (fun index => place + offset stretches index) 0 = place := by simp
  rwa [hstart] at hwide

theorem Stands.comes (h : Stands reserve parts stretches) {name : Rule} {amid : List Rule}
    {bound : Nat} {extent : Extent}
    (hcell : (cellView parts).recognize bound (amid.map (·, 0)) none (.rule name) 0 =
      some extent) :
    Comes (.rule name) amid (reserve + bound) stretches.flatten
      (extent.move (offset stretches)) := by
  intro shapes place hplace outside growing houtside hgrowing
  have hwide := h.recognize hcell hplace (Nat.le_succ_of_le houtside) hgrowing
  rw [show (Task.rule name).move _ = .rule name from rfl] at hwide ⊢
  rw [show (none : Option (Seed Rule)).map _ = none from rfl] at hwide
  rw [hwide]
  cases extent <;> rfl

end

end ProviderGen.Source
