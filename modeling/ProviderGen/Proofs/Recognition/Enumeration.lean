import ProviderGen.Proofs.Recognition.Phrase
import ProviderGen.Proofs.Recognition.Sequence

namespace ProviderGen.Source

open ExpressionRule StatementRule

/-- Items, each after a separator if there is one. -/
def strung (separator : Option String) (items : List (List Shape)) : List Shape :=
  items.flatMap (Comes.gap separator ++ ·)

section

variable {name : Rule} {reserve : Nat} {follow : List Shape} {separator : Option String}

theorem comes_repeated
    (hstop : Comes (.repeated (separator.map .word) (.rule name)) [] reserve follow (.upTo 0)) :
    ∀ items : List (List Shape),
      (∀ before item after, items = before ++ item :: after →
        Phrase name [] reserve item (strung separator after ++ follow)) →
      Comes (.repeated (separator.map .word) (.rule name)) [] (reserve + items.length + 1)
        (strung separator items ++ follow) (.upTo (strung separator items).length) := by
  intro items
  induction items with
  | nil => exact fun _ => hstop.mono (by omega)
  | cons item after ih =>
      intro hitems
      have hrest := ih fun before other rest heq =>
        hitems (item :: before) other rest (by rw [heq, List.cons_append])
      have hpart : Comes (.pattern (.rule name)) [] (reserve + after.length + 1)
          (item ++ (strung separator after ++ follow)) (.upTo item.length) :=
        (Comes.pattern_rule (hitems [] item after rfl)).mono (by omega)
      have hall := (Comes.repeated_cons hpart hrest).mono
        (show reserve + after.length + 1 + 1 ≤ reserve + (item :: after).length + 1 by
          simp only [List.length_cons]
          omega)
      simpa [strung, List.append_assoc, Nat.add_assoc] using hall

theorem comes_commas {first : List Shape} {rest : List (List Shape)}
    (hstop : Comes (.repeated ((some ",").map .word) (.rule name)) [] reserve follow (.upTo 0))
    (hitems : ∀ before item after, first :: rest = before ++ item :: after →
      Phrase name [] reserve item (strung (some ",") after ++ follow)) :
    Comes (.pattern (.separated (.word ",") (.rule name))) [] (reserve + rest.length + 2)
      ((first ++ strung (some ",") rest) ++ follow)
      (.upTo (first ++ strung (some ",") rest).length) := by
  have hfirst := Comes.pattern_rule (hitems [] first rest rfl)
  have hrepeated := comes_repeated hstop rest fun before item after heq =>
    hitems (first :: before) item after (by rw [heq, List.cons_append])
  rw [List.append_assoc, List.length_append]
  exact Comes.separated (hfirst.mono (by omega)) hrepeated

end

section

variable {reserve : Nat} {first : List Shape} {rest : List (List Shape)} {follow : List Shape}

theorem phrase_statements
    (hstop : Comes (.rule (.statement statement)) [] reserve follow .refused)
    (hitems : ∀ item ∈ first :: rest, Phrase (.statement statement) [] reserve item []) :
    Phrase (.statement statements) [] (reserve + rest.length + 20) (first ++ rest.flatten)
      follow := by
  have hstrung : ∀ items, strung none items = items.flatten := fun items => by
    simp [strung, Comes.gap, List.flatMap_def]
  have hends : Comes (.repeated ((none : Option String).map .word) (.rule (.statement statement)))
      [] (reserve + 2) follow (.upTo 0) :=
    Comes.repeated_of_refused none (Comes.pattern_rule hstop)
  have hrepeated := comes_repeated hends rest fun before item after heq =>
    ((hitems item (by simp [heq])).before (strung none after ++ follow)).mono (by omega)
  have hpart : Comes (.pattern (.rule (.statement statement))) [] (reserve + rest.length + 3)
      (first ++ (rest.flatten ++ follow)) (.upTo first.length) :=
    (Comes.pattern_rule ((hitems first (by simp)).before _)).mono (by omega)
  rw [hstrung] at hrepeated
  have hmany : Comes (.items [.many1 (.rule (.statement statement))]) []
      (reserve + rest.length + 6) ((first ++ rest.flatten) ++ follow)
      (.upTo ((first ++ rest.flatten).length + 0)) := by
    refine Comes.items_cons ?_ (Comes.items_nil.mono (by omega))
    rw [List.append_assoc, List.length_append]
    exact Comes.many1 hpart (by decide) (hrepeated.mono (by omega))
  have hchoice := Comes.of_choice (.statement statements) (Comes.choice hmany)
    (by decide) (by decide) (by simp)
  exact hchoice.mono (by omega)

end

theorem exists_strung_append (word : String) (items : List (List Shape)) (more : List Shape) :
    ∃ tail, strung (some word) items ++ .word word :: more = .word word :: tail := by
  cases items with
  | nil => exact ⟨more, rfl⟩
  | cons item items => exact ⟨item ++ (strung (some word) items ++ .word word :: more), by
      simp [strung, Comes.gap]⟩

theorem phrase_pair {reserve : Nat} {key value : List Shape} {next : Shape}
    (hkey : Phrase (.expression expression) [] reserve key [.word ":"])
    (hfirst : Glimpse.Shows (.noneOf ["**"]) key)
    (hvalue : Phrase (.expression expression) [] reserve value [next])
    (hvalue' : Glimpse.Shows (.noneOf []) value) :
    Phrase (.expression pair) [] (reserve + 200) (key ++ .word ":" :: value) [next] := by
  have hparts : Stands reserve
      [phrasePart (.noneOf ["**"]) [.expression expression], (Shape.word ":").part,
        phrasePart (.noneOf []) [.expression expression], partBut []]
      ([key, [.word ":"], value] ++ [[next]]) := by
    refine .phrasePart hfirst ?_ (.token _ (.phrasePart hvalue' ?_ (.but (by simp) .nil)))
    · simpa using hkey.before (value ++ [next])
    · simpa using hvalue
  have hphrase : Phrase (.expression pair) [] (reserve + 200)
      [key, [.word ":"], value].flatten [[next]].flatten :=
    hparts.toPhrase 200 3 (by decide) rfl
  simpa using hphrase

theorem comes_pair_refused : Comes (.rule (.expression pair)) [] 200 [.word "\x7d"] .refused := by
  have hparts : Stands 0 [(Shape.word "\x7d").part] [[.word "\x7d"]] := .token _ .nil
  exact hparts.comes (by decide +kernel : (cellView [(Shape.word "\x7d").part]).recognize 200
    (([] : List Rule).map (·, 0)) none (.rule (.expression pair)) 0 = some .refused)

theorem phrase_pairs {reserve : Nat} {first : List Shape} {rest : List (List Shape)}
    (hreserve : 200 ≤ reserve)
    (hpairs : ∀ item ∈ first :: rest, Phrase (.expression pair) [] reserve item [.word ","]) :
    Phrase (.expression pairs) [] (reserve + rest.length + 20)
      (first ++ strung (some ",") rest ++ [.word ","]) [.word "\x7d"] := by
  have hends : Comes (.repeated ((some ",").map .word) (.rule (.expression pair))) []
      (reserve + 2) ([.word ",", .word "\x7d"]) (.upTo 0) :=
    Comes.repeated_of_refused (some ",")
      (Comes.pattern_rule (comes_pair_refused.mono hreserve))
  have hcommas := comes_commas hends fun before item after heq => by
    obtain ⟨tail, htail⟩ := exists_strung_append "," after [.word "\x7d"]
    rw [htail]
    exact ((hpairs item (by rw [heq]; simp)).before tail).mono (by omega)
  have hoptional : Comes (.items [.optional (.token (.word ","))]) [] (reserve + rest.length + 4)
      ([.word ","] ++ [.word "\x7d"]) (.upTo ([Shape.word ","].length + 0)) :=
    (Comes.items_cons (Comes.optional_word rfl) (Comes.items_nil.mono (Nat.zero_le 1))).mono
      (by omega)
  have hitems := Comes.items_cons (hcommas.mono (by omega)) hoptional
  have hpairs : Comes (.rule (.expression pairs)) [] (reserve + rest.length + 7)
      ((first ++ strung (some ",") rest) ++ [.word ",", .word "\x7d"])
      (.upTo ((first ++ strung (some ",") rest).length + 1)) :=
    Comes.of_choice (.expression pairs) (Comes.choice hitems) (by decide) (by decide)
      (by simp)
  simpa [Phrase, Nat.add_assoc] using hpairs.mono (show _ ≤ reserve + rest.length + 20 by omega)

def namesWith (word first : String) (rest : List String) : List Shape :=
  .name first :: strung (some word) (rest.map fun name => [.name name])

theorem phrase_importName (name : String) {next : Shape} (hnext : next ≠ .word "as") :
    Phrase (.statement importFromName) [] 100 [.name name] [next] := by
  have hparts : Stands 0 [namePart, partBut ["as"]] ([[.name name]] ++ [[next]]) :=
    .anyName name (.but (by simpa using hnext) .nil)
  exact hparts.toPhrase 100 1 (by decide) rfl

theorem phrase_importNames (first : String) (rest : List String) :
    Phrase (.statement importFromNames) [] (rest.length + 120) (namesWith "," first rest)
      [.newline] := by
  have hitem : ∀ name, ∀ after : List (List Shape), Phrase (.statement importFromName) [] 100
      [.name name] (strung (some ",") after ++ [.newline]) := by
    intro name after
    cases after with
    | nil => exact phrase_importName name (by simp)
    | cons item after =>
        have hcomma := phrase_importName name (show Shape.word "," ≠ .word "as" by decide)
        simpa [strung, Comes.gap] using
          hcomma.before (item ++ (strung (some ",") after ++ [.newline]))
  have hends : Comes (.repeated ((some ",").map .word) (.rule (.statement importFromName))) [] 100
      [.newline] (.upTo 0) :=
    (Comes.repeated_of_no_separator rfl (by simp)).mono (Nat.zero_le 100)
  have hitems : ∀ before item after,
      [.name first] :: rest.map (fun name => [.name name]) = before ++ item :: after →
        Phrase (.statement importFromName) [] 100 item (strung (some ",") after ++ [.newline]) := by
    intro before item after heq
    have hmem : item ∈ (first :: rest).map fun name => [Shape.name name] := by
      rw [List.map_cons, heq]
      simp
    obtain ⟨name, -, rfl⟩ := List.mem_map.mp hmem
    exact hitem name after
  have hcommas := comes_commas hends hitems
  rw [List.length_map] at hcommas
  have hall := Comes.items_cons hcommas (Comes.items_nil.mono (by omega))
  have hnames : Comes (.rule (.statement importFromNames)) [] (100 + rest.length + 5)
      (namesWith "," first rest ++ [.newline]) (.upTo (namesWith "," first rest).length) :=
    Comes.of_choice (.statement importFromNames) (Comes.choice hall) (by decide)
      (by decide) (by simp)
  exact hnames.mono (by omega)

/-- The rule for names between dots, which grows. -/
def dottedRule : Rule := .statement dottedName

/-- The alternatives for names between dots come to their longest match, if the last one is
known. -/
def dottedChoice : Task Rule := .choice (Rule.production dottedRule).alternatives

section

variable {first : String} {before : List String} {shapes : List Shape} {place bound : Nat}
variable {growing : List (Rule × Nat)}

theorem recognize_dotted_more {name : String}
    (hplace : namesWith "." first before ++ [.word ".", .name name] <+: shapes.drop place)
    (hbound : 20 ≤ bound)
    (hgrowing : ∀ grown ∈ growing, grown.2 < place ∨ grown.2 = place ∧ grown.1 ∈ [dottedRule]) :
    (shapeView shapes).recognize bound growing
      (some ⟨dottedRule, place, some (place + (namesWith "." first before).length)⟩)
      dottedChoice place =
        some (.upTo (place + (namesWith "." first (before ++ [name])).length)) := by
  have hparts : Stands 0 [phrasePart .anyName [], (Shape.word ".").part, namePart]
      [namesWith "." first before, [.word "."], [.name name]] :=
    .phrasePart ⟨first, rfl⟩ (by simp) (.token _ (.anyName name .nil))
  have hcell : (cellView [phrasePart .anyName [], (Shape.word ".").part, namePart]).recognize 20
      ([dottedRule].map (·, 0)) (some ⟨dottedRule, 0, some 1⟩) dottedChoice 0 =
        some (.upTo 3) := by decide
  have hfound := hparts.recognize hcell (by simpa using hplace) (show 0 + 20 ≤ bound by omega)
    hgrowing
  simpa [Seed.move, Task.move, dottedChoice, offset, namesWith, strung, Comes.gap] using hfound

theorem recognize_dotted_end {next : Shape} (hnext : next ≠ .word ".")
    (hplace : namesWith "." first before ++ [next] <+: shapes.drop place) (hbound : 20 ≤ bound)
    (hgrowing : ∀ grown ∈ growing, grown.2 < place ∨ grown.2 = place ∧ grown.1 ∈ [dottedRule]) :
    (shapeView shapes).recognize bound growing
      (some ⟨dottedRule, place, some (place + (namesWith "." first before).length)⟩)
      dottedChoice place = some (.upTo (place + 1)) := by
  cases before with
  | nil =>
      have hparts : Stands 0 [namePart, partBut ["."]] [[.name first], [next]] :=
        .anyName first (.but (by simpa using hnext) .nil)
      have hcell : (cellView [namePart, partBut ["."]]).recognize 20
          ([dottedRule].map (·, 0)) (some ⟨dottedRule, 0, some 1⟩) dottedChoice 0 =
            some (.upTo 1) := by decide
      have hfound := hparts.recognize hcell hplace (show 0 + 20 ≤ bound by omega) hgrowing
      simpa [Seed.move, Task.move, dottedChoice, offset, namesWith, strung] using hfound
  | cons second before =>
      have hparts : Stands 0 [namePart, phrasePart (.shape (.word ".")) [], partBut ["."]]
          [[.name first], strung (some ".") ((second :: before).map fun name => [.name name]),
            [next]] :=
        .anyName first (.phrasePart rfl (by simp) (.but (by simpa using hnext) .nil))
      have hcell : (cellView [namePart, phrasePart (.shape (.word ".")) [],
          partBut ["."]]).recognize 20 ([dottedRule].map (·, 0)) (some ⟨dottedRule, 0, some 2⟩)
            dottedChoice 0 = some (.upTo 1) := by decide
      have hfound := hparts.recognize hcell (by simpa [namesWith] using hplace)
        (show 0 + 20 ≤ bound by omega) hgrowing
      simpa [Seed.move, Task.move, dottedChoice, offset, namesWith, strung, Nat.add_assoc,
        Nat.add_comm 1] using hfound

theorem recognize_grow {best : Option Nat} {stop : Nat}
    (h : (shapeView shapes).recognize bound growing (some ⟨dottedRule, place, best⟩) dottedChoice
      place = some (.upTo stop)) :
    (shapeView shapes).recognize (bound + 1) growing none (.grow dottedRule best) place =
      if stop ≤ best.getD place then some (.ofStop best)
      else
        (shapeView shapes).recognize bound growing none (.grow dottedRule (some stop)) place := by
  have hchoice : (shapeView shapes).recognize bound growing (some ⟨dottedRule, place, best⟩)
      (.choice ((shapeView shapes).production dottedRule).alternatives) place =
        some (.upTo stop) := h
  change (shapeView shapes).grow ((shapeView shapes).recognize bound) growing none dottedRule best
    place = _
  simp only [View.grow, hchoice]

theorem grow_dotted {next : Shape} (hnext : next ≠ .word ".") (rest : List String) :
    ∀ before bound, namesWith "." first (before ++ rest) ++ [next] <+: shapes.drop place →
      rest.length + 30 ≤ bound →
      (∀ grown ∈ growing, grown.2 < place ∨ grown.2 = place ∧ grown.1 ∈ [dottedRule]) →
      (shapeView shapes).recognize bound growing none
        (.grow dottedRule (some (place + (namesWith "." first before).length))) place =
          some (.upTo (place + (namesWith "." first (before ++ rest)).length)) := by
  induction rest with
  | nil =>
      intro before bound hplace hbound hgrowing
      obtain ⟨bound, rfl⟩ : ∃ less, bound = less + 1 := ⟨bound - 1, by omega⟩
      rw [List.append_nil] at hplace
      have hends := recognize_dotted_end hnext hplace
        (show 20 ≤ bound by simp at hbound; omega) hgrowing
      have hlong : place + 1 ≤ place + (namesWith "." first before).length := by
        simp [namesWith]
      rw [recognize_grow hends, Option.getD_some, if_pos hlong, List.append_nil]
      rfl
  | cons name rest ih =>
      intro before bound hplace hbound hgrowing
      obtain ⟨bound, rfl⟩ : ∃ less, bound = less + 1 := ⟨bound - 1, by omega⟩
      have hbefore : before ++ name :: rest = before ++ [name] ++ rest := by simp
      have hnames : namesWith "." first (before ++ [name] ++ rest) =
          namesWith "." first before ++ [.word ".", .name name] ++
            strung (some ".") (rest.map fun name => [.name name]) := by
        simp [namesWith, strung, Comes.gap]
      rw [hbefore] at hplace ⊢
      have hmore := recognize_dotted_more
        ((List.prefix_append _ _).trans (by rwa [hnames, List.append_assoc] at hplace))
        (show 20 ≤ bound by simp at hbound; omega) hgrowing
      have hlonger : ¬ place + (namesWith "." first (before ++ [name])).length ≤
          place + (namesWith "." first before).length := by
        simp [namesWith, strung, Comes.gap]
      rw [recognize_grow hmore, Option.getD_some, if_neg hlonger]
      exact ih (before ++ [name]) bound hplace (by simp at hbound; omega) hgrowing

end

theorem phrase_dottedName (first : String) (rest : List String) {next : Shape}
    (hnext : next ≠ .word ".") :
    Phrase dottedRule [] (rest.length + 60) (namesWith "." first rest) [next] := by
  intro shapes place hplace bound growing hbound hgrowing
  obtain ⟨bound, rfl⟩ : ∃ less, bound = less + 1 := ⟨bound - 1, by omega⟩
  have hnot : growing.contains (dottedRule, place) = false := by
    rw [List.contains_eq_mem, decide_eq_false_iff_not]
    intro hmem
    rcases hgrowing _ hmem with hlt | ⟨-, hin⟩
    · exact lt_irrefl place hlt
    · cases hin
  have hgrowing' : ∀ grown ∈ (dottedRule, place) :: growing,
      grown.2 < place ∨ grown.2 = place ∧ grown.1 ∈ [dottedRule] := by
    rintro grown (_ | ⟨_, hgrown⟩)
    · exact .inr (by simp)
    · rcases hgrowing grown hgrown with hlt | ⟨-, hin⟩
      · exact .inl hlt
      · cases hin
  have hstart : (shapeView shapes).recognize bound ((dottedRule, place) :: growing)
      (some ⟨dottedRule, place, none⟩) dottedChoice place = some (.upTo (place + 1)) := by
    have hparts : Stands 0 [namePart] [[.name first]] := .anyName first .nil
    have hcell : (cellView [namePart]).recognize 20 ([dottedRule].map (·, 0))
        (some ⟨dottedRule, 0, none⟩) dottedChoice 0 = some (.upTo 1) := by decide
    have hfirst : [[Shape.name first]].flatten <+: shapes.drop place := by
      refine List.IsPrefix.trans ?_ hplace
      exact ⟨strung (some ".") (rest.map fun name => [.name name]) ++ [next], by simp [namesWith]⟩
    have hfound := hparts.recognize hcell hfirst (show 0 + 20 ≤ bound by omega) hgrowing'
    simpa [Seed.move, Task.move, dottedChoice, offset] using hfound
  have hgrown := grow_dotted hnext rest [] bound hplace (by omega) hgrowing'
  have hgrow : (shapeView shapes).recognize (bound + 1) ((dottedRule, place) :: growing) none
      (.grow dottedRule none) place = some (.upTo (place + (namesWith "." first rest).length)) := by
    rw [recognize_grow hstart, Option.getD_none, if_neg (by omega)]
    exact hgrown
  change (shapeView shapes).rule ((shapeView shapes).recognize (bound + 1)) growing none dottedRule
    place = _
  have hkeeping : ((shapeView shapes).production dottedRule).keeping = .leftRecursive := rfl
  simp only [View.rule, Seed.at?, Option.bind_none, hnot, hkeeping, hgrow, Bool.false_eq_true,
    if_false, if_true]
  rfl

end ProviderGen.Source
