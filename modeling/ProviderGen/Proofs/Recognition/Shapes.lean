import ProviderGen.Proofs.Recognition.Adequacy
import ProviderGen.Source.Grammar
import ProviderGen.Source.Literal

/-!
The shapes of tokens: as much of tokens as the grammar asks for. A view of shapes is right about any
tokens of these shapes.
-/

namespace ProviderGen.Source

/-- What the grammar asks of a token. -/
inductive Shape
  /-- A keyword or an operator. -/
  | word (text : String)
  | name (text : String)
  | number
  /-- A plain string whose escapes are complete. -/
  | string
  /-- A plain string with an incomplete escape. -/
  | flawed
  /-- A string that is not plain text. -/
  | special
  | newline
  | indent
  | dedent
  | finish
  deriving DecidableEq, Repr

namespace Shape

def isString : Shape → Bool
  | string => true
  | flawed => true
  | special => true
  | _ => false

/-- The kind of the tokens of a shape. Words are keywords or operators. -/
def kind? : Shape → Option TokenKind
  | word _ => none
  | name _ => some .name
  | number => some .number
  | string => some .string
  | flawed => some .string
  | special => some .string
  | newline => some .newline
  | indent => some .indent
  | dedent => some .dedent
  | finish => some .finish

/-- Whether a token of a shape is what a terminal asks for, as far as the shape tells. -/
def answer (shape : Shape) : Terminal → Option Bool
  | .word text =>
      match shape with
      | word other => some (other == text)
      | _ => some false
  | .softWord text =>
      match shape with
      | name other => some (other == text)
      | _ => some false
  | .anySoftWord =>
      match shape with
      | name other => some (beginsSoftWord other)
      | _ => some false
  | .kind kind =>
      match shape.kind? with
      | some other => if other = .number ∧ kind = .number then none else some (other == kind)
      | none => if kind = .keyword ∨ kind = .operator then none else some false
  | .typeComment => some false

/-- What adjacent strings come to that start with a string of a shape, before another token. -/
def literal? (shape next : Shape) (place : Nat) : Option Extent :=
  if next.isString then
    none
  else
    match shape with
    | string => some (.upTo (place + 1))
    | flawed => some .wrong
    | _ => none

end Shape

def shapeOfString [Interpreter] (token : Token) : Shape :=
  let parts := Literal.partsOf token
  if parts.isFormatted || parts.isBytes then .special
  else if parts.isRaw || Literal.escapesComplete parts.body then .string
  else .flawed

/-- The shape of a word: a keyword or a name. -/
def wordShape (text : String) : Shape :=
  if Text.reservedWords.contains text then .word text else .name text

theorem wordShape_of_isFreeName {text : String} (h : Text.isFreeName text = true) :
    wordShape text = .name text := by
  simp only [Text.isFreeName, Bool.and_eq_true, Bool.not_eq_true'] at h
  rw [wordShape, h.2]
  rfl

variable [Interpreter]

def shapeOf (token : Token) : Shape :=
  match token.kind with
  | .keyword => .word token.text
  | .operator => .word token.text
  | .name => .name token.text
  | .number => .number
  | .string => shapeOfString token
  | .newline => .newline
  | .indent => .indent
  | .dedent => .dedent
  | .finish => .finish

/-- The rule of adjacent strings, which is known as a whole. -/
def stringsRule : Rule := .expression .strings

/-- A view of the shapes of all tokens. Past them, no terminal is met. -/
def shapeView (shapes : List Shape) : View Rule where
  production := Rule.production
  isSealed name := name = stringsRule
  answer place terminal :=
    match shapes[place]? with
    | some shape => shape.answer terminal
    | none => some false
  known name place :=
    if name = stringsRule then
      match shapes[place]?, shapes[place + 1]? with
      | some shape, some next => (shape.literal? next place).map fun extent => ⟨extent, none⟩
      | _, _ => none
    else
      none

theorem kind_shapeOf {token : Token} {kind : TokenKind} (h : (shapeOf token).kind? = some kind) :
    token.kind = kind := by
  unfold shapeOf at h
  cases hkind : token.kind with
  | string =>
      simp only [hkind, shapeOfString] at h
      split at h
      · exact Option.some.inj h
      · split at h <;> exact Option.some.inj h
  | _ =>
      simp only [hkind] at h
      cases h <;> rfl

theorem shapeOf_eq_word_iff {token : Token} {text : String} :
    shapeOf token = .word text ↔
      (token.kind = .keyword ∨ token.kind = .operator) ∧ token.text = text := by
  unfold shapeOf
  cases hkind : token.kind with
  | string =>
      simp only [shapeOfString]
      split
      · simp
      · split <;> simp
  | _ => simp

theorem shapeOf_of_kind?_eq_none {token : Token} (h : (shapeOf token).kind? = none) :
    token.kind = .keyword ∨ token.kind = .operator := by
  cases hshape : shapeOf token with
  | word text => exact (shapeOf_eq_word_iff.mp hshape).1
  | _ =>
      rw [hshape] at h
      cases h

theorem shapeOf_eq_name_iff {token : Token} {text : String} :
    shapeOf token = .name text ↔ token.kind = .name ∧ token.text = text := by
  unfold shapeOf
  cases hkind : token.kind with
  | string =>
      simp only [shapeOfString]
      split
      · simp
      · split <;> simp
  | _ => simp

theorem kind_eq_name_iff {token : Token} :
    token.kind = .name ↔ shapeOf token = .name token.text := by
  simp [shapeOf_eq_name_iff]

theorem accepts_of_answer {token : Token} {terminal : Terminal} {accepts : Bool}
    (h : (shapeOf token).answer terminal = some accepts) : terminal.accepts token = accepts := by
  cases terminal with
  | word text =>
      simp only [Terminal.accepts]
      cases hshape : shapeOf token with
      | word other =>
          obtain ⟨hkind, rfl⟩ := shapeOf_eq_word_iff.mp hshape
          simp only [hshape, Shape.answer, Option.some.injEq] at h
          rcases hkind with hkind | hkind <;> simp [hkind, h]
      | _ =>
          have hkind := kind_shapeOf (congrArg Shape.kind? hshape)
          simp only [hshape, Shape.answer, Option.some.injEq] at h
          simp [hkind, ← h]
  | softWord text =>
      simp only [Terminal.accepts]
      by_cases hkind : token.kind = .name
      · rw [kind_eq_name_iff.mp hkind] at h
        simpa [hkind, Shape.answer] using h
      · have hshape : ∀ other, shapeOf token ≠ .name other :=
          fun other hname => hkind (shapeOf_eq_name_iff.mp hname).1
        simp only [Shape.answer] at h
        obtain rfl := Option.some.inj h
        simp [hkind]
  | anySoftWord =>
      simp only [Terminal.accepts]
      by_cases hkind : token.kind = .name
      · rw [kind_eq_name_iff.mp hkind] at h
        simpa [hkind, Shape.answer] using h
      · have hshape : ∀ other, shapeOf token ≠ .name other :=
          fun other hname => hkind (shapeOf_eq_name_iff.mp hname).1
        simp only [Shape.answer] at h
        obtain rfl := Option.some.inj h
        simp [hkind]
  | kind kind =>
      simp only [Shape.answer] at h
      simp only [Terminal.accepts]
      cases hkind : (shapeOf token).kind? with
      | some other =>
          simp only [hkind] at h
          split at h
          · cases h
          · obtain rfl := Option.some.inj h
            rw [kind_shapeOf hkind]
      | none =>
          simp only [hkind] at h
          split at h
          · cases h
          · next hnot =>
              obtain rfl := Option.some.inj h
              rw [not_or] at hnot
              rcases shapeOf_of_kind?_eq_none hkind with hkind | hkind
              · simpa [hkind] using Ne.symm hnot.1
              · simpa [hkind] using Ne.symm hnot.2
  | typeComment =>
      obtain rfl := Option.some.inj h
      rfl

theorem isTooLong_of_answer {token : Token} {terminal : Terminal}
    (h : (shapeOf token).answer terminal = some true) : Setting.isTooLong token = false := by
  have haccepts := accepts_of_answer h
  unfold Setting.isTooLong
  cases hkind : token.kind with
  | number =>
      have hshape : shapeOf token = .number := by simp [shapeOf, hkind]
      rw [hshape] at h
      cases terminal with
      | kind kind =>
          obtain rfl : TokenKind.number = kind := by simpa [Terminal.accepts, hkind] using haccepts
          simp [Shape.answer, Shape.kind?] at h
      | _ => simp [Shape.answer] at h
  | _ => rfl

section Literal

variable {parse : Nat → List Char → Except Nat Unit} {lastLine : Nat} {token : Token}

theorem checkAll_of_plain (hformatted : (Literal.partsOf token).isFormatted = false)
    (hbytes : (Literal.partsOf token).isBytes = false) :
    Literal.checkAll parse lastLine none [token] =
      if (Literal.partsOf token).isRaw || Literal.escapesComplete (Literal.partsOf token).body
      then .ok () else .error lastLine := by
  simp only [Literal.checkAll, hformatted, hbytes]
  cases (Literal.partsOf token).isRaw with
  | true => rfl
  | false => cases Literal.escapesComplete (Literal.partsOf token).body <;> rfl

theorem shapeOf_of_kind_eq_string (h : token.kind = .string) :
    shapeOf token = shapeOfString token := by
  simp [shapeOf, h]

theorem checkAll_of_string (h : shapeOf token = .string) :
    Literal.checkAll parse lastLine none [token] = .ok () := by
  have hkind := kind_shapeOf (by rw [h]; rfl : (shapeOf token).kind? = some .string)
  rw [shapeOf_of_kind_eq_string hkind, shapeOfString] at h
  split at h
  · cases h
  next hplain =>
  simp only [Bool.or_eq_true, not_or, Bool.not_eq_true] at hplain
  split at h
  · next hcomplete => rw [checkAll_of_plain hplain.1 hplain.2, if_pos hcomplete]
  · cases h

theorem checkAll_of_flawed (h : shapeOf token = .flawed) :
    Literal.checkAll parse lastLine none [token] = .error lastLine := by
  have hkind := kind_shapeOf (by rw [h]; rfl : (shapeOf token).kind? = some .string)
  rw [shapeOf_of_kind_eq_string hkind, shapeOfString] at h
  split at h
  · cases h
  next hplain =>
  simp only [Bool.or_eq_true, not_or, Bool.not_eq_true] at hplain
  split at h
  · cases h
  · next hincomplete => rw [checkAll_of_plain hplain.1 hplain.2, if_neg hincomplete]

end Literal

section Strings

variable {setting : Setting Rule} {view : View Rule} {growing : List (Rule × Nat)}
variable {matcher : Matcher Rule} {place : Nat}

omit [Interpreter] in
theorem matchChoice_strings (h : Faithful setting view)
    (hstring : view.answer place (.kind .string) = some true)
    (hlast : view.answer (place + 1) (.kind .string) = some false)
    (hplace : matcher.position = place) (hcoherent : Coherent setting view growing matcher)
    (bound : Nat) :
    ∃ token after, setting.tokens[place]? = some token ∧ after.position = place + 1 ∧
      Keeps setting view growing growing matcher after ∧
      setting.matchChoice (bound + 6) (Rule.production stringsRule).alternatives matcher =
        match setting.checkStrings (setting.lastLine after) [token] with
        | .ok () => .found [.node .plain (setting.lineAt place)
            [.node .sequence token.line [.leaf token]]] after
        | .error mistake => .wrong { mistake with final := false, reach := after.reach } := by
  obtain ⟨token, first, hthere, hmatch, hposition, hkeeps⟩ := h.accept hstring hplace hcoherent
  obtain ⟨later, hmissed, hkeeps'⟩ := h.decline hlast hposition hkeeps.coherent
  have hwithin : place + 1 ≤ setting.tokens.size := hposition ▸ hkeeps.coherent.position_le
  refine ⟨token, later.seek (place + 1), hthere, rfl, (hkeeps.trans hkeeps').seek hwithin, ?_⟩
  have hkind : token.kind = .string := by
    obtain ⟨other, hother, haccepts, -⟩ := h.accepted hstring
    obtain rfl : token = other := Option.some.inj (hthere.symm.trans hother)
    simpa [Terminal.accepts] using haccepts
  have hleaf : Tree.partsOfAll [.node .sequence token.line [.leaf token]] = [.leaf token] := by
    simp [Tree.partsOfAll, Tree.parts, Tree.isOperator, hkind]
  have halternatives : (Rule.production stringsRule).alternatives =
      [.mk false [.many1 (.token (.kind .string))] [] .strings] := rfl
  rw [halternatives]
  cases hverdict : setting.checkStrings (setting.lastLine (later.seek (place + 1))) [token] <;>
    simp only [Setting.matchChoice, Setting.matchItems, Setting.matchPattern,
    Setting.repeatPattern, hmatch, hmissed, Bool.false_and, Bool.false_eq_true, if_false,
    List.append_nil, List.reverse_cons, List.reverse_nil, List.nil_append, List.getLast?_singleton,
    Option.map_some, Option.getD_some, Tree.line, Setting.conclude, hplace, hposition, hleaf,
    List.filterMap_cons, List.filterMap_nil, hverdict]

end Strings

/-- What matches tokens that are all there, with a way to parse the fields of strings and to report
flaws of strings. -/
def settingFor (tokens : List Token) (parse : Nat → List Char → Except Nat Unit)
    (report : Nat → Mistake) : Setting Rule where
  production := Rule.production
  tokens := tokens.toArray
  fault := none
  checkStrings lastLine texts := (Literal.checkAll parse lastLine none texts).mapError report

section Reliability

variable {tokens : List Token} {parse : Nat → List Char → Except Nat Unit}
variable {report : Nat → Mistake}

theorem answer_shapeView {place : Nat} {terminal : Terminal} {accepts : Bool} {token : Token}
    (hanswer : (shapeView (tokens.map shapeOf)).answer place terminal = some accepts)
    (htoken : tokens[place]? = some token) : (shapeOf token).answer terminal = some accepts := by
  simpa [shapeView, htoken] using hanswer

theorem faithful_shapeView (parse : Nat → List Char → Except Nat Unit) :
    Faithful (settingFor tokens parse report) (shapeView (tokens.map shapeOf)) where
  whole := rfl
  production := rfl
  accepted := by
    intro place terminal hanswer
    cases htoken : tokens[place]? with
    | none => simp [shapeView, htoken] at hanswer
    | some token =>
        have hshape := answer_shapeView hanswer htoken
        exact ⟨token, by simpa [settingFor] using htoken, accepts_of_answer hshape,
          isTooLong_of_answer hshape⟩
  declined := by
    intro place terminal hanswer token htoken
    have hthere : tokens[place]? = some token := by simpa [settingFor] using htoken
    exact accepts_of_answer (answer_shapeView hanswer hthere)

omit [Interpreter] in
theorem known_shapeView {shapes : List Shape} {name : Rule} {place : Nat} {known : Known Rule}
    (h : (shapeView shapes).known name place = some known) :
    name = stringsRule ∧ known.amid = none ∧ ∃ shape next, shapes[place]? = some shape ∧
      shapes[place + 1]? = some next ∧ shape.literal? next place = some known.extent := by
  simp only [shapeView] at h
  split at h
  · next hname =>
      split at h
      · next shape next hshape hnext =>
          obtain ⟨extent, hextent, rfl⟩ := Option.map_eq_some_iff.mp h
          exact ⟨hname, rfl, shape, next, hshape, hnext, hextent⟩
      · cases h
  · cases h

omit [Interpreter] in
theorem literal?_eq_some {shape next : Shape} {place : Nat} {extent : Extent}
    (h : shape.literal? next place = some extent) :
    next.answer (.kind .string) = some false ∧ shape.answer (.kind .string) = some true ∧
      (shape = .string ∧ extent = .upTo (place + 1) ∨ shape = .flawed ∧ extent = .wrong) := by
  unfold Shape.literal? at h
  split at h
  · cases h
  next hnext =>
  have hafter : next.answer (.kind .string) = some false := by
    cases next <;> first | rfl | exact absurd rfl hnext
  split at h
  · exact ⟨hafter, rfl, .inl ⟨rfl, (Option.some.inj h).symm⟩⟩
  · exact ⟨hafter, rfl, .inr ⟨rfl, (Option.some.inj h).symm⟩⟩
  · cases h

theorem matchChoice_literal {place : Nat} {shape next : Shape} {extent : Extent}
    {growing : List (Rule × Nat)} {matcher : Matcher Rule}
    (hshape : (tokens.map shapeOf)[place]? = some shape)
    (hnext : (tokens.map shapeOf)[place + 1]? = some next)
    (hliteral : shape.literal? next place = some extent) (hplace : matcher.position = place)
    (hcoherent : Coherent (settingFor tokens parse report) (shapeView (tokens.map shapeOf)) growing
      matcher) (bound : Nat) :
    ((settingFor tokens parse report).matchChoice (bound + 6)
        (Rule.production stringsRule).alternatives matcher).Has (·.length = 1)
      (Keeps (settingFor tokens parse report) (shapeView (tokens.map shapeOf)) growing growing
        matcher) extent := by
  obtain ⟨hlast, hstring, hcase⟩ := literal?_eq_some hliteral
  have hstring' : (shapeView (tokens.map shapeOf)).answer place (.kind .string) = some true := by
    simp only [shapeView, hshape, hstring]
  have hlast' : (shapeView (tokens.map shapeOf)).answer (place + 1) (.kind .string) =
      some false := by
    simp only [shapeView, hnext, hlast]
  obtain ⟨token, after, hthere, hstop, hkeeps, hmatch⟩ :=
    matchChoice_strings (faithful_shapeView parse) hstring' hlast' hplace hcoherent bound
  have htoken : shapeOf token = shape := by
    have hthere' : tokens[place]? = some token := by simpa [settingFor] using hthere
    simpa [hthere'] using hshape
  rw [hmatch]
  rcases hcase with ⟨rfl, rfl⟩ | ⟨rfl, rfl⟩
  · have hcheck : (settingFor tokens parse report).checkStrings
        ((settingFor tokens parse report).lastLine after) [token] = .ok () := by
      simp only [settingFor, checkAll_of_string htoken]
      rfl
    simp only [hcheck]
    exact ⟨_, after, rfl, hstop, rfl, hkeeps⟩
  · obtain ⟨mistake, hcheck⟩ : ∃ mistake, (settingFor tokens parse report).checkStrings
        ((settingFor tokens parse report).lastLine after) [token] = .error mistake := by
      simp only [settingFor, checkAll_of_flawed htoken]
      exact ⟨_, rfl⟩
    simp only [hcheck]
    exact ⟨_, rfl⟩

/-- The view of the shapes of tokens is right about the tokens. -/
theorem reliable_shapeView :
    Reliable (settingFor tokens parse report) (shapeView (tokens.map shapeOf)) 8 where
  toFaithful := faithful_shapeView parse
  known := by
    intro name place known hknown bound growing matcher hbound hnot hcoherent hplace
    obtain ⟨rfl, hamid, shape, next, hshape, hnext, hliteral⟩ := known_shapeView hknown
    obtain ⟨bound, rfl⟩ : ∃ less, bound = less + 7 := ⟨bound - 7, by omega⟩
    have hkeeping : ((settingFor tokens parse report).production stringsRule).keeping =
        .remembered := rfl
    -- Whatever grows, a string comes to the same.
    have hrecognized : ∀ others : List (Rule × Nat), others.contains (stringsRule, place) = false →
        (shapeView (tokens.map shapeOf)).recognize 1 others none (.rule stringsRule) place =
          some known.extent := by
      intro others hothers
      have hself := (View.embeds_self _).known hknown 0 others le_rfl hothers
        (Known.holdsAmid_iff.mpr (by simp [hamid]))
      rwa [Extent.move_id] at hself
    cases hmemo : matcher.memoAt? stringsRule place with
    | some memo =>
        exact (faithful_shapeView parse).kept hplace hcoherent (by simp [hkeeping]) hmemo
          (hcoherent.agrees hmemo hnot (hrecognized [] rfl))
    | none =>
        have hsettled : known.extent.settled = known.extent := by
          rcases (literal?_eq_some hliteral).2.2 with ⟨-, h⟩ | ⟨-, h⟩ <;> rw [h] <;> rfl
        have hrule := hrecognized growing (by simpa using hnot)
        rw [← hsettled] at hrule ⊢
        refine (faithful_shapeView parse).remembered hplace hcoherent hkeeping hmemo hnot hrule ?_
        intro after hafter hlater
        exact matchChoice_literal hshape hnext hliteral hafter hlater bound

end Reliability

end ProviderGen.Source
