import ProviderGen.Proofs.Recognition.Phrase
import ProviderGen.Source.Parse

namespace ProviderGen.Source

variable [Interpreter] {tokens : List Token} {reserve : Nat}

theorem coherent_startOf (parse : Nat → List Char → Except Nat Unit) (report : Nat → Mistake) :
    Coherent (settingFor tokens parse report) (shapeView (tokens.map shapeOf)) []
      (startOf ⟨tokens, none⟩ false 0) := by
  have hempty : ∀ name place,
      (startOf ⟨tokens, none⟩ false 0).memoAt? name place = none := by
    intro name place
    simp only [Matcher.memoAt?, startOf, Array.getElem?_replicate]
    split <;> rfl
  exact
    { quiet := rfl
      size := by simp [startOf, settingFor]
      position_le := Nat.zero_le _
      stop_le := fun hmemo => by
        rw [hempty] at hmemo
        cases hmemo
      agrees := fun hmemo => by
        rw [hempty] at hmemo
        cases hmemo }

/-- A matcher that has kept nothing finds what a rule comes to. -/
theorem matchRule_of_comes {name : Rule} {extent : Extent}
    (parse : Nat → List Char → Except Nat Unit) (report : Nat → Mistake)
    (h : Comes (.rule name) [] reserve (tokens.map shapeOf) extent)
    (hreserve : reserve + 9 ≤ searchBound ⟨tokens, none⟩) :
    ((settingFor tokens parse report).matchRule (searchBound ⟨tokens, none⟩) name
        (startOf ⟨tokens, none⟩ false 0)).Has (·.length = 1) (fun _ => True)
      extent := by
  have hrecognized := h (tokens.map shapeOf) 0 (by simp) reserve [] le_rfl (by simp)
  have hmove : (fun index => 0 + index) = id := funext Nat.zero_add
  rw [hmove, Extent.move_id] at hrecognized
  have hreliable : Reliable (settingFor tokens parse report) (shapeView (tokens.map shapeOf)) 8 :=
    reliable_shapeView
  have hfinds := hreliable.sound (reserve + 1) (searchBound ⟨tokens, none⟩) (by omega) hrecognized
  exact (hfinds _ rfl (coherent_startOf parse report) Seeded.none).imp (fun _ h => h)
    fun _ _ => trivial

/-- Whether a text of some extent is accepted. -/
def Extent.accepts : Extent → Bool
  | upTo _ => true
  | _ => false

theorem matchStream_of_comes {name : Rule} {extent : Extent}
    (parse : Nat → List Char → Except Nat Unit) (report : Nat → Mistake)
    (h : Comes (.rule name) [] reserve (tokens.map shapeOf) extent)
    (hreserve : reserve + 9 ≤ searchBound ⟨tokens, none⟩) :
    (matchStream ⟨tokens, none⟩ name fun lastLine texts =>
      (Literal.checkAll parse lastLine none texts).mapError report).isOk = extent.accepts := by
  have hmatched := matchRule_of_comes parse report h hreserve
  simp only [settingFor] at hmatched
  cases extent with
  | upTo stop =>
      obtain ⟨trees, matcher, hfound, -, hone, -⟩ := hmatched
      obtain ⟨tree, rfl⟩ := List.length_eq_one_iff.mp hone
      simp only [matchStream, hfound]
      rfl
  | refused =>
      obtain ⟨matcher, hmissed, -⟩ := hmatched
      simp only [matchStream, hmissed]
      split <;> rfl
  | refusedForGood =>
      obtain ⟨matcher, hmissed, -⟩ := hmatched
      simp only [matchStream, hmissed]
      split <;> rfl
  | wrong =>
      obtain ⟨mistake, hwrong⟩ := hmatched
      simp only [matchStream, hwrong]
      rfl

theorem parse_of_comes {text : List Char} {extent : Extent}
    (htokens : tokensFrom 1 (withLineFeeds text) = ⟨tokens, none⟩)
    (h : Comes (.rule (.statement .file)) [] reserve (tokens.map shapeOf) extent)
    (hreserve : reserve + 9 ≤ searchBound ⟨tokens, none⟩) :
    (parse text).isOk = extent.accepts := by
  simp only [parse, htokens]
  exact matchStream_of_comes _ _ h hreserve

end ProviderGen.Source
