namespace ProviderGen.Text

/-- A set of characters: the inclusive ranges of its code points, in ascending order. -/
abbrev CharSet := List (Nat × Nat)

namespace CharSet

/-- Whether a character lies in one of the ranges. -/
def has (ranges : CharSet) (c : Char) : Bool :=
  ranges.any fun (low, high) => low ≤ c.toNat && c.toNat ≤ high

theorem has_eq_true_iff {ranges : CharSet} {c : Char} :
    ranges.has c = true ↔ ∃ range ∈ ranges, range.1 ≤ c.toNat ∧ c.toNat ≤ range.2 := by
  simp [has]

end CharSet

end ProviderGen.Text
