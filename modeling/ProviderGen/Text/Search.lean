namespace ProviderGen.Text

/-- Whether a text holds another one somewhere. -/
def holds (part : List Char) : List Char → Bool
  | [] => part.isEmpty
  | c :: rest => part.isPrefixOf (c :: rest) || holds part rest

theorem holds_eq_true_iff {part text : List Char} : holds part text = true ↔ part <:+: text := by
  induction text with
  | nil => simp [holds]
  | cons c rest ih => simp [holds, ih, List.infix_cons_iff]

/-- Whether a string holds another one somewhere. -/
def includes (text part : String) : Bool :=
  holds part.toList text.toList

end ProviderGen.Text
