namespace ProviderGen.Text

variable {α : Type}

/-- Puts an item into a list in ascending order of its key, before items with the same key. -/
def insertBy (key : α → String) (item : α) : List α → List α
  | [] => [item]
  | other :: rest =>
      if key other < key item then other :: insertBy key item rest else item :: other :: rest

/-- A list in ascending order of a key. Items with the same key stay in their order. -/
def sortBy (key : α → String) (items : List α) : List α :=
  items.foldr (insertBy key) []

theorem length_insertBy (key : α → String) (item : α) (items : List α) :
    (insertBy key item items).length = items.length + 1 := by
  induction items with
  | nil => rfl
  | cons other rest ih =>
      unfold insertBy
      split
      · rw [List.length_cons, ih, List.length_cons]
      · rfl

@[simp]
theorem length_sortBy (key : α → String) (items : List α) :
    (sortBy key items).length = items.length := by
  induction items with
  | nil => rfl
  | cons item items ih =>
      have step : sortBy key (item :: items) = insertBy key item (sortBy key items) := rfl
      rw [step, length_insertBy, ih, List.length_cons]

/-- Puts a text into an ascending list, unless it is there. -/
def insertOnce (text : String) : List String → List String
  | [] => [text]
  | other :: rest =>
      if text = other then other :: rest
      else if other < text then other :: insertOnce text rest
      else text :: other :: rest

/-- Texts in ascending order, each of them once. -/
def sortOnce (texts : List String) : List String :=
  texts.foldr insertOnce []

theorem mem_insertOnce {text other : String} {texts : List String} :
    other ∈ insertOnce text texts ↔ other = text ∨ other ∈ texts := by
  induction texts with
  | nil => simp [insertOnce]
  | cons first rest ih =>
      unfold insertOnce
      split
      · simp_all
      · split
        · simp only [List.mem_cons, ih]
          grind
        · simp

@[simp]
theorem mem_sortOnce {text : String} {texts : List String} :
    text ∈ sortOnce texts ↔ text ∈ texts := by
  induction texts with
  | nil => simp [sortOnce]
  | cons first rest ih =>
      have step : sortOnce (first :: rest) = insertOnce first (sortOnce rest) := rfl
      rw [step, mem_insertOnce, ih, List.mem_cons]

end ProviderGen.Text
