import ProviderGen.Collection

namespace ProviderGen

namespace Text

theorem includes_iff {text part : String} :
    includes text part = true ↔ part.toList <:+: text.toList :=
  holds_eq_true_iff

end Text

theorem Role.exists_iff {p : Role → Prop} : (∃ role, p role) ↔ p .serialize ∨ p .deserialize := by
  constructor
  · rintro ⟨role, h⟩
    cases role with
    | serialize => exact .inl h
    | deserialize => exact .inr h
  · rintro (h | h)
    · exact ⟨_, h⟩
    · exact ⟨_, h⟩

namespace Keyword

theorem matchesIn_iff {keyword : Keyword} {name : String} :
    keyword.matchesIn name = true ↔ keyword.text.toList <:+: name.toList :=
  Text.includes_iff

theorem name_ne_empty_of_matchesIn {keyword : Keyword} {name : String}
    (h : keyword.matchesIn name = true) : name ≠ "" := by
  rintro rfl
  rw [matchesIn_iff, String.toList_empty, List.infix_nil, String.toList_eq_nil_iff] at h
  exact keyword.text_ne_empty h

end Keyword

namespace Discovery

variable {discovery : Discovery} {text : String}

/-- A keyword of either role is a part of a text. -/
def Mentioned (discovery : Discovery) (text : String) : Prop :=
  ∃ role, ∃ keyword ∈ discovery.keywords role, keyword.text.toList <:+: text.toList

theorem mentions_iff {role : Role} :
    discovery.mentions role text = true ↔
      ∃ keyword ∈ discovery.keywords role, keyword.text.toList <:+: text.toList := by
  simp only [mentions, List.any_eq_true, Keyword.matchesIn_iff]

theorem mentionsAny_iff : discovery.mentionsAny text = true ↔ discovery.Mentioned text := by
  rw [mentionsAny, Bool.or_eq_true, mentions_iff, mentions_iff, Mentioned, Role.exists_iff]

end Discovery

namespace Collection

theorem mayDeclare_iff {discovery : Discovery} {text : String} :
    mayDeclare discovery text = true ↔
      "class".toList <:+: text.toList ∧ discovery.Mentioned text := by
  rw [mayDeclare, Bool.and_eq_true, Text.includes_iff, Discovery.mentionsAny_iff]

end Collection

end ProviderGen
