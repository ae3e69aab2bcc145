import Mathlib.Data.List.Basic
import ProviderGen.Keyword

namespace ProviderGen.Keyword

/-- A list comes from another one by strewing a keyword over it, at any places, as often as one
likes. -/
inductive Strewn (keyword : Keyword) : List Keyword → List Keyword → Prop
  | nil : Strewn keyword [] []
  | kept (other : Keyword) {others more : List Keyword} :
      Strewn keyword others more → Strewn keyword (other :: others) (other :: more)
  | added {others more : List Keyword} :
      Strewn keyword others more → Strewn keyword others (keyword :: more)

variable {keyword : Keyword} {role : Role} {others keywords more result : List Keyword}
  {error : KeywordError}

theorem Strewn.filter_eq (h : Strewn keyword others more) :
    more.filter (· ≠ keyword) = others.filter (· ≠ keyword) := by
  induction h with
  | nil => rfl
  | kept other _ ih => rw [List.filter_cons, List.filter_cons, ih]
  | added _ ih =>
      rw [List.filter_cons_of_neg (by simp)]
      exact ih

theorem strewn_filter (keyword : Keyword) (keywords : List Keyword) :
    Strewn keyword (keywords.filter (· ≠ keyword)) keywords := by
  induction keywords with
  | nil => exact .nil
  | cons first rest ih =>
      by_cases hfirst : first = keyword
      · subst hfirst
        rw [List.filter_cons_of_neg (by simp)]
        exact .added ih
      · rw [List.filter_cons_of_pos (by simpa using hfirst)]
        exact .kept first ih

theorem strewn_concat (keyword : Keyword) (keywords : List Keyword) :
    Strewn keyword keywords (keywords ++ [keyword]) := by
  induction keywords with
  | nil => exact .added .nil
  | cons first rest ih => exact .kept first ih

theorem Strewn.find?_eq (h : Strewn (builtin role) others more) :
    (more.find? fun keyword => keyword.role ≠ role) =
      others.find? fun keyword => keyword.role ≠ role := by
  induction h with
  | nil => rfl
  | kept other _ ih => rw [List.find?_cons, List.find?_cons, ih]
  | added _ ih =>
      rw [List.find?_cons_of_neg (by simp)]
      exact ih

theorem withBuiltin_of_strewn (h : Strewn (builtin role) others more) :
    withBuiltin role more = withBuiltin role others := by
  rw [withBuiltin, withBuiltin, h.find?_eq, h.filter_eq]

theorem withBuiltin_eq_error_iff :
    withBuiltin role keywords = .error error ↔
      ∃ before wrong after, keywords = before ++ wrong :: after ∧
        (∀ keyword ∈ before, keyword.role = role) ∧ wrong.role ≠ role ∧
        error = .wrongRole wrong.text wrong.role role := by
  rw [withBuiltin]
  constructor
  · intro h
    split at h
    next wrong hfind =>
      obtain ⟨hwrong, before, after, hkeywords, hbefore⟩ := List.find?_eq_some_iff_append.mp hfind
      exact ⟨before, wrong, after, hkeywords, by simpa using hbefore, by simpa using hwrong,
        (Except.error.inj h).symm⟩
    next => cases h
  · rintro ⟨before, wrong, after, hkeywords, hbefore, hwrong, rfl⟩
    have hfind : (keywords.find? fun keyword => keyword.role ≠ role) = some wrong := by
      apply List.find?_eq_some_iff_append.mpr
      exact ⟨by simpa using hwrong, before, after, hkeywords, by simpa using hbefore⟩
    rw [hfind]

theorem withBuiltin_eq_ok_iff :
    withBuiltin role keywords = .ok result ↔
      (∀ keyword ∈ keywords, keyword.role = role) ∧
        result = keywords.filter (· ≠ builtin role) ++ [builtin role] := by
  rw [withBuiltin]
  constructor
  · intro h
    split at h
    next => cases h
    next hfind => exact ⟨by simpa using hfind, (Except.ok.inj h).symm⟩
  · rintro ⟨hroles, rfl⟩
    have hfind : (keywords.find? fun keyword => keyword.role ≠ role) = none := by
      simpa using hroles
    rw [hfind]

/-- Keywords are refused exactly if one of them has another role, and the first of these is named.
Otherwise the built-in keyword stands at the end and only there, behind all others in their order
and with their repetitions. This is a normal form, which does not hang on where the built-in keyword
stood and how often. -/
theorem withBuiltin_normal (role : Role) (keywords : List Keyword) :
    ((∃ error, withBuiltin role keywords = .error error) ↔
        ∃ keyword ∈ keywords, keyword.role ≠ role) ∧
      (∀ error, withBuiltin role keywords = .error error ↔
        ∃ before wrong after, keywords = before ++ wrong :: after ∧
          (∀ keyword ∈ before, keyword.role = role) ∧ wrong.role ≠ role ∧
          error = .wrongRole wrong.text wrong.role role) ∧
      (∀ result, withBuiltin role keywords = .ok result →
        ∃ others, result = others ++ [builtin role] ∧ builtin role ∉ others ∧
          Strewn (builtin role) others keywords ∧ withBuiltin role result = .ok result) ∧
      ∀ others more, Strewn (builtin role) others keywords → Strewn (builtin role) others more →
        withBuiltin role more = withBuiltin role keywords := by
  refine ⟨?_, fun error => withBuiltin_eq_error_iff, ?_, ?_⟩
  · constructor
    · rintro ⟨error, herror⟩
      obtain ⟨before, wrong, after, rfl, -, hwrong, -⟩ := withBuiltin_eq_error_iff.mp herror
      exact ⟨wrong, by simp, hwrong⟩
    · rintro ⟨keyword, hmem, hrole⟩
      cases h : withBuiltin role keywords with
      | error error => exact ⟨error, rfl⟩
      | ok result => exact absurd ((withBuiltin_eq_ok_iff.mp h).1 keyword hmem) hrole
  · intro result hresult
    obtain ⟨-, rfl⟩ := withBuiltin_eq_ok_iff.mp hresult
    have hkept := strewn_filter (builtin role) keywords
    refine ⟨_, rfl, by simp, hkept, ?_⟩
    calc
      _ = withBuiltin role (keywords.filter (· ≠ builtin role)) :=
        withBuiltin_of_strewn (strewn_concat _ _)
      _ = withBuiltin role keywords := (withBuiltin_of_strewn hkept).symm
      _ = _ := hresult
  · intro others more hkeywords hmore
    rw [withBuiltin_of_strewn hkeywords, withBuiltin_of_strewn hmore]

def store : Keyword := ⟨"store", .serialize, by decide⟩

/-- Keywords with repetitions, the built-in one among them. -/
def repeatedKeywords : List Keyword := [builtin .serialize, store, builtin .serialize, store]

/-- Keywords with one that has the text of the built-in one and the other role. -/
def crossedKeywords : List Keyword :=
  [store, { builtin .serialize with role := .deserialize }, builtin .serialize,
    builtin .deserialize]

theorem withBuiltin_normal_store :
    withBuiltin .serialize repeatedKeywords = .ok [store, store, builtin .serialize] ∧
      (∃ others, [store, store, builtin .serialize] = others ++ [builtin .serialize] ∧
        builtin .serialize ∉ others ∧ Strewn (builtin .serialize) others repeatedKeywords ∧
        withBuiltin .serialize [store, store, builtin .serialize] =
          .ok [store, store, builtin .serialize]) ∧
      withBuiltin .serialize crossedKeywords =
        .error (.wrongRole "to_json" .deserialize .serialize) := by
  have hresult : withBuiltin .serialize repeatedKeywords =
      .ok [store, store, builtin .serialize] := by rfl
  refine ⟨hresult, (withBuiltin_normal .serialize repeatedKeywords).2.2.1 _ hresult, ?_⟩
  apply ((withBuiltin_normal .serialize crossedKeywords).2.1 _).mpr
  exact ⟨[store], _, _, rfl, by decide, by decide, rfl⟩

end ProviderGen.Keyword
