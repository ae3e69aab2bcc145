import Mathlib.Data.List.Nodup
import ProviderGen.Dispatch

namespace ProviderGen

section Entries

variable {ι φ : Type} [BEq ι] [LawfulBEq ι] {entries : List (ι × φ)} {key : ι} {value : φ}

theorem lookup_eq_none_iff_forall_not_mem :
    entries.lookup key = none ↔ ∀ value, (key, value) ∉ entries := by
  rw [List.lookup_eq_none_iff]
  constructor
  · intro h value hmem
    simpa using h (key, value) hmem
  · rintro h ⟨other, value⟩ hmem
    apply bne_iff_ne.mpr
    rintro rfl
    exact h value hmem

theorem lookup_eq_some_of_mem (hkeys : (entries.map Prod.fst).Nodup)
    (hmem : (key, value) ∈ entries) : entries.lookup key = some value := by
  induction entries with
  | nil => cases hmem
  | cons first rest ih =>
      rw [List.map_cons, List.nodup_cons] at hkeys
      rcases List.mem_cons.mp hmem with rfl | hmem
      · simp
      · have hne : key ≠ first.1 := by
          rintro rfl
          exact hkeys.1 (List.mem_map.mpr ⟨_, hmem, rfl⟩)
        rw [List.lookup_cons, beq_false_of_ne hne]
        exact ih hkeys.2 hmem

end Entries

namespace Dispatch

variable {κ α δ ρ : Type}

/-- What maps from tags to classes and from classes to functions promise: a key stands once, and
readers stand under classes only. -/
structure Proper (dispatch : Dispatch κ α δ ρ) : Prop where
  tags : (dispatch.tags.map Prod.fst).Nodup
  writers : (dispatch.writers.map Prod.fst).Nodup
  readers : (dispatch.readers.map Prod.fst).Nodup
  not_text : ∀ text reader, (.text text, reader) ∉ dispatch.readers

/-- A provider with one more writer, or with another one for a class. -/
def withWriter (dispatch : Dispatch κ α δ ρ) (kind : κ) (writer : α → ρ) : Dispatch κ α δ ρ :=
  { dispatch with writers := (.kind kind, writer) :: dispatch.writers }

variable {dispatch : Dispatch κ α δ ρ} {tag text : String} {kind base : κ} {key target : Key κ}
  {reader : δ → ρ} {writer : α → ρ}

theorem resolve_kind (dispatch : Dispatch κ α δ ρ) (kind : κ) :
    dispatch.resolve (.kind kind) = .kind kind := rfl

theorem Proper.resolve_tag (hproper : dispatch.Proper) (htag : (tag, kind) ∈ dispatch.tags) :
    dispatch.resolve (.text tag) = .kind kind := by
  rw [resolve, lookup_eq_some_of_mem hproper.tags htag]
  rfl

theorem resolve_text (htext : ∀ kind, (text, kind) ∉ dispatch.tags) :
    dispatch.resolve (.text text) = .text text := by
  rw [resolve, lookup_eq_none_iff_forall_not_mem.mpr htext]
  rfl

variable [DecidableEq κ]

theorem Proper.read_eq_ok (hproper : dispatch.Proper) (hkey : dispatch.resolve key = target)
    (hreader : (target, reader) ∈ dispatch.readers) (data : δ) :
    dispatch.read (.key key) data = .ok (reader data) := by
  simp only [read, hkey, lookup_eq_some_of_mem hproper.readers hreader]

theorem read_eq_error (hkey : dispatch.resolve key = target)
    (hnone : ∀ reader, (target, reader) ∉ dispatch.readers) (data : δ) :
    dispatch.read (.key key) data = .error (.unsupported (.key key)) := by
  simp only [read, hkey, lookup_eq_none_iff_forall_not_mem.mpr hnone]

theorem Proper.write_eq_ok (hproper : dispatch.Proper)
    (hwriter : (.kind kind, writer) ∈ dispatch.writers) (model : α) :
    dispatch.write kind model = .ok (writer model) := by
  simp only [write, lookup_eq_some_of_mem hproper.writers hwriter]

theorem write_eq_error_iff {error : DispatchError κ} {model : α} :
    dispatch.write kind model = .error error ↔
      (∀ writer, (.kind kind, writer) ∉ dispatch.writers) ∧
        error = .unsupported (.key (.kind kind)) := by
  rw [← lookup_eq_none_iff_forall_not_mem, write]
  cases dispatch.writers.lookup (.kind kind) with
  | none => simp [eq_comm]
  | some writer => simp

theorem write_withWriter_of_ne (hne : base ≠ kind) (writer : α → ρ) (model : α) :
    (dispatch.withWriter base writer).write kind model = dispatch.write kind model := by
  have hkey : ((.kind kind : Key κ) == .kind base) = false := by
    simpa using hne.symm
  simp only [write, withWriter, List.lookup_cons, hkey]

theorem Proper.read_tag_cases (hproper : dispatch.Proper) (htag : (tag, kind) ∈ dispatch.tags)
    (data : δ) :
    (∃ reader, (.kind kind, reader) ∈ dispatch.readers ∧
        dispatch.read (.key (.text tag)) data = .ok (reader data) ∧
        dispatch.read (.key (.kind kind)) data = .ok (reader data)) ∨
      (∀ reader, (.kind kind, reader) ∉ dispatch.readers) ∧
        dispatch.read (.key (.text tag)) data = .error (.unsupported (.key (.text tag))) ∧
        dispatch.read (.key (.kind kind)) data = .error (.unsupported (.key (.kind kind))) := by
  have htarget := hproper.resolve_tag htag
  have hkind := dispatch.resolve_kind kind
  by_cases hreader : ∃ reader, (.kind kind, reader) ∈ dispatch.readers
  · obtain ⟨reader, hmem⟩ := hreader
    exact .inl ⟨reader, hmem, hproper.read_eq_ok htarget hmem data,
      hproper.read_eq_ok hkind hmem data⟩
  · have hnone := not_exists.mp hreader
    exact .inr ⟨hnone, read_eq_error htarget hnone data, read_eq_error hkind hnone data⟩

/-- Whatever functions there are: a tag and its class come to the same reader, or to errors that
name the one and the other; a text that is no tag comes to an error that names it; and a model
comes to the writer under its very class, or to an error that names this class if there is none,
even if there is one under a class that it comes from. -/
theorem coherent (dispatch : Dispatch κ α δ ρ) (hproper : dispatch.Proper) (kindOf : α → κ) :
    (∀ tag kind, (tag, kind) ∈ dispatch.tags → ∀ data,
      (∃ reader, (.kind kind, reader) ∈ dispatch.readers ∧
          dispatch.read (.key (.text tag)) data = .ok (reader data) ∧
          dispatch.read (.key (.kind kind)) data = .ok (reader data)) ∨
        (∀ reader, (.kind kind, reader) ∉ dispatch.readers) ∧
          dispatch.read (.key (.text tag)) data = .error (.unsupported (.key (.text tag))) ∧
          dispatch.read (.key (.kind kind)) data = .error (.unsupported (.key (.kind kind)))) ∧
      (∀ text, (∀ kind, (text, kind) ∉ dispatch.tags) → ∀ data,
        dispatch.read (.key (.text text)) data = .error (.unsupported (.key (.text text)))) ∧
      ∀ model,
        (∀ writer, (.kind (kindOf model), writer) ∈ dispatch.writers →
          dispatch.write (kindOf model) model = .ok (writer model)) ∧
        (∀ error, dispatch.write (kindOf model) model = .error error ↔
          (∀ writer, (.kind (kindOf model), writer) ∉ dispatch.writers) ∧
            error = .unsupported (.key (.kind (kindOf model)))) ∧
        ∀ base writer, base ≠ kindOf model →
          (dispatch.withWriter base writer).write (kindOf model) model =
            dispatch.write (kindOf model) model := by
  refine ⟨?_, ?_, ?_⟩
  · intro tag kind htag data
    exact hproper.read_tag_cases htag data
  · intro text htext data
    exact read_eq_error (resolve_text htext) (hproper.not_text text) data
  · intro model
    refine ⟨?_, ?_, ?_⟩
    · intro writer hwriter
      exact hproper.write_eq_ok hwriter model
    · intro error
      exact write_eq_error_iff
    · intro base writer hne
      exact write_withWriter_of_ne hne writer model

/-- A provider for animals, each a class and a name: cats are only written, a tag stands for dogs
though nothing reads them, and dogs are animals for which there are both functions. -/
def zoo : Dispatch String (String × String) String String where
  tags := [("zoo.Animal", "Animal"), ("zoo.Dog", "Dog")]
  writers := [(.kind "Animal", fun model => "animal " ++ model.2),
    (.kind "Cat", fun model => "cat " ++ model.2)]
  readers := [(.kind "Animal", fun data => "some " ++ data)]

theorem proper_zoo : zoo.Proper where
  tags := by decide
  writers := by simp [zoo]
  readers := by simp [zoo]
  not_text := by simp [zoo]

theorem coherent_zoo :
    zoo.Proper ∧
      zoo.read (.key (.text "zoo.Animal")) "bear" = .ok "some bear" ∧
      zoo.read (.key (.kind "Animal")) "bear" = .ok "some bear" ∧
      zoo.read (.key (.text "zoo.Dog")) "Rex" = .error (.unsupported (.key (.text "zoo.Dog"))) ∧
      zoo.read (.key (.kind "Dog")) "Rex" = .error (.unsupported (.key (.kind "Dog"))) ∧
      zoo.read (.key (.text "Animal")) "bear" = .error (.unsupported (.key (.text "Animal"))) ∧
      zoo.write "Cat" ("Cat", "Tom") = .ok "cat Tom" ∧
      zoo.write "Dog" ("Dog", "Rex") = .error (.unsupported (.key (.kind "Dog"))) := by
  obtain ⟨htags, htexts, hmodels⟩ := coherent zoo proper_zoo Prod.fst
  have hanimal : zoo.read (.key (.text "zoo.Animal")) "bear" = .ok "some bear" ∧
      zoo.read (.key (.kind "Animal")) "bear" = .ok "some bear" := by
    simpa [zoo] using htags "zoo.Animal" "Animal" (by decide) "bear"
  have hdog : zoo.read (.key (.text "zoo.Dog")) "Rex" =
        .error (.unsupported (.key (.text "zoo.Dog"))) ∧
      zoo.read (.key (.kind "Dog")) "Rex" = .error (.unsupported (.key (.kind "Dog"))) := by
    simpa [zoo] using htags "zoo.Dog" "Dog" (by decide) "Rex"
  have hnone := htexts "Animal" (by simp [zoo]) "bear"
  have hcat := (hmodels ("Cat", "Tom")).1 (fun model => "cat " ++ model.2) (by simp [zoo])
  have hunwritten := ((hmodels ("Dog", "Rex")).2.1 _).mpr ⟨by simp [zoo], rfl⟩
  exact ⟨proper_zoo, hanimal.1, hanimal.2, hdog.1, hdog.2, hnone, hcat, hunwritten⟩

end Dispatch

end ProviderGen
