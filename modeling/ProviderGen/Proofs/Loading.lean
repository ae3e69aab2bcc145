import ProviderGen.Project

namespace ProviderGen

section MapError

variable {ε ε' α : Type} (rename : ε → ε')

@[simp]
theorem mapError_ok (value : α) : (Except.ok value).mapError rename = .ok value := rfl

@[simp]
theorem mapError_error (error : ε) :
    (Except.error error : Except ε α).mapError rename = .error (rename error) :=
  rfl

variable {rename} {outcome : Except ε α}

theorem mapError_eq_ok_iff {value : α} : outcome.mapError rename = .ok value ↔ outcome = .ok value := by
  cases outcome <;> simp

theorem mapError_eq_error_iff {error : ε'} :
    outcome.mapError rename = .error error ↔ ∃ other, outcome = .error other ∧ rename other = error := by
  cases outcome <;> simp

end MapError

namespace Project

theorem isAbsolute_under {base path : Path} (h : base.isAbsolute) : (base.under path).isAbsolute := by
  unfold Path.under
  split
  · assumption
  · simpa [Path.isAbsolute] using h

theorem ofSettings_directories {root : Path} {settings : List (String × Value)} {project : Project}
    (h : ofSettings root settings = .ok project) :
    project.root = root ∧ (∃ source, project.sourceDirectory = root.under source) ∧
      ∀ directory ∈ project.outputDirectory, ∃ output, directory = root.under output := by
  simp only [ofSettings, bind, Except.bind] at h
  split at h
  · simp at h
  split at h
  · simp at h
  split at h
  · simp at h
  split at h
  · simp at h
  split at h
  · simp at h
  split at h
  · simp at h
  obtain rfl : _ = project := by simpa [pure, Except.pure] using h
  refine ⟨rfl, ⟨_, rfl⟩, ?_⟩
  simp only [Option.mem_def, Option.map_eq_some_iff, forall_exists_index, and_imp]
  rintro directory text - rfl
  exact ⟨_, rfl⟩

/-- A loaded project is that of the settings in its configuration file, at a path free of links. -/
theorem ofSettings_of_load [Interpreter] {disk : Disk} {path : Path} {project : Project}
    (h : load disk path = .ok project) :
    ∃ expanded root settings, disk.resolve expanded = .ok root ∧
      (if disk.isThere (root.child configurationFile) then
        readSettings disk (root.child configurationFile) else .ok []) = .ok settings ∧
      ofSettings root settings = .ok project := by
  simp only [load, bind, Except.bind] at h
  split at h
  · next expanded _ =>
      split at h
      · simp at h
      next root hroot =>
        have hresolve : disk.resolve expanded = .ok root := by
          cases hexpanded : disk.resolve expanded with
          | error loop => simp [hexpanded] at hroot
          | ok other => simpa [hexpanded] using hroot
        split at h
        · simp [throw, throwThe, MonadExceptOf.throw] at h
        simp only [pure, Except.pure] at h
        split at h
        next hthere =>
          split at h
          · simp at h
          next settings hsettings =>
            exact ⟨expanded, root, settings, hresolve, by rw [if_pos hthere, hsettings], h⟩
        next hmissing => exact ⟨expanded, root, _, hresolve, if_neg hmissing, h⟩
  · cases h

theorem isAbsolute_of_load [Interpreter] {disk : Disk} {path : Path} {project : Project}
    (h : load disk path = .ok project) :
    project.root.isAbsolute ∧ project.sourceDirectory.isAbsolute ∧
      ∀ directory ∈ project.outputDirectory, directory.isAbsolute := by
  obtain ⟨expanded, root, settings, hresolve, -, hsettings⟩ := ofSettings_of_load h
  have habsolute : root.isAbsolute := by
    obtain ⟨names, rfl⟩ := Disk.exists_names_of_resolve hresolve
    rfl
  obtain ⟨hroot, ⟨source, hsource⟩, houtput⟩ := ofSettings_directories hsettings
  refine ⟨hroot ▸ habsolute, hsource ▸ isAbsolute_under habsolute, ?_⟩
  intro directory hdirectory
  obtain ⟨output, rfl⟩ := houtput directory hdirectory
  exact isAbsolute_under habsolute

end Project

end ProviderGen
