import ProviderGen.Interpreter.Common
import ProviderGen.Proofs.Plan
import ProviderGen.Proofs.Replacement

namespace ProviderGen.Generation

open Disk Node

section Runs

variable [Interpreter]

/-- A run that fails leaves the disk as it was, but for empty directories on the way to the file of
the provider. A run that succeeds leaves the text of the provider in that file, and all else as it
was, but for such directories. -/
def AllOrNothing (project : Project) (output : Option String) (session : Session) : Prop :=
  match generate project output session with
  | (.error _, after) =>
      match targetOf session.disk project output with
      | .error _ => after.disk = session.disk
      | .ok target => Grown target.parent session.disk after.disk
  | (.ok generated, after) =>
      targetOf session.disk project output = .ok generated.path ∧
        ∃ text, Provider.source ⟨generated.models⟩ generated.className project.name = .ok text ∧
          InPlace session.disk generated.path (Text.encode text) after.disk

/-- Generating the provider of a loaded project changes all that it should or nothing, whatever the
disk holds and wherever the provider goes. No log file is kept, which would change as well. -/
theorem generate_all_or_nothing {loadedOn : Disk} {path : Path} {project : Project}
    (loaded : Project.load loadedOn path = .ok project) (output : Option String)
    (session : Session) (hlog : session.log = none) : AllOrNothing project output session := by
  have hyields := (yields_generate project output session hlog).1
  unfold AllOrNothing
  cases hrun : generate project output session with
  | mk result after =>
      rw [hrun] at hyields
      simp only [planned] at hyields
      cases hplan : plan session.disk project output with
      | error failure =>
          simp only [hplan, Prod.mk.injEq] at hyields
          obtain ⟨rfl, hdisk⟩ := hyields
          dsimp only
          split
          · exact hdisk
          · exact hdisk ▸ Grown.refl _ _
      | ok made =>
          obtain ⟨files, hfiles, -, htext, -, htarget⟩ := plan_eq_ok_iff.mp hplan
          simp only [hplan, Plan.carryOut, Prod.mk.injEq] at hyields
          obtain ⟨hresult, hdisk⟩ := hyields
          cases hreplace : session.disk.replaceFile made.generated.path (Text.encode made.text) with
          | mk disk replaced =>
              rw [hreplace] at hresult hdisk
              dsimp only at hdisk
              cases replaced with
              | error error =>
                  obtain rfl : result = .error (.disk error) := hresult
                  dsimp only
                  rw [htarget, hdisk]
                  exact replaceFile_grown_of_error hreplace
              | ok _ =>
                  obtain rfl : result = .ok made.generated := hresult
                  obtain ⟨habsolute, -, houtput⟩ := Project.isAbsolute_of_load loaded
                  obtain ⟨directory, hchild, hdirectory⟩ := targetOf_eq_child htarget
                  refine ⟨htarget, made.text, htext, ?_⟩
                  rw [hdisk]
                  have hlast : made.generated.path.names.getLast? = some providerFile := by
                    rw [hchild]
                    exact List.getLast?_concat
                  refine replaceFile_inPlace ?_ hlast (by decide) hreplace
                  rw [hchild]
                  exact hdirectory habsolute houtput

end Runs

open Interpreter.Common

/-- A disk with one project, which has a source file and a provider from before. -/
def sampleDisk : Disk where
  root := .directory
    [("app", .directory
      [("model_provider.py", .file (Text.encode "# the provider from before\n")),
       ("user.py", .file (Text.encode "class User:\n    def to_json(self): pass\n"))])]
  current := ["app"]
  home := "/home"

/-- The project on that disk, which has no configuration file. -/
def sampleProject : Project where
  root := ⟨.root, ["app"]⟩
  name := "app"
  sourceDirectory := ⟨.root, ["app"]⟩
  outputDirectory := none
  discovery := .standard
  build := ⟨[], Project.standardTimeout⟩

theorem load_sampleDisk : Project.load sampleDisk ⟨.root, ["app"]⟩ = .ok sampleProject := rfl

theorem generate_all_or_nothing_sample :
    Project.load sampleDisk ⟨.root, ["app"]⟩ = .ok sampleProject ∧
      (Session.start sampleDisk).log = none ∧
      AllOrNothing sampleProject (some "out/new") (.start sampleDisk) :=
  ⟨load_sampleDisk, rfl,
    generate_all_or_nothing load_sampleDisk (some "out/new") (.start sampleDisk) rfl⟩

end ProviderGen.Generation
