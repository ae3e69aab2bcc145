import ProviderGen.Proofs.Replacement
import ProviderGen.Proofs.Telling

namespace ProviderGen

namespace Disk

open Node

/-- Two disks differ at most at one place, where the first one has a file. -/
structure SameBut (place : List String) (disk other : Disk) : Prop where
  current_eq : other.current = disk.current
  elsewhere : ∀ names, names ≠ place → other.root.at? names = disk.root.at? names
  there : other.root.at? place = disk.root.at? place ∨
    ∃ content, disk.root.at? place = some (.file content)

variable {disk other before : Disk} {place : List String} {target : Path}
  {content : List UInt8}

namespace SameBut

theorem refl (place : List String) (disk : Disk) : SameBut place disk disk :=
  ⟨rfl, fun _ _ => rfl, .inl rfl⟩

theorem differsAtEnds (h : SameBut place disk other) : DiffersAtEnds disk.root other.root := by
  intro names hne
  by_cases hplace : names = place
  · subst hplace
    rcases h.there with hsame | ⟨content, hfile⟩
    · exact absurd hsame.symm hne
    · simp [hfile]
  · exact absurd (h.elsewhere names hplace).symm hne

end SameBut

end Disk

namespace Session

open Disk

variable [Interpreter] {before : Disk} {target : Path} {content : List UInt8} {session : Session}

end Session

end ProviderGen
