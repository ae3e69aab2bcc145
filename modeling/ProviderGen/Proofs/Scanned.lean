import ProviderGen.Proofs.Telling
import ProviderGen.Scanning

namespace ProviderGen

namespace Collection

variable {discovery : Discovery}

theorem namesFrom_cons {ε : Type} (done : List String) (file : String × List UInt8)
    (files : List (String × List UInt8)) :
    (namesFrom discovery done (file :: files) : Logged ε (List String)) = do
      let here ← namesFrom discovery done [file]
      return here ++ (← namesFrom discovery (here ++ done) files) := by
  obtain ⟨name, content⟩ := file
  have hskip : (do
      let here ← (pure [] : Logged ε (List String))
      return here ++ (← namesFrom discovery (here ++ done) files)) =
        namesFrom discovery done files := by
    simp [Logged.andThen_pure]
  simp only [namesFrom]
  split
  · exact hskip.symm
  split
  · split
    · exact hskip.symm
    · simp [Logged.debug]
  · split
    · simp
    · exact hskip.symm

end Collection

namespace Workplace

variable [Interpreter] {workplace : Workplace}

theorem analyzeFrom_cons (known : List (Model × Path)) (path : Path) (paths : List Path) :
    workplace.analyzeFrom known (path :: paths) = (do
      let known ← workplace.analyzeFrom known [path]
      workplace.analyzeFrom known paths) := by
  simp only [analyzeFrom, Logged.bind_eq, Logged.andThen_assoc, Logged.pure_eq,
    Logged.andThen_ok, List.nil_append]

end Workplace

namespace Scanning

open Step

variable [Interpreter] {logger : String} {discovery : Discovery} {disk : Disk}

theorem logs_namesFrom (listing : Collection.Listing) (done : List String)
    (files : List (String × List UInt8)) :
    Logs logger .collection disk (namesFrom logger discovery listing done files)
      (Collection.namesFrom discovery done files) := by
  induction files generalizing done with
  | nil => exact logs_pure []
  | cons file files ih =>
      rw [Collection.namesFrom_cons]
      refine Logs.bind ?_ fun _ => (ih _).bind fun _ => logs_pure _
      intro session hlog hdisk
      simp [contentNow, hlog]

theorem logs_collectHere (listing : Collection.Listing) :
    Logs logger .collection disk (collectHere logger discovery listing)
      (Collection.collectHere ⟨disk, discovery⟩ listing) :=
  Logs.disk_bind <| (logs_ofExcept _).bind fun files =>
    (logs_namesFrom listing [] files).bind fun _ => logs_pure _

mutual

theorem logs_collectNode (place : List String) (shown : Path) :
    ∀ node, Logs logger .collection disk (collectNode logger discovery place shown node)
      (Collection.collectNode ⟨disk, discovery⟩ place shown node)
  | .directory entries =>
      (logs_collectHere _).bind fun _ =>
        (logs_collectEntries place shown entries).bind fun _ => logs_pure _
  | .file _ => logs_pure []
  | .link _ => logs_pure []

theorem logs_collectEntries (place : List String) (shown : Path) :
    ∀ entries, Logs logger .collection disk (collectEntries logger discovery place shown entries)
      (Collection.collectEntries ⟨disk, discovery⟩ place shown entries)
  | [] => logs_pure []
  | (name, node) :: rest => by
      have hothers : ∀ here : List Path, Logs logger .collection disk
          (collectEntries logger discovery place shown rest >>= fun others =>
            pure (here ++ others))
          (Collection.collectEntries ⟨disk, discovery⟩ place shown rest >>= fun others =>
            pure (here ++ others)) :=
        fun here => (logs_collectEntries place shown rest).bind fun _ => logs_pure _
      unfold collectEntries Collection.collectEntries
      split
      · exact (logs_pure []).bind hothers
      · exact (logs_collectNode (place ++ [name]) (shown.child name) node).bind hothers

end

theorem logs_collect (logger : String) (discovery : Discovery) (root : Path) :
    Logs logger .collection disk (collect logger discovery root)
      (ProviderGen.collect disk discovery root) := by
  refine Logs.disk_bind ?_
  unfold ProviderGen.collect
  cases disk.directoryAt? root with
  | none => exact fun _ _ _ => rfl
  | some found =>
      obtain ⟨place, entries⟩ := found
      exact (logs_collectNode place root (.directory entries)).bind fun files =>
        (logs_ofLogged (Logged.debug _)).bind fun _ => logs_pure files

section Analysing

variable {root : Path}

theorem logs_analyzeFrom (known : List (Model × Path)) (paths : List Path) :
    Logs logger .analysis disk (analyzeFrom logger discovery root known paths)
      (Workplace.analyzeFrom ⟨disk, discovery, root⟩ known paths) := by
  induction paths generalizing known with
  | nil => exact logs_pure known
  | cons path paths ih =>
      rw [Workplace.analyzeFrom_cons]
      exact Logs.disk_bind ((logs_ofLogged _).bind fun known => ih known)

theorem logs_analyze (logger : String) (discovery : Discovery) (root : Path) (paths : List Path) :
    Logs logger .analysis disk (analyze logger discovery root paths)
      (Workplace.analyze ⟨disk, discovery, root⟩ paths) :=
  (logs_analyzeFrom [] paths).bind fun _ => logs_pure _

end Analysing

theorem scans_namesFrom (listing : Collection.Listing) (done : List String)
    (files : List (String × List UInt8)) :
    Scans logger .collection (namesFrom logger discovery listing done files) := by
  induction files generalizing done with
  | nil => exact scans_pure []
  | cons file files ih =>
      exact (scans_ofLogged _).bind fun _ => (ih _).bind fun _ => scans_pure _

theorem scans_collectHere (listing : Collection.Listing) :
    Scans logger .collection (collectHere logger discovery listing) :=
  scans_disk.bind fun _ => (scans_mapError _).bind fun files =>
    (scans_namesFrom listing [] files).bind fun _ => scans_pure _

mutual

theorem scans_collectNode (place : List String) (shown : Path) :
    ∀ node, Scans logger .collection (collectNode logger discovery place shown node)
  | .directory entries =>
      (scans_collectHere _).bind fun _ =>
        (scans_collectEntries place shown entries).bind fun _ => scans_pure _
  | .file _ => scans_pure []
  | .link _ => scans_pure []

theorem scans_collectEntries (place : List String) (shown : Path) :
    ∀ entries, Scans logger .collection (collectEntries logger discovery place shown entries)
  | [] => scans_pure []
  | (name, node) :: rest => by
      have hothers : ∀ here : List Path, Scans logger .collection
          (collectEntries logger discovery place shown rest >>= fun others =>
            pure (here ++ others)) :=
        fun here => (scans_collectEntries place shown rest).bind fun _ => scans_pure _
      unfold collectEntries
      split
      · exact (scans_pure []).bind hothers
      · exact (scans_collectNode (place ++ [name]) (shown.child name) node).bind hothers

end

theorem scans_collect (root : Path) :
    Scans logger .collection (collect logger discovery root) := by
  refine scans_disk.bind fun disk => ?_
  cases disk.directoryAt? root with
  | none => exact scans_mapError (.error (CollectionError.noDirectory root))
  | some found =>
      obtain ⟨place, entries⟩ := found
      exact (scans_collectNode place root (.directory entries)).bind fun files =>
        (scans_say _ _).bind fun _ => scans_pure files

section Analysing

variable {root : Path}

theorem scans_analyze (paths : List Path) :
    Scans logger .analysis (analyze logger discovery root paths) := by
  have hfrom : ∀ known, Scans logger .analysis
      (analyzeFrom logger discovery root known paths) := by
    induction paths with
    | nil => exact scans_pure
    | cons path paths ih =>
        exact fun known => scans_disk.bind fun disk => (scans_ofLogged _).bind ih
  exact (hfrom []).bind fun _ => scans_pure _

end Analysing

end Scanning

end ProviderGen
