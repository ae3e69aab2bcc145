import ProviderGen.Interpreter.Common
import ProviderGen.Proofs.Decoding
import ProviderGen.Proofs.Irrelevance

namespace ProviderGen

open Node

namespace Text

/-- Two contents of a file are the same, or the first is a text with line feeds alone, and the
second the same text with other ends of its lines. -/
inductive SameLines : List UInt8 → List UInt8 → Prop
  | kept (content : List UInt8) : SameLines content content
  | ended {text : String} (lineEnd : LineEnd) (h : '\r' ∉ text.toList) :
      SameLines (encode text) (encode (String.ofList (endLines lineEnd text.toList)))

variable {content content' : List UInt8}

theorem SameLines.decodeStrictly_eq (h : SameLines content content') :
    (decodeStrictly content).map unifyLines = (decodeStrictly content').map unifyLines := by
  cases h with
  | kept => rfl
  | ended lineEnd h =>
      rw [decodeStrictly_encode, decodeStrictly_encode, String.toList_ofList, Except.map,
        Except.map, unifyLines_eq_self h, unifyLines_endLines lineEnd h]

theorem SameLines.decodeLeniently_eq (h : SameLines content content') :
    unifyLines (decodeLeniently content) = unifyLines (decodeLeniently content') := by
  cases h with
  | kept => rfl
  | ended lineEnd h =>
      rw [decodeLeniently_encode, decodeLeniently_encode, String.toList_ofList,
        unifyLines_eq_self h, unifyLines_endLines lineEnd h]

end Text

namespace Node

mutual

/-- Two trees are the same but for the ends of lines. -/
inductive SameLines : Node → Node → Prop
  | file {content content' : List UInt8} (h : Text.SameLines content content') :
      SameLines (.file content) (.file content')
  | link (target : String) : SameLines (.link target) (.link target)
  | directory {entries entries' : List (String × Node)} (h : EntriesSameLines entries entries') :
      SameLines (.directory entries) (.directory entries')

/-- The same for the entries of directories. -/
inductive EntriesSameLines : List (String × Node) → List (String × Node) → Prop
  | nil : EntriesSameLines [] []
  | cons {name : String} {node node' : Node} {rest rest' : List (String × Node)}
      (hnode : SameLines node node') (hrest : EntriesSameLines rest rest') :
      EntriesSameLines ((name, node) :: rest) ((name, node') :: rest')

end

variable {root other : Node} {entries entries' : List (String × Node)}

theorem EntriesSameLines.forall₂ : ∀ {entries entries' : List (String × Node)},
    EntriesSameLines entries entries' →
      List.Forall₂ (fun entry entry' => entry.1 = entry'.1 ∧ entry.2.SameLines entry'.2)
        entries entries'
  | [], _, h => by
      cases h with
      | nil => exact .nil
  | _ :: _, _, h => by
      cases h with
      | cons hnode hrest => exact .cons ⟨rfl, hnode⟩ hrest.forall₂

theorem EntriesSameLines.child? (h : EntriesSameLines entries entries') (name : String) :
    Option.Rel SameLines (child? name entries) (child? name entries') := by
  have hentries := h.forall₂
  clear h
  induction hentries with
  | nil => exact .none
  | @cons entry entry' _ _ hentry _ ih =>
      obtain ⟨key, node⟩ := entry
      obtain ⟨key', node'⟩ := entry'
      obtain ⟨rfl, hnode⟩ := hentry
      unfold Node.child?
      split_ifs with hkey
      · exact .some hnode
      · exact ih

theorem SameLines.find? (h : root.SameLines other) (names : List String) :
    Option.Rel SameLines (root.find? names) (other.find? names) := by
  induction names generalizing root other with
  | nil => simpa using Option.Rel.some h
  | cons name names ih =>
      rw [find?_cons, find?_cons]
      cases h with
      | file _ => exact .none
      | link _ => exact .none
      | @directory entries entries' h =>
          have hchild := h.child? name
          dsimp only
          generalize Node.child? name entries = found,
            Node.child? name entries' = found' at hchild ⊢
          cases hchild with
          | none => exact .none
          | some hnode => exact ih hnode

end Node

/-- Two outcomes match: both fail with the same error, or both give values that are related. -/
inductive Match {ε α β : Type} (rel : α → β → Prop) : Except ε α → Except ε β → Prop
  | ok {value : α} {other : β} (h : rel value other) : Match rel (.ok value) (.ok other)
  | error (error : ε) : Match rel (.error error) (.error error)

namespace Match

variable {ε α β α' β' : Type} {rel : α → β → Prop} {rel' : α' → β' → Prop}

theorem bind {first : Except ε α} {second : Except ε β} {next : α → Except ε α'}
    {next' : β → Except ε β'} (h : Match rel first second)
    (hnext : ∀ value other, rel value other → Match rel' (next value) (next' other)) :
    Match rel' (first >>= next) (second >>= next') := by
  cases h with
  | ok h => exact hnext _ _ h
  | error error => exact .error error

theorem mapM {items : List α'} {others : List β'} {f : α' → Except ε α} {g : β' → Except ε β}
    (h : List.Forall₂ (fun item other => Match rel (f item) (g other)) items others) :
    Match (List.Forall₂ rel) (items.mapM f) (others.mapM g) := by
  induction h with
  | nil => exact .ok .nil
  | cons hfirst _ ih =>
      rw [List.mapM_cons, List.mapM_cons]
      refine hfirst.bind fun value other hvalue => ih.bind fun values others hvalues => ?_
      exact .ok (.cons hvalue hvalues)

end Match

namespace Disk

/-- Two disks are the same but for the ends of lines, and for the home directory. -/
structure SameLines (disk other : Disk) : Prop where
  root : disk.root.SameLines other.root
  current : disk.current = other.current

/-- Two places have the same names, and the same stands there but for the ends of lines. -/
inductive Place.SameLines : Place → Place → Prop
  | absent (names : List String) : SameLines ⟨names, none⟩ ⟨names, none⟩
  | there (names : List String) {node node' : Node} (h : node.SameLines node') :
      SameLines ⟨names, some node⟩ ⟨names, some node'⟩

variable {disk other : Disk}

theorem walk_match {root other : Node} (h : root.SameLines other) (follow : Bool)
    (bound links : Nat) (here names : List String) :
    Match Place.SameLines (walk root follow bound links here names)
      (walk other follow bound links here names) := by
  induction bound generalizing links here names with
  | zero => exact .error _
  | succ bound ih =>
      cases names with
      | nil =>
          rw [walk, walk]
          have hnode := h.find? here
          generalize root.find? here = found, other.find? here = found' at hnode ⊢
          cases hnode with
          | none => exact .ok (.absent here)
          | some hnode => exact .ok (.there here hnode)
      | cons name rest =>
          by_cases hup : name = ".."
          · rw [walk, walk, if_pos hup, if_pos hup]
            exact ih links here.dropLast rest
          rw [walk, walk, if_neg hup, if_neg hup]
          dsimp only
          have hnode := h.find? (here ++ [name])
          generalize root.find? (here ++ [name]) = found,
            other.find? (here ++ [name]) = found' at hnode ⊢
          cases hnode with
          | none =>
              cases rest with
              | nil => exact .ok (.absent _)
              | cons _ _ => exact .error _
          | some hnode =>
              cases hnode with
              | directory _ => exact ih links (here ++ [name]) rest
              | file hcontent =>
                  cases rest with
                  | nil => exact .ok (.there _ (.file hcontent))
                  | cons _ _ => exact .error _
              | link target =>
                  dsimp only
                  by_cases hfinal : (rest.isEmpty && !follow) = true
                  · rw [if_pos hfinal, if_pos hfinal]
                    exact .ok (.there _ (.link target))
                  · rw [if_neg hfinal, if_neg hfinal]
                    cases links with
                    | zero => exact .error _
                    | succ links => exact ih links _ _

theorem SameLines.base_eq (h : disk.SameLines other) (path : Path) :
    disk.base path = other.base path := by
  rw [base, base, h.current]

theorem SameLines.locate (h : disk.SameLines other) (path : Path) :
    Match Place.SameLines (disk.locate path) (other.locate path) := by
  unfold Disk.locate search
  rw [h.base_eq]
  split
  · exact .error _
  · exact walk_match h.root true _ _ _ _

theorem SameLines.readBytes (h : disk.SameLines other) (path : Path) :
    Match Text.SameLines (disk.readBytes path) (other.readBytes path) := by
  unfold Disk.readBytes
  have hplace := h.locate path
  generalize disk.locate path = outcome, other.locate path = outcome' at hplace ⊢
  cases hplace with
  | error fault => exact .error _
  | ok hplace =>
      cases hplace with
      | absent names => exact .error _
      | there names hnode =>
          cases hnode with
          | file hcontent => exact .ok hcontent
          | link target => exact .error _
          | directory _ => exact .error _

theorem SameLines.directoryAt? (h : disk.SameLines other) (path : Path) :
    Option.Rel (fun found found' => found.1 = found'.1 ∧ EntriesSameLines found.2 found'.2)
      (disk.directoryAt? path) (other.directoryAt? path) := by
  unfold Disk.directoryAt?
  have hplace := h.locate path
  generalize disk.locate path = outcome, other.locate path = outcome' at hplace ⊢
  cases hplace with
  | error fault => exact .none
  | ok hplace =>
      cases hplace with
      | absent names => exact .none
      | there names hnode =>
          cases hnode with
          | file _ => exact .none
          | link target => exact .none
          | directory hentries => exact .some ⟨rfl, hentries⟩

theorem resolveFrom_eq_of_sameLines {root other : Node} (h : root.SameLines other) (bound : Nat)
    (active : List (List String)) (here : List String) (stops : List Stop) :
    resolveFrom root bound active here stops = resolveFrom other bound active here stops := by
  induction bound generalizing active here stops with
  | zero => rfl
  | succ bound ih =>
      cases stops with
      | nil => rfl
      | cons stop rest =>
          cases stop with
          | endOf link => simp only [resolveFrom, ih]
          | name name =>
              have hnode := h.find? (here ++ [name])
              simp only [resolveFrom]
              generalize root.find? (here ++ [name]) = found,
                other.find? (here ++ [name]) = found' at hnode ⊢
              cases hnode with
              | none => simp only [ih]
              | some hnode => cases hnode <;> simp only [ih]

theorem SameLines.resolve (h : disk.SameLines other) (path : Path) :
    disk.resolve path = other.resolve path := by
  unfold Disk.resolve
  rw [h.base_eq, resolveFrom_eq_of_sameLines h.root]
  split
  · rfl
  · generalize resolveFrom other.root _ _ _ _ = found
    obtain ⟨names, loops⟩ := found
    -- A link that leads back to itself matters only if it is on the way to what comes out.
    have hplace := h.locate ⟨.root, Path.collapsed names⟩
    dsimp only
    generalize disk.locate ⟨.root, Path.collapsed names⟩ = outcome,
      other.locate ⟨.root, Path.collapsed names⟩ = outcome' at hplace ⊢
    cases hplace with
    | error fault => rfl
    | ok _ => rfl

end Disk

namespace Collection

variable {disk other : Disk} {discovery : Discovery} {entries entries' : List (String × Node)}

theorem contentOf_match (h : disk.SameLines other) (place : List String) (shown : Path)
    {name : String} {node node' : Node} (hnode : node.SameLines node') :
    Match (Option.Rel Text.SameLines)
      (contentOf ⟨disk, discovery⟩ ⟨place, shown, entries⟩ (name, node))
      (contentOf ⟨other, discovery⟩ ⟨place, shown, entries'⟩ (name, node')) := by
  unfold contentOf
  cases hnode with
  | file hcontent => exact .ok (.some hcontent)
  | directory _ => exact .ok .none
  | link target =>
      have hplace := h.locate ⟨.root, place ++ [name]⟩
      dsimp only
      generalize disk.locate ⟨.root, place ++ [name]⟩ = outcome,
        other.locate ⟨.root, place ++ [name]⟩ = outcome' at hplace ⊢
      cases hplace with
      | error fault => cases fault <;> first | exact .ok .none | exact .error _
      | ok hplace =>
          cases hplace with
          | absent names => exact .ok .none
          | there names hnode =>
              cases hnode with
              | file hcontent => exact .ok (.some hcontent)
              | link target => exact .ok .none
              | directory _ => exact .ok .none

theorem forall₂_files {contents contents' : List (Option (List UInt8))}
    (hentries : List.Forall₂ (fun entry entry' => entry.1 = entry'.1 ∧ entry.2.SameLines entry'.2)
      entries entries')
    (hcontents : List.Forall₂ (Option.Rel Text.SameLines) contents contents') :
    List.Forall₂ (fun file file' => file.1 = file'.1 ∧ Text.SameLines file.2 file'.2)
      ((entries.zip contents).filterMap fun (entry, content) =>
        content.map fun content => (entry.1, content))
      ((entries'.zip contents').filterMap fun (entry, content) =>
        content.map fun content => (entry.1, content)) := by
  induction hentries generalizing contents contents' with
  | nil => exact .nil
  | cons hentry _ ih =>
      cases hcontents with
      | nil => exact .nil
      | cons hcontent hcontents =>
          cases hcontent with
          | none => exact ih hcontents
          | some hcontent => exact .cons ⟨hentry.1, hcontent⟩ (ih hcontents)

theorem filesOf_match (discovery : Discovery) (h : disk.SameLines other)
    (hentries : EntriesSameLines entries entries') (place : List String) (shown : Path) :
    Match (List.Forall₂ fun file file' => file.1 = file'.1 ∧ Text.SameLines file.2 file'.2)
      (filesOf ⟨disk, discovery⟩ ⟨place, shown, entries⟩)
      (filesOf ⟨other, discovery⟩ ⟨place, shown, entries'⟩) := by
  have hcontents : Match (List.Forall₂ (Option.Rel Text.SameLines))
      (entries.mapM (contentOf ⟨disk, discovery⟩ ⟨place, shown, entries⟩))
      (entries'.mapM (contentOf ⟨other, discovery⟩ ⟨place, shown, entries'⟩)) := by
    apply Match.mapM
    refine hentries.forall₂.imp ?_
    rintro ⟨name, node⟩ ⟨name', node'⟩ ⟨rfl, hnode⟩
    exact contentOf_match h place shown hnode
  refine hcontents.bind ?_
  intro contents contents' hcontents
  exact .ok (forall₂_files hentries.forall₂ hcontents)

theorem isCandidate_of_sameLines {content content' : List UInt8}
    (h : Text.SameLines content content') (name : String) :
    isCandidate discovery name content = isCandidate discovery name content' := by
  rw [isCandidate, isCandidate, h.decodeLeniently_eq]

theorem collectHere_of_sameLines (h : disk.SameLines other)
    (hentries : EntriesSameLines entries entries') (place : List String) (shown : Path) :
    collectHere ⟨disk, discovery⟩ ⟨place, shown, entries⟩ =
      collectHere ⟨other, discovery⟩ ⟨place, shown, entries'⟩ := by
  have hfiles := filesOf_match discovery h hentries place shown
  unfold collectHere
  generalize filesOf ⟨disk, discovery⟩ ⟨place, shown, entries⟩ = outcome,
    filesOf ⟨other, discovery⟩ ⟨place, shown, entries'⟩ = outcome' at hfiles ⊢
  cases hfiles with
  | error error => rfl
  | @ok files files' hfiles =>
      have hnames : namesFrom (ε := CollectionError) discovery [] files =
          namesFrom discovery [] files' := by
        apply namesFrom_congr
        refine hfiles.imp ?_
        rintro file file' ⟨hname, hcontent⟩
        exact ⟨hname, fun _ => isCandidate_of_sameLines hcontent _⟩
      simp only [Logged.ofExcept, Logged.bind_eq, Logged.andThen_ok, hnames]

mutual

theorem collectNode_of_sameLines (h : disk.SameLines other) (place : List String) (shown : Path) :
    ∀ node node' : Node, node.SameLines node' →
      collectNode ⟨disk, discovery⟩ place shown node =
        collectNode ⟨other, discovery⟩ place shown node'
  | .directory entries, _, hnode => by
      cases hnode with
      | directory hentries =>
          rw [collectNode, collectNode, collectHere_of_sameLines h hentries,
            collectEntries_of_sameLines h place shown entries _ hentries]
  | .file _, _, hnode => by
      cases hnode with
      | file _ => rw [collectNode_of_not_directory rfl, collectNode_of_not_directory rfl]
  | .link _, _, hnode => by
      cases hnode with
      | link target => rw [collectNode_of_not_directory rfl, collectNode_of_not_directory rfl]

theorem collectEntries_of_sameLines (h : disk.SameLines other) (place : List String)
    (shown : Path) :
    ∀ entries entries' : List (String × Node), EntriesSameLines entries entries' →
      collectEntries ⟨disk, discovery⟩ place shown entries =
        collectEntries ⟨other, discovery⟩ place shown entries'
  | [], _, hentries => by
      cases hentries with
      | nil => simp only [collectEntries]
  | (name, node) :: rest, _, hentries => by
      cases hentries with
      | cons hnode hrest =>
          rw [collectEntries_cons, collectEntries_cons, collectEntry, collectEntry,
            collectNode_of_sameLines h _ _ node _ hnode,
            collectEntries_of_sameLines h place shown rest _ hrest]

end

theorem collect_of_sameLines (h : disk.SameLines other) (discovery : Discovery) (source : Path) :
    collect disk discovery source = collect other discovery source := by
  unfold collect
  have hdirectory := h.directoryAt? source
  generalize disk.directoryAt? source = found, other.directoryAt? source = found' at hdirectory ⊢
  cases hdirectory with
  | none => rfl
  | @some found found' hfound =>
      obtain ⟨place, entries⟩ := found
      obtain ⟨place', entries'⟩ := found'
      obtain ⟨rfl, hentries⟩ := hfound
      dsimp only
      rw [collectNode_of_sameLines h place source _ _ (.directory hentries)]

end Collection

namespace Workplace

variable {disk other : Disk} {discovery : Discovery} {source : Path}

theorem importPath_of_sameLines (h : disk.SameLines other) (path : Path) :
    importPath ⟨disk, discovery, source⟩ path = importPath ⟨other, discovery, source⟩ path := by
  simp only [importPath, Workplace.resolve, h.resolve]

theorem readText_of_sameLines (h : disk.SameLines other) (path : Path) :
    readText ⟨disk, discovery, source⟩ path = readText ⟨other, discovery, source⟩ path := by
  have hbytes := h.readBytes path
  unfold readText
  generalize disk.readBytes path = outcome, other.readBytes path = outcome' at hbytes ⊢
  cases hbytes with
  | error error => rfl
  | @ok content content' hcontent =>
      have htext := hcontent.decodeStrictly_eq
      dsimp only
      generalize Text.decodeStrictly content = text, Text.decodeStrictly content' = text' at htext ⊢
      cases text <;> cases text' <;> simp_all [Except.map]

/-- A search for models comes to the same on two disks, and makes the same remarks, if they are the
same but for the ends of lines. -/
theorem search_eq_of_sameLines [Interpreter] (h : disk.SameLines other) (discovery : Discovery)
    (source : Path) :
    collect disk discovery source = collect other discovery source ∧
      ∀ files, analyze ⟨disk, discovery, source⟩ files =
        analyze ⟨other, discovery, source⟩ files := by
  refine ⟨Collection.collect_of_sameLines h discovery source, fun files => ?_⟩
  rw [analyze, analyze, analyzeFrom_congr (importPath_of_sameLines h)
    fun path _ => readText_of_sameLines h path]

open Interpreter.Common

def catText : String := "class Cat:\n def to_json(s): 0\n"

/-- A text with a flaw in its second line. -/
def dogText : String := "class Dog:\n def to_json(s): '\n"

/-- A disk with a directory of two source files. -/
def petDisk (cat dog : List UInt8) : Disk where
  root := .directory [("app", .directory [("cat.py", .file cat), ("dog.py", .file dog)])]
  current := []
  home := "/"

/-- Such a disk with line feeds alone. -/
def feedDisk : Disk := petDisk (Text.encode catText) (Text.encode dogText)

/-- Such a disk with other ends of lines, in each file of another kind. -/
def mixedDisk : Disk :=
  petDisk (Text.encode (String.ofList (Text.endLines .crLf catText.toList)))
    (Text.encode (String.ofList (Text.endLines .cr dogText.toList)))

theorem sameLines_petDisk {cat cat' dog dog' : List UInt8} (hcat : Text.SameLines cat cat')
    (hdog : Text.SameLines dog dog') : (petDisk cat dog).SameLines (petDisk cat' dog') where
  root := .directory (.cons (.directory (.cons (.file hcat) (.cons (.file hdog) .nil))) .nil)
  current := rfl

theorem search_eq_of_sameLines_mixedDisk :
    feedDisk.SameLines mixedDisk ∧
      (collect mixedDisk .standard ⟨.root, ["app"]⟩).result =
        .ok [⟨.root, ["app", "cat.py"]⟩, ⟨.root, ["app", "dog.py"]⟩] ∧
      (analyze ⟨mixedDisk, .standard, ⟨.root, ["app"]⟩⟩ [⟨.root, ["app", "cat.py"]⟩]).result =
        .ok [⟨"Cat", "cat.py", .ofMethod (some "to_json"), .ofMethod none⟩] ∧
      (analyze ⟨mixedDisk, .standard, ⟨.root, ["app"]⟩⟩
          [⟨.root, ["app", "cat.py"]⟩, ⟨.root, ["app", "dog.py"]⟩]).result =
        .error (.flawed ⟨.root, ["app", "dog.py"]⟩ (.invalidSyntax 2 "")) := by
  have hsame : feedDisk.SameLines mixedDisk :=
    sameLines_petDisk (.ended .crLf (by decide)) (.ended .cr (by decide))
  obtain ⟨hcollect, hanalyze⟩ := search_eq_of_sameLines hsame .standard ⟨.root, ["app"]⟩
  rw [← hcollect, ← hanalyze, ← hanalyze]
  refine ⟨hsame, ?_, ?_, ?_⟩ <;> decide +kernel

end Workplace

end ProviderGen
