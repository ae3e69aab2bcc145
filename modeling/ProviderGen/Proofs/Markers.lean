import ProviderGen.Proofs.Keywords
import ProviderGen.Proofs.Stripping

/-!
Markers of configured extensions: what an extension comes to, and which extensions turn files into
companions. A file name is cut at its dots before its segments are looked up, so an extension with
dots inside does so only if each of its own segments is a marker.
-/

namespace ProviderGen

def sourceFile (stem : String) : String := stem ++ ".py"

theorem pieces_dot (left right : String) :
    Text.pieces '.' (left ++ "." ++ right) = Text.pieces '.' left ++ Text.pieces '.' right :=
  Text.pieces_append '.' left right

theorem pieces_sourceFile (stem : String) :
    Text.pieces '.' (sourceFile stem) = Text.pieces '.' stem ++ ["py"] := by
  have hsuffix : ".py" = "." ++ "py" := rfl
  have hpy : Text.pieces '.' "py" = ["py"] := Text.pieces_of_not_mem (by decide)
  rw [sourceFile, hsuffix, ← String.append_assoc, pieces_dot, hpy]

theorem logicalName?_sourceFile_iff {stem : String} (hstem : '.' ∉ stem.toList)
    (markers : List String) (inner : String) :
    logicalName? markers (sourceFile (stem ++ "." ++ inner)) = some (sourceFile stem) ↔
      ∀ segment ∈ Text.pieces '.' inner, "." ++ segment ∈ markers := by
  have hplain : Text.pieces '.' (sourceFile stem) = [stem, "py"] := by
    rw [pieces_sourceFile, Text.pieces_of_not_mem hstem, List.singleton_append]
  have hpieces : Text.pieces '.' (sourceFile (stem ++ "." ++ inner)) =
      stem :: (Text.pieces '.' inner ++ ["py"]) := by
    rw [pieces_sourceFile, pieces_dot, Text.pieces_of_not_mem hstem, List.append_assoc,
      List.singleton_append]
  have hinner : innerSegments (sourceFile (stem ++ "." ++ inner)) = Text.pieces '.' inner := by
    rw [innerSegments, hpieces, List.tail_cons, List.dropLast_concat]
  constructor
  · intro hlogical segment hsegment
    by_contra hmarker
    -- A segment that is no marker would still be there.
    have hleft := (mem_innerSegments_of_logicalName? hlogical).mpr ⟨hinner ▸ hsegment, hmarker⟩
    rw [innerSegments, hplain] at hleft
    cases hleft
  · intro hmarkers
    obtain ⟨first, hfirst⟩ := List.exists_mem_of_ne_nil _ (Text.pieces_ne_nil '.' inner)
    obtain ⟨target, htarget⟩ := exists_logicalName?_iff.mpr
      ⟨first, hinner.symm ▸ hfirst, hmarkers first hfirst⟩
    have hnone : ((Text.pieces '.' inner).filter fun segment =>
        !markers.contains ("." ++ segment)) = [] := by
      simpa using hmarkers
    have htarget_eq : target = sourceFile stem := by
      apply eq_of_pieces_eq
      rw [pieces_of_logicalName? htarget, hpieces, hplain, strippedSegments,
        List.getLast?_concat, List.dropLast_concat, hnone]
      rfl
    rw [htarget, htarget_eq]

namespace Discovery

variable {discovery : Discovery} {extensions : List String} {texts : Role → List String}
  {extension marker stem : String}

/-- A configured extension without the blanks at its ends and the dots in front. -/
def bareExtension (extension : String) : String :=
  String.ofList ((Text.trim extension.toList).dropWhile (· == '.'))

theorem head?_bareExtension (extension : String) :
    (bareExtension extension).toList.head? ≠ some '.' := by
  intro hhead
  have hdot := List.head?_dropWhile_not (· == '.') (Text.trim extension.toList)
  rw [bareExtension, String.toList_ofList] at hhead
  simp [hhead] at hdot

theorem marker?_eq_some_iff : marker? extension = some marker ↔
    bareExtension extension ≠ "" ∧ marker = "." ++ bareExtension extension := by
  unfold marker? bareExtension
  cases (Text.trim extension.toList).dropWhile (· == '.') with
  | nil => simp
  | cons first rest =>
      have hdot : String.ofList ('.' :: first :: rest) = "." ++ String.ofList (first :: rest) := by
        rw [← String.toList_inj]
        simp
      have hsome : String.ofList (first :: rest) ≠ "" := by simp
      rw [and_iff_right hsome, Option.some.injEq, hdot, eq_comm]

theorem mem_markers_iff (h : configured extensions texts = .ok discovery) :
    marker ∈ discovery.markers ↔ marker ∈ builtinMarkers ∨
      ∃ extension ∈ extensions, bareExtension extension ≠ "" ∧
        marker = "." ++ bareExtension extension := by
  simp only [markers, (configured_eq_ok_iff.mp h).1, Text.mem_sortOnce, List.mem_append,
    List.mem_filterMap, marker?_eq_some_iff]

/-- A configured extension of which something is left turns the files that have it into companions
of the files without it, unless it has a dot inside. One that has is taken away as a whole exactly
if each of its segments is a marker itself. -/
theorem logicalName?_of_extension (h : configured extensions texts = .ok discovery)
    (hextension : extension ∈ extensions) (hleft : bareExtension extension ≠ "")
    (hstem : '.' ∉ stem.toList) :
    ('.' ∉ (bareExtension extension).toList →
      logicalName? discovery.markers (sourceFile (stem ++ "." ++ bareExtension extension)) =
        some (sourceFile stem)) ∧
    (logicalName? discovery.markers (sourceFile (stem ++ "." ++ bareExtension extension)) =
        some (sourceFile stem) ↔
      ∀ segment ∈ Text.pieces '.' (bareExtension extension),
        "." ++ segment ∈ discovery.markers) := by
  have hiff := logicalName?_sourceFile_iff hstem discovery.markers (bareExtension extension)
  refine ⟨?_, hiff⟩
  intro hdots
  refine hiff.mpr ?_
  intro segment hsegment
  obtain rfl : segment = bareExtension extension := by
    simpa [Text.pieces_of_not_mem hdots] using hsegment
  exact (mem_markers_iff h).mpr (.inr ⟨extension, hextension, hleft, rfl⟩)

/-- Settings with an extension of one segment, and with one of two segments that are markers. -/
def segmentDiscovery : Discovery :=
  ⟨[".dto", ".mapper.g"], [Keyword.builtin .serialize], [Keyword.builtin .deserialize]⟩

theorem logicalName?_of_extension_segments :
    configured [" .dto", "mapper.g"] (fun _ => []) = .ok segmentDiscovery ∧
      logicalName? segmentDiscovery.markers "user.dto.py" = some "user.py" ∧
      logicalName? segmentDiscovery.markers "user.mapper.g.py" = some "user.py" := by
  have h : configured [" .dto", "mapper.g"] (fun _ => []) = .ok segmentDiscovery := by decide
  have hdto : " .dto" ∈ [" .dto", "mapper.g"] := by decide
  have hmapper : "mapper.g" ∈ [" .dto", "mapper.g"] := by decide
  have hstem : '.' ∉ "user".toList := by decide
  refine ⟨h, ?_, ?_⟩
  · exact (logicalName?_of_extension h hdto (by decide) hstem).1 (by decide)
  · exact (logicalName?_of_extension h hmapper (by decide) hstem).2.mpr (by decide)

/-- An extension with a dot inside may have no effect: no segment of a file name is its marker. -/
theorem not_forall_logicalName?_of_extension :
    ¬ ∀ (extensions : List String) (texts : Role → List String) (discovery : Discovery),
      configured extensions texts = .ok discovery →
      ∀ extension ∈ extensions, bareExtension extension ≠ "" →
      ∀ stem : String, stem ≠ "" → '.' ∉ stem.toList →
        logicalName? discovery.markers (sourceFile (stem ++ "." ++ bareExtension extension)) =
          some (sourceFile stem) := by
  intro h
  have hdotted := h ["api.v1"] (fun _ => [])
    ⟨[".api.v1"], [Keyword.builtin .serialize], [Keyword.builtin .deserialize]⟩ (by decide)
    "api.v1" (by decide) (by decide) "user" (by decide) (by decide)
  revert hdotted
  decide

end Discovery

end ProviderGen
