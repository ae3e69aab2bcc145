import ProviderGen.Text.Split

namespace ProviderGen

/-- The inner segments of a file name that are no markers, between its stem and its suffix. -/
def strippedSegments (markers : List String) (segments : List String) : List String :=
  match segments with
  | [] => []
  | stem :: rest =>
      match rest.getLast? with
      | none => [stem]
      | some suffix =>
          stem :: (rest.dropLast.filter fun segment => !markers.contains ("." ++ segment)) ++
            [suffix]

/-- The logical file that a companion belongs to; none for an ordinary file. The stem and the
suffix are never markers. -/
def logicalName? (markers : List String) (fileName : String) : Option String :=
  let segments := Text.pieces '.' fileName
  let kept := strippedSegments markers segments
  if kept.length < segments.length then some (".".intercalate kept) else none

end ProviderGen
