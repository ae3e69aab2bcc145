import ProviderGen.Keyword
import ProviderGen.Text.Blank
import ProviderGen.Text.Sorted

namespace ProviderGen

/-- The markers of companion files that are always known. -/
def builtinMarkers : List String := [".mapper", ".freezed", ".g"]

/-- The settings of a search. The configured markers are in ascending order, each of them once. -/
structure Discovery where
  extensions : List String
  serialize : List Keyword
  deserialize : List Keyword
  deriving DecidableEq, Repr

namespace Discovery

/-- The marker of a configured extension; none if nothing is left of it. -/
def marker? (extension : String) : Option String :=
  match (Text.trim extension.toList).dropWhile (· == '.') with
  | [] => none
  | text => some (String.ofList ('.' :: text))

/-- The settings of configured extensions and keywords. -/
def ofTexts (extensions serialize deserialize : List String) : Except KeywordError Discovery := do
  let serialize ← Keyword.configured .serialize serialize
  let deserialize ← Keyword.configured .deserialize deserialize
  return ⟨Text.sortOnce (extensions.filterMap marker?), serialize, deserialize⟩

/-- The settings where nothing is configured. -/
def standard : Discovery :=
  ⟨[], [Keyword.builtin .serialize], [Keyword.builtin .deserialize]⟩

/-- All markers, in ascending order. -/
def markers (discovery : Discovery) : List String :=
  Text.sortOnce (builtinMarkers ++ discovery.extensions)

def keywords (discovery : Discovery) : Role → List Keyword
  | .serialize => discovery.serialize
  | .deserialize => discovery.deserialize

/-- Whether a text holds a keyword of a role. -/
def mentions (discovery : Discovery) (role : Role) (text : String) : Bool :=
  (discovery.keywords role).any (·.matchesIn text)

/-- Whether a text holds any keyword. -/
def mentionsAny (discovery : Discovery) (text : String) : Bool :=
  discovery.mentions .serialize text || discovery.mentions .deserialize text

end Discovery

end ProviderGen
