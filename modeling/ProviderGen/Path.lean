import ProviderGen.Text.Split

namespace ProviderGen

/-- Where a path starts. Two leading slashes are an anchor of their own. -/
inductive Anchor
  | relative
  | root
  | doubleRoot
  deriving DecidableEq, Repr

namespace Anchor

/-- The slashes that an anchor is written with. -/
def text : Anchor → String
  | relative => ""
  | root => "/"
  | doubleRoot => "//"

/-- The anchor of a path that begins with some number of slashes. -/
def ofSlashes : Nat → Anchor
  | 0 => relative
  | 2 => doubleRoot
  | _ => root

end Anchor

structure Path where
  anchor : Anchor
  names : List String
  deriving DecidableEq, Repr

namespace Path

def ofString (text : String) : Path where
  anchor := .ofSlashes (text.toList.takeWhile (· == '/')).length
  names := (Text.pieces '/' text).filter fun name => name ≠ "" && name ≠ "."

/-- The text of a path; the empty path is a single dot. -/
def toString (path : Path) : String :=
  match path.anchor, path.names with
  | .relative, [] => "."
  | anchor, names => anchor.text ++ "/".intercalate names

instance : ToString Path := ⟨toString⟩

/-- Whether a path does not depend on the current directory. -/
def isAbsolute (path : Path) : Bool :=
  path.anchor != .relative

/-- Whether a null character stands in a path. No system call takes such a path. -/
def holdsNull (path : Path) : Bool :=
  path.names.any fun name => name.toList.contains '\x00'

/-- A path seen from a base: an absolute one stays as it is. -/
def under (base path : Path) : Path :=
  if path.isAbsolute then path else { base with names := base.names ++ path.names }

/-- The path of an entry of a directory. -/
def child (directory : Path) (name : String) : Path :=
  { directory with names := directory.names ++ [name] }

/-- The text of an entry of a directory, as a listing of the directory has it. -/
def textOf (directory : Path) (name : String) : String :=
  let slash := if directory.names = [] && directory.isAbsolute then "" else "/"
  directory.toString ++ slash ++ name

/-- The last name of a path; empty for an anchor alone. -/
def name (path : Path) : String :=
  path.names.getLast?.getD ""

/-- The directory that holds a path; an anchor holds itself. -/
def parent (path : Path) : Path :=
  { path with names := path.names.dropLast }

/-- What a path adds to a base that it lies under. -/
def relativeTo? (path base : Path) : Option Path :=
  if path.anchor = base.anchor && base.names.isPrefixOf path.names then
    some ⟨.relative, path.names.drop base.names.length⟩
  else
    none

/-- Names with each `..` taken as the name before it being left out, whatever that is. -/
def collapsed (names : List String) : List String :=
  names.foldl (fun kept name => if name = ".." then kept.dropLast else kept ++ [name]) []

/-- The anchor, if there is one, and the names, as they are shown one by one. -/
def segments (path : Path) : List String :=
  match path.anchor with
  | .relative => path.names
  | anchor => anchor.text :: path.names

@[simp]
theorem child_names (directory : Path) (name : String) :
    (directory.child name).names = directory.names ++ [name] := rfl

@[simp]
theorem child_anchor (directory : Path) (name : String) :
    (directory.child name).anchor = directory.anchor := rfl

@[simp]
theorem name_child (directory : Path) (name : String) : (directory.child name).name = name := by
  simp [Path.name, child]

@[simp]
theorem parent_child (directory : Path) (name : String) :
    (directory.child name).parent = directory := by
  simp [parent, child]

end Path

end ProviderGen
