import ProviderGen.Text.Quoted

namespace ProviderGen

/-- What the system refuses work on a file for. -/
inductive DiskFault
  | notFound
  | denied
  | alreadyThere
  | notDirectory
  | isDirectory
  | tooManyLinks
  /-- A null character in a path, which never reaches the system. -/
  | nullCharacter
  deriving DecidableEq, Repr

def nullCharacterMessage : String := "embedded null byte"

namespace DiskFault

/-- The number that the system gives a fault. It is not asked about a null character. -/
def number? : DiskFault → Option Nat
  | notFound => some 2
  | denied => some 13
  | alreadyThere => some 17
  | notDirectory => some 20
  | isDirectory => some 21
  | tooManyLinks => some 40
  | nullCharacter => none

def text : DiskFault → String
  | notFound => "No such file or directory"
  | denied => "Permission denied"
  | alreadyThere => "File exists"
  | notDirectory => "Not a directory"
  | isDirectory => "Is a directory"
  | tooManyLinks => "Too many levels of symbolic links"
  | nullCharacter => nullCharacterMessage

end DiskFault

/-- A fault, the path it was found for, and where that was to be moved. -/
structure DiskError where
  fault : DiskFault
  path : String
  target : Option String
  deriving DecidableEq, Repr

namespace DiskError

def message (error : DiskError) : String :=
  let paths := match error.target with
    | some target => s!"{Text.quoted error.path} -> {Text.quoted target}"
    | none => Text.quoted error.path
  match error.fault.number? with
  | some number => s!"[Errno {number}] {error.fault.text}: {paths}"
  | none => error.fault.text

end DiskError

end ProviderGen
