import ProviderGen.Disk.Error
import ProviderGen.Keyword
import ProviderGen.Path
import ProviderGen.Text.CommandWords
import ProviderGen.Text.Utf8
import ProviderGen.Yaml.Error

namespace ProviderGen

/-- The file that holds the configuration of a project. -/
def configurationFile : String := ".modelgen.yml"

inductive ConfigurationFlaw
  | noProject (path : Path)
  | refused (error : DiskError)
  | notText (flaw : Text.Utf8Flaw)
  | malformed (complaint : String)
  | notMapping
  | keyword (error : KeywordError)
  | longInteger
  | notList (section_ : String)
  | noKeyword (section_ : String)
  | wrongTimeout
  deriving DecidableEq, Repr

/-- Why a configuration cannot be loaded: because of what is wrong with it, or because of a value
in it or a path that cannot be understood. -/
inductive ConfigurationError
  | flawed (flaw : ConfigurationFlaw)
  | document (error : Yaml.DocumentError)
  | brokenDown (message : String)
  | command (error : Text.CommandWordError)
  | longInteger
  | hugeTimeout
  | noHome
  | linkLoop (path : Path)
  | nullCharacter
  deriving DecidableEq, Repr

/-- The wording for a path to a home directory that is not known. -/
def noHomeMessage : String := "Could not determine home directory."

/-- The wording for a path on which a link leads back to itself. -/
def linkLoopMessage (path : Path) : String :=
  s!"Symlink loop from {Text.quoted path.toString}"

def ConfigurationFlaw.message : ConfigurationFlaw → String
  | noProject path => s!"Project directory not found: {path}"
  | refused error => s!"Failed to read {configurationFile}: {error.message}"
  | notText flaw => s!"Failed to read {configurationFile}: {flaw.message}"
  | malformed complaint => s!"Failed to parse {configurationFile}: {complaint}"
  | notMapping => s!"{configurationFile} must contain a mapping at the root"
  | keyword error => s!"Invalid models section in {configurationFile}: {error.message}"
  | longInteger => s!"Invalid models section in {configurationFile}: {Number.longIntegerMessage}"
  | notList key => s!"{key} must be a list of \x7bkeyword: ...\x7d entries"
  | noKeyword key => s!"{key} entries require a non-empty 'keyword'"
  | wrongTimeout => "build.timeout must be a positive number of seconds"

def ConfigurationError.message : ConfigurationError → String
  | flawed flaw => flaw.message
  | document error => error.message
  | brokenDown message => message
  | command error => error.message
  | longInteger => Number.longIntegerMessage
  | hugeTimeout => Yaml.DocumentError.hugeBase.message
  | noHome => noHomeMessage
  | linkLoop path => linkLoopMessage path
  | nullCharacter => nullCharacterMessage

end ProviderGen
