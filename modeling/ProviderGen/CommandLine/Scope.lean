namespace ProviderGen.CommandLine

/-- The scopes: that of the program, of its command, and of the target of that. -/
inductive Scope
  | program
  | generate
  | models
  deriving DecidableEq, Repr

inductive Switch
  | help
  | verbose
  | project
  | skipBuild
  | logFile
  deriving DecidableEq, Repr

namespace Switch

def names : Switch → List String
  | help => ["-h", "--help"]
  | verbose => ["-v", "--verbose"]
  | project => ["--project"]
  | skipBuild => ["--skip-build"]
  | logFile => ["--log-file"]

def takesValue : Switch → Bool
  | project | logFile => true
  | _ => false

end Switch

namespace Scope

def name : Scope → String
  | program => "modelgen"
  | generate => "modelgen generate"
  | models => "modelgen generate models"

def switches : Scope → List Switch
  | models => [.help, .verbose, .project, .skipBuild, .logFile]
  | _ => [.help, .verbose]

/-- The names of the options of a scope, with the options. -/
def switchNames (scope : Scope) : List (String × Switch) :=
  scope.switches.flatMap fun switch => switch.names.map (·, switch)

def usage : Scope → List String
  | program => ["usage: modelgen [-h] [-v] \x7bgenerate\x7d ..."]
  | generate => ["usage: modelgen generate [-h] [-v] \x7bmodels\x7d ..."]
  | models =>
      ["usage: modelgen generate models [-h] [-v] [--project PROJECT] [--skip-build]",
        "                                [--log-file LOG_FILE]",
        "                                [output]"]

/-- The lines of a help text after the usage lines. -/
def details : Scope → List String
  | program =>
      ["Generate a model provider for serializable classes in a project.",
        "",
        "positional arguments:",
        "  \x7bgenerate\x7d",
        "    generate     Generate project artifacts.",
        "",
        "options:",
        "  -h, --help     show this help message and exit",
        "  -v, --verbose  Increase log verbosity for troubleshooting."]
  | generate =>
      ["positional arguments:",
        "  \x7bmodels\x7d",
        "    models       Scan the project and write model_provider.py.",
        "",
        "options:",
        "  -h, --help     show this help message and exit",
        "  -v, --verbose  Increase log verbosity for troubleshooting."]
  | models =>
      ["positional arguments:",
        "  output               Directory for model_provider.py (defaults to the",
        "                       project root).",
        "",
        "options:",
        "  -h, --help           show this help message and exit",
        "  -v, --verbose        Increase log verbosity for troubleshooting.",
        "  --project PROJECT    Path to the project root (defaults to current",
        "                       directory).",
        "  --skip-build         Do not run the configured build step before scanning.",
        "  --log-file LOG_FILE  Also write detailed logs to this file."]

def ofLines (lines : List String) : String :=
  String.join (lines.map (· ++ "\n"))

def usageText (scope : Scope) : String := ofLines scope.usage

def helpText (scope : Scope) : String := ofLines (scope.usage ++ [""] ++ scope.details)

end Scope

end ProviderGen.CommandLine
