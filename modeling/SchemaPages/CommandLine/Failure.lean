import SchemaPages.Site.Config
/-!
# Failures of the program

* `Failure`: why a command fails;
* `Failure.message`, `Failure.exitCode`.
-/

namespace SchemaPages.CommandLine

/-- Why a command fails. -/
inductive Failure where
  | io (cause : FileError)
  | site (cause : SiteError)
  | fileNotFound (path : String)
  | settings (reason : String)
  /-- Arguments that do not go together. -/
  | arguments (reason : String)
  | malformedJson
  | malformedYaml
  | malformedToml
  /-- A log file that cannot be opened, which ends the program at once. -/
  | logFile (cause : FileError)
  deriving Repr

namespace Failure

/-- The message of a failure. -/
def message : Failure → String
  | .io cause => "IO error: " ++ cause.message
  | .site cause => cause.message
  | .fileNotFound path => "File not found: " ++ path
  | .settings reason => "Configuration error: " ++ reason
  | .arguments reason => "Invalid arguments: " ++ reason
  | .malformedJson => "JSON error: not a valid configuration"
  | .malformedYaml => "YAML error: not a valid configuration"
  | .malformedToml => "TOML error: not a valid configuration"
  | .logFile cause => "initializing rolling file appender failed: " ++ cause.message

/-- The line that is shown for a failure. -/
def line (f : Failure) : String := "Error: " ++ f.message

/-- The exit code of the program after a failure. -/
def exitCode : Failure → Nat
  | .io _ => 1
  | .site (.load _) => 3
  | .site cause => if cause.isConfigError then 5 else 2
  | .fileNotFound _ => 3
  | .settings _ => 5
  | .arguments _ => 6
  | .malformedJson => 12
  | .malformedYaml => 13
  | .malformedToml => 14
  | .logFile _ => 101

/-- Whether a hint at the help follows the message. -/
def showsHelp : Failure → Bool
  | .arguments _ => true
  | _ => false

end Failure

end SchemaPages.CommandLine
