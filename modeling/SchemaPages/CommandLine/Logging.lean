import SchemaPages.CommandLine.Arguments
/-!
# Logging

What is logged, and how: the arguments or the settings say it first, then the environment.

* `Logging.ofVerbosity`, `Logging.withSettings`, `Logging.withEnvironment`;
* `Arguments.loggingUnder`: how the program logs;
* `Logging.path?`: the path of the log file.
-/

namespace SchemaPages.CommandLine

/-- The formats of log lines. -/
inductive LogFormat where
  | compact
  | full
  | json
  deriving DecidableEq, Repr, Inhabited

namespace LogFormat

/-- The format that a text names, in any case. -/
def ofText? (s : String) : Option LogFormat :=
  match Text.lowerText s with
  | "compact" => some .compact
  | "full" => some .full
  | "json" => some .json
  | _ => none

/-- The name of a format. -/
def text : LogFormat → String
  | .compact => "Compact"
  | .full => "Full"
  | .json => "Json"

end LogFormat

/-- What is logged, and how. -/
structure Logging where
  level : String := "warn"
  format : LogFormat := .compact
  /-- Whether log lines go to the terminal. -/
  console : Bool := true
  file : Option String := none
  /-- Whether lines name their thread. -/
  threads : Bool := false
  /-- Whether lines name the place that they come from. -/
  places : Bool := false
  deriving DecidableEq, Repr, Inhabited

namespace Logging

/-- Logging by how often the arguments ask for more. -/
def ofVerbosity : Nat → Logging
  | 0 => {}
  | 1 => { level := "info" }
  | 2 => { level := "debug", places := true }
  | _ => { level := "trace", format := .full, places := true, threads := true }

/-- Logging with what settings say. A format that does not exist does not count. -/
def withSettings (l : Logging) (s : LogSettings) : Logging :=
  { l with
    level := s.level.getD l.level
    format := (s.format.bind LogFormat.ofText?).getD l.format
    file := s.file.or l.file }

/-- Logging with what the environment says. -/
def withEnvironment (l : Logging) (env : Environment) : Logging :=
  { l with
    level := env.logLevel.getD l.level
    format := (env.logFormat.bind LogFormat.ofText?).getD l.format
    file := env.logFile.or l.file }

/-- Logging of errors alone, and not to the terminal. -/
def hushed (l : Logging) : Logging := { l with level := "error", console := false }

/-- The path of the log file, if there is one with a name. -/
def path? (l : Logging) : Option String := do
  let file ← l.file
  let name ← Path.fileName? file
  return Path.join (((Path.parent? file).filter (· ≠ "")).getD ".") name

/-- Logging as a value. -/
def toValue (l : Logging) : Value :=
  .obj
    [("level", .str l.level), ("format", .str l.format.text), ("console", .bool l.console),
     ("file", .ofText? l.file), ("thread_ids", .bool l.threads),
     ("source_location", .bool l.places)]

end Logging

/-- How the program logs: settings count only where the arguments do not ask for more messages. -/
def Arguments.loggingUnder (a : Arguments) (env : Environment) (s : LogSettings) : Logging :=
  let asked := Logging.ofVerbosity a.effectiveVerbosity
  let told := (if a.effectiveVerbosity = 0 then asked.withSettings s else asked).withEnvironment env
  if a.quiet then told.hushed else told

end SchemaPages.CommandLine
