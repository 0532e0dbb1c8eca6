import SchemaPages.CommandLine.Logging
import SchemaPages.Import.Closure
/-!
# Running commands

A run reads and changes files and prints; what it did before it failed stays.

* `Session`, `Run`;
* `generate`, `initSettings`, `showSettings`: the commands;
* `perform`: the command of some arguments;
* `LogLines`: what is not known of the lines that are logged;
* `performArguments`: the command under the settings that apply, with its log.
-/

namespace SchemaPages.CommandLine

/-! ## 1. Runs -/

/-- The files as they are, and what has been printed. -/
structure Session where
  files : FileSystem
  printed : String := ""
  deriving Repr, Inhabited

/-- An action of the program. -/
abbrev Run (α : Type) := ExceptT Failure (StateM Session) α

namespace Run

/-- Prints a text. -/
def print (s : String) : Run Unit := modify fun w => { w with printed := w.printed ++ s }

/-- Looks at the files. -/
def look {α : Type} (f : FileSystem → Except Failure α) : Run α := do
  match f (← get).files with
  | .ok a => return a
  | .error e => throw e

/-- An action on the files. -/
def onDisk {ε α : Type} (failure : ε → Failure) (act : OnDisk ε α) : Run α := do
  let w ← get
  let (result, files) := (act.run : StateM FileSystem (Except ε α)).run w.files
  set { w with files }
  match result with
  | .ok a => return a
  | .error e => throw (failure e)

end Run

/-! ## 2. Commands -/

/-- The site of a schema file. -/
def siteOf (fs : FileSystem) (schema : String) (config : SiteConfig) : Except Failure Site :=
  match Import.load fs {} schema with
  | .ok view => .ok ⟨view, config⟩
  | .error e => .error (.site (.load e))

/-- Whether a diagram of the whole schema is wanted, but not which kind of diagram. -/
def lacksDiagramType (c : SiteConfig) : Bool := c.topLevelDiagram && c.diagramType.isNone

/-- The site that arguments ask for, if it can be made. -/
def siteFor (fs : FileSystem) (a : GenerateArguments) (configured : SiteConfig) :
    Except Failure Site := do
  if !fs.pathExists a.schema then throw (.fileNotFound a.schema)
  let config := a.configure configured
  if lacksDiagramType config then
    throw (.arguments ("--include-top-level-diagram needs a diagram type "
      ++ "(--diagram-type or generator.diagram_type)"))
  siteOf fs a.schema config

/-- Makes a site, or shows what it would consist of. -/
def generate (engine : TemplateEngine) (o : Output) (a : GenerateArguments) (configured : SiteConfig) :
    Run Unit := do
  let site ← Run.look fun fs => siteFor fs a configured
  if a.dryRun then Run.print (o.plan site.plan)
  else do
    Run.print (o.info ("Generating documentation for " ++ a.schema))
    let report ← Run.onDisk .site (site.write engine)
    Run.print (o.report report)

/-- Writes the settings of a new project, unless there are some. -/
def initSettings (o : Output) (path : Option String) (force : Bool) : Run Unit := do
  let path := path.getD Settings.projectFile
  let found ← Run.look fun fs => .ok (fs.pathExists path)
  if found && !force then
    Run.print (o.warning ("Config already exists at " ++ path ++ " (use --force to overwrite)"))
  else do
    Run.onDisk id (Settings.ofNewProject.save path)
    Run.print (o.success ("✓ Created config at " ++ path))
    Run.print (o.info "Edit it to customize documentation settings.")

/-- Shows settings. -/
def showSettings (f : SettingsFormat) (s : Settings) : Run Unit :=
  Run.print (Output.line (Text.trimEnd (s.textAs f)))

/-- Performs the command of some arguments under some settings. Completions are not part of this
program: asking for them does nothing. -/
def perform (engine : TemplateEngine) (o : Output) (s : Settings) : Command → Run Unit
  | .generate a => generate engine o a s.site
  | .initSettings path force => initSettings o path force
  | .showSettings f => showSettings f s
  | .completions _ => return ()

/-! ## 3. Logs -/

/-- What is not known of the lines that are logged. -/
structure LogLines where
  /-- Whether a level is one that lines can be chosen by. -/
  admits : String → Bool
  /-- All lines of a run, by how the program logs, its arguments and what it has done. -/
  text : Logging → Arguments → Session → String

namespace LogLines

/-- No lines, whatever is chosen. -/
def none : LogLines where
  admits _ := true
  text _ _ _ := ""

/-- The path of the log file. Where lines cannot be chosen there is no log. -/
def path? (lines : LogLines) (l : Logging) : Option String :=
  if lines.admits l.level then l.path? else .none

end LogLines

namespace Run

/-- Opens a log file, if there is one. -/
def openLog : Option String → Run (Option Place)
  | some path => do return some (← onDisk .logFile (OnDisk.openWithin path))
  | none => return none

/-- An action whose lines come into the log, also if it fails. They do not wait for one another, and
count as written when it is over. -/
def logged (log : Option Place) (text : Session → String) (act : Run Unit) : Run Unit := do
  let result ← ExceptT.lift act.run
  if let some p := log then modify fun w => { w with files := w.files.addText p (text w) }
  match result with
  | .ok _ => return ()
  | .error e => throw e

end Run

/-! ## 4. The program -/

/-- How to print, by the arguments and the settings. Only terminals have colours. -/
def Arguments.outputUnder (a : Arguments) (s : Settings) (terminal : Bool) : Output where
  format := a.format
  color := !a.noColor && terminal && s.output.color
  quiet := a.quiet

/-- What the program does before its command: it reads the settings that are named or found in the
usual places, and opens the log file. -/
def setUp (lines : LogLines) (env : Environment) (a : Arguments) : Run (Settings × Option Place) := do
  let settings ← Run.look fun fs => Settings.load fs env.userDirectory a.settings
  let log ← Run.openLog (lines.path? (a.loggingUnder env settings.logging))
  return (settings, log)

/-- Performs the command of some arguments, with its log. -/
def performArguments (engine : TemplateEngine) (lines : LogLines) (env : Environment) (a : Arguments) :
    Run Unit := do
  let (settings, log) ← setUp lines env a
  Run.logged log (lines.text (a.loggingUnder env settings.logging) a)
    (perform engine (a.outputUnder settings env.terminal) settings a.command)

end SchemaPages.CommandLine
