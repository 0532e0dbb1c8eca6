import SchemaPages.CommandLine.Run
import SchemaPages.Template.Reader
/-!
# The program

The files in and below the working directory are read into a file system, the command is performed
on that, and what has changed is written back. Hidden directories are not looked into.
-/

namespace SchemaPages.CommandLine

/-! ## 1. Files -/

/-- What a file holds. -/
def contentOf (octets : ByteArray) : Content :=
  match String.fromUTF8? octets with
  | some s => .text s
  | none => .undecodable

/-- What a file holds; one that cannot be read holds no text. -/
def readContent (path : String) : IO Content := do
  try
    return contentOf (← IO.FS.readBinFile path)
  catch _ =>
    return .undecodable

/-- A place and those above it, topmost first. -/
def placesAbove : Place → List Place
  | [] => []
  | step :: rest => [step] :: (placesAbove rest).map (step :: ·)

/-- What is in and below a directory. -/
def surveyBelow (top : String) : IO (List (Place × FileNode)) := do
  let real ← IO.FS.realPath top
  let found ← real.walkDir fun p =>
    return p == real || !Text.beginsWith "." (p.fileName.getD "")
  let nodes ← found.toList.mapM fun p => do
    let place := Path.steps p.toString
    if ← p.isDir then return (place, FileNode.dir)
    else return (place, FileNode.file (← readContent p.toString))
  return (placesAbove (Path.steps real.toString)).map (fun p => (p, .dir)) ++ nodes

/-- What is in and below the directory of a path, which is the path itself or where its file lies.
Where nothing is there is nothing to see. -/
def survey (path : String) : IO (List (Place × FileNode)) := do
  try
    let real ← IO.FS.realPath path
    surveyBelow (if ← real.isDir then real else real.parent.getD real).toString
  catch _ =>
    return []

/-- The file system of the program: what is around the working directory and around every path that
is given. -/
def surveyAll (paths : List String) : IO FileSystem := do
  let here ← IO.currentDir
  let nodes ← (here.toString :: paths).mapM survey
  return {
    nodes := nodes.flatten.foldl (fun found (p, n) => insertEntry p n found) []
    workingDirectory := Path.steps here.toString }

/-- Writes what is new or different. -/
def writeChanges (before after : FileSystem) : IO Unit :=
  after.nodes.forM fun (p, n) => do
    if before.node? p ≠ some n then
      match n with
      | .dir => IO.FS.createDirAll (FileSystem.pathOf p)
      | .file (.text s) => IO.FS.writeFile (FileSystem.pathOf p) s
      | .file .undecodable => return ()

/-! ## 2. The command line -/

/-- What the program can be asked for. -/
def usage : String :=
  "Commands: generate SCHEMA, config init, config show. Options: --config FILE, --output FORMAT, "
    ++ "--quiet, --verbose, --no-color."

/-- The variables that the environment is read from. -/
def variableNames : List String :=
  ["SCHEMADOC_CONFIG", "RUST_LOG", "SCHEMADOC_LOG_FORMAT", "SCHEMADOC_LOG_FILE", "XDG_CONFIG_HOME", "HOME"]

/-- The environment of the program. -/
def environment : IO Environment := do
  let given ← variableNames.filterMapM fun name => do
    return (← IO.getEnv name).map fun v => (name, v)
  return .read (fun name => given.lookup name) (← (← IO.getStdout).isTty)

/-- The paths that an environment names. -/
def namedPaths (env : Environment) : List String :=
  env.settings.toList ++ env.logFile.toList
    ++ env.userDirectory.toList.map fun dir => Path.join dir "schemadoc"

/-- The values of options that are attached to them by an equals sign. -/
def attachedValues (args : List String) : List String :=
  args.filterMap fun a => (Text.cutAt? '=' a).map (·.2)

/-- Shows a failure. -/
def showFailure (f : Failure) : IO UInt32 := do
  IO.eprintln f.line
  if f.showsHelp then IO.eprintln ("\n" ++ usage)
  return UInt32.ofNat f.exitCode

/-- Performs the command of some arguments. Nothing is logged. -/
def performOnDisk (given : List String) (env : Environment) (a : Arguments) : IO UInt32 := do
  let before ← surveyAll (given ++ attachedValues given ++ namedPaths env)
  let (result, session) := (performArguments .values .none env a).run.run { files := before }
  writeChanges before session.files
  IO.print session.printed
  match result with
  | .ok _ => return 0
  | .error f => showFailure f

/-- Does what the arguments ask for. -/
def run (args : List String) : IO UInt32 := do
  let env ← environment
  match Arguments.read env args with
  | .ok a => performOnDisk args env a
  | .error .help => IO.println usage; return 0
  | .error .version => IO.println "1.0"; return 0
  | .error e => IO.eprintln usage; return UInt32.ofNat e.exitCode

end SchemaPages.CommandLine

/-- The program. -/
def main (args : List String) : IO UInt32 := SchemaPages.CommandLine.run args
