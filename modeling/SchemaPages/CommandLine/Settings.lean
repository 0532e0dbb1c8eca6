import SchemaPages.CommandLine.Failure
import SchemaPages.Data.Json.Reader
import SchemaPages.Data.Toml.Printer
import SchemaPages.Data.Toml.Reader
import SchemaPages.Data.Yaml.Printer
import SchemaPages.Data.Yaml.Shaped
/-!
# Settings

What the program is told by its environment, and by a file: the configuration of sites, and how it
prints and logs.

* `Environment`, `Environment.read`;
* `Settings`, with `Settings.read` and `Settings.toValue`;
* `SettingsFormat`: the formats of settings files;
* `Settings.ofFile`, `Settings.load`: the settings of a file, or of the first one in the usual
  places;
* `Settings.save`.
-/

namespace SchemaPages.CommandLine

/-! ## 1. The environment -/

/-- What the environment of the program says. -/
structure Environment where
  /-- The settings file, where the arguments name none. -/
  settings : Option String := none
  logLevel : Option String := none
  logFormat : Option String := none
  logFile : Option String := none
  /-- The directory in which the user's settings lie. -/
  userDirectory : Option String := none
  /-- Whether the program prints to a terminal. -/
  terminal : Bool := false
  deriving DecidableEq, Repr, Inhabited

/-- The environment with some variables. The user's directory may be named only absolutely. -/
def Environment.read (valueOf : String → Option String) (terminal : Bool) : Environment where
  settings := valueOf "SCHEMADOC_CONFIG"
  logLevel := valueOf "RUST_LOG"
  logFormat := valueOf "SCHEMADOC_LOG_FORMAT"
  logFile := valueOf "SCHEMADOC_LOG_FILE"
  userDirectory :=
    ((valueOf "XDG_CONFIG_HOME").filter Path.isAbsolute).or
      ((valueOf "HOME").map fun home => Path.join home ".config")
  terminal := terminal

/-! ## 2. Settings -/

/-- How the program prints. -/
structure OutputSettings where
  color : Bool := true
  progress : Bool := true
  deriving DecidableEq, Repr, Inhabited

/-- How the program logs. -/
structure LogSettings where
  level : Option String := none
  format : Option String := none
  file : Option String := none
  deriving DecidableEq, Repr, Inhabited

/-- What the program is told by a file. -/
structure Settings where
  site : SiteConfig := {}
  output : OutputSettings := {}
  logging : LogSettings := {}
  deriving DecidableEq, Repr, Inhabited

namespace OutputSettings

/-- The fields of output settings. -/
def fields : List (Field OutputSettings) :=
  [field "color" .switch fun v s => { s with color := v },
   field "progress" .switch fun v s => { s with progress := v }]

/-- Reads output settings. -/
def read : Reader OutputSettings := .recordOnce "OutputConfig" fields {}

/-- Output settings as a value. -/
def toValue (s : OutputSettings) : Value :=
  .obj [("color", .bool s.color), ("progress", .bool s.progress)]

end OutputSettings

namespace LogSettings

/-- The fields of log settings. -/
def fields : List (Field LogSettings) :=
  [field "level" (.optional .text) fun v s => { s with level := v },
   field "format" (.optional .text) fun v s => { s with format := v },
   field "file" (.optional .path) fun v s => { s with file := v }]

/-- Reads log settings. -/
def read : Reader LogSettings := .recordOnce "LogSettings" fields {}

/-- Log settings as a value. -/
def toValue (s : LogSettings) : Value :=
  .obj
    [("level", .ofText? s.level), ("format", .ofText? s.format), ("file", .ofText? s.file)]

end LogSettings

namespace Settings

/-- Reads the configuration of sites. -/
def readSite : Reader SiteConfig := .recordOnce "GeneratorConfig" SiteConfig.fields {}

/-- The fields of settings. -/
def fields : List (Field Settings) :=
  [field "generator" readSite fun v s => { s with site := v },
   field "output" OutputSettings.read fun v s => { s with output := v },
   field "logging" LogSettings.read fun v s => { s with logging := v }]

/-- Reads settings. -/
def read : Reader Settings := .recordOnce "Config" fields {}

/-- Settings as a value. -/
def toValue (s : Settings) : Value :=
  .obj
    [("generator", s.site.toValue), ("output", s.output.toValue), ("logging", s.logging.toValue)]

/-- The shape of the configuration of sites. -/
def siteShape : Yaml.Shape :=
  .record
    [("directory", .optionalText), ("format", .choice), ("index_name", .text),
     ("template_directory", .optionalText), ("example_directory", .optionalText),
     ("dialect", .optionalChoice), ("diagram_type", .optionalChoice),
     ("include_top_level_diagram", .switch), ("sort_by", .choice),
     ("subfolder_type_separation", .switch), ("truncate_descriptions", .switch),
     ("use_slot_uris", .switch), ("use_class_uris", .switch),
     ("hierarchical_class_view", .switch), ("render_imports", .switch), ("genmeta", .switch)]

/-- The shape of settings. -/
def shape : Yaml.Shape :=
  .record
    [("generator", siteShape), ("output", .record [("color", .switch), ("progress", .switch)]),
     ("logging",
      .record [("level", .optionalText), ("format", .optionalText), ("file", .optionalText)])]

/-- The settings of a new project. -/
def ofNewProject : Settings := { site := { directory := some "docs" } }

end Settings

/-! ## 3. Formats -/

/-- The formats of settings files. -/
inductive SettingsFormat where
  | toml
  | json
  | yaml
  deriving DecidableEq, Repr, Inhabited

namespace SettingsFormat

/-- The formats by name. -/
def choices : List (String × SettingsFormat) := [("toml", .toml), ("json", .json), ("yaml", .yaml)]

/-- The format of a file, which its extension tells. -/
def ofPath (path : String) : Except Failure SettingsFormat :=
  match Path.extension? path with
  | some "toml" => .ok .toml
  | some "yaml" => .ok .yaml
  | some "yml" => .ok .yaml
  | some "json" => .ok .json
  | _ => .error (.settings ("Unsupported config file format: " ++ path))

/-- The failure of a text that holds no settings. -/
def malformed : SettingsFormat → Failure
  | .toml => .malformedToml
  | .json => .malformedJson
  | .yaml => .malformedYaml

/-- The text of a value. -/
def write : SettingsFormat → Value → String
  | .toml, v => Toml.render v
  | .json, v => Json.pretty v
  | .yaml, v => Yaml.render v

/-- The value of a text of settings. -/
def parse? : SettingsFormat → String → Option Value
  | .toml, s => Toml.read? s
  | .json, s => Json.readRepeated? s
  | .yaml, s => (Yaml.readShaped Settings.shape s).toOption

end SettingsFormat

namespace Settings

/-- Settings as a text. -/
def textAs (f : SettingsFormat) (s : Settings) : String := f.write s.toValue

/-- The settings of a text. -/
def ofText (f : SettingsFormat) (text : String) : Except Failure Settings :=
  match f.parse? text with
  | none => .error f.malformed
  | some v => (read v).mapError fun _ => f.malformed

/-- Settings as the text of a file. -/
def textFor (path : String) (s : Settings) : Except Failure String :=
  (SettingsFormat.ofPath path).map fun f => s.textAs f

/-! ## 4. Files -/

/-- The settings of a file. -/
def ofFile (fs : FileSystem) (path : String) : Except Failure Settings := do
  if !fs.pathExists path then throw (.fileNotFound path)
  let text ← (fs.readText path).mapError .io
  ofText (← SettingsFormat.ofPath path) text

/-- The settings file of a project. -/
def projectFile : String := ".schemadoc.toml"

/-- Where settings are looked for: in the project, then in the user's directory of settings. -/
def usualPaths (userDirectory : Option String) : List String :=
  [projectFile, ".schemadoc.yaml", ".schemadoc.json"] ++
    match userDirectory with
    | some dir =>
      ["config.toml", "config.yaml", "config.json"].map (Path.join (Path.join dir "schemadoc"))
    | none => []

/-- The settings of the given file, or else of the first file in the usual places. -/
def load (fs : FileSystem) (userDirectory file : Option String) : Except Failure Settings :=
  match file.or ((usualPaths userDirectory).find? fs.pathExists) with
  | some path => ofFile fs path
  | none => .ok {}

/-- Saves settings in the format that the file's extension names. -/
def save (s : Settings) (path : String) : OnDisk Failure Unit := do
  let text ← OnDisk.look fun _ => s.textFor path
  if let some parent := Path.parent? path then
    if parent ≠ "" then OnDisk.mapError .io (OnDisk.makeDirs parent)
  OnDisk.mapError .io (OnDisk.change fun fs => fs.writeText path text)

end Settings

end SchemaPages.CommandLine
