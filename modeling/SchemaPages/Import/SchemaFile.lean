import SchemaPages.Data.Json.Reader
import SchemaPages.Data.Yaml.Resolve
import SchemaPages.Files.FileSystem
import SchemaPages.Schema.Basic
import SchemaPages.Text.Character
/-!
# Schema files

* `FileFormat`: the formats of schema files, known by their extensions;
* `LoadError`: why schemas cannot be loaded;
* `parse`, `parseFile`: the document of a text or file.
-/

namespace SchemaPages.Import

/-- The formats of schema files. -/
inductive FileFormat where
  | yaml
  | json
  deriving DecidableEq, Repr, Inhabited

/-- The extension of new files of a format. -/
def FileFormat.extension : FileFormat → String
  | .yaml => "yaml"
  | .json => "json"

/-- The formats by the extensions of their files. -/
def FileFormat.ofExtension? (extension : String) : Option FileFormat :=
  match Text.lowerText extension with
  | "yaml" => some .yaml
  | "yml" => some .yaml
  | "json" => some .json
  | _ => none

/-- Why schemas cannot be loaded. -/
inductive LoadError where
  | unreadable (path : String) (cause : FileError)
  | malformedYaml (path : String) (cause : Yaml.SyntaxError)
  | malformedJson (path : String)
  | unsupportedFormat (path : String)
  /-- An import of the schema at `source` leads nowhere. -/
  | unresolved (reference source reason : String)
  /-- The imports are nested deeper than the limit allows. -/
  | tooDeep (limit : Nat) (chain : List String)
  | invalid (path : String) (cause : Schema.Invalid)
  deriving Repr

namespace LoadError

/-- The message of an error. -/
def message : LoadError → String
  | .unreadable path cause => "Failed to read file '" ++ path ++ "': " ++ cause.message
  | .malformedYaml path _ => "Failed to parse YAML file '" ++ path ++ "'"
  | .malformedJson path => "Failed to parse JSON file '" ++ path ++ "'"
  | .unsupportedFormat path =>
    "Unsupported file format for '" ++ path ++ "'. Expected .yaml, .yml, or .json"
  | .unresolved reference source reason =>
    "Failed to resolve import '" ++ reference ++ "' in '" ++ source ++ "': " ++ reason
  | .tooDeep limit chain =>
    "Import depth limit of " ++ toString limit ++ " exceeded: " ++ Text.join " -> " chain
  | .invalid path cause => "Validation failed for '" ++ path ++ "': " ++ cause.reason

/-- The file that an error is about; a chain of imports is about several. -/
def path? : LoadError → Option String
  | .unreadable path _ => some path
  | .malformedYaml path _ => some path
  | .malformedJson path => some path
  | .unsupportedFormat path => some path
  | .unresolved _ source _ => some source
  | .tooDeep _ _ => none
  | .invalid path _ => some path

end LoadError

/-- The format of a file, which its extension tells in any case. -/
def FileFormat.ofPath (path : String) : Except LoadError FileFormat :=
  match (Path.extension? path).bind ofExtension? with
  | some f => .ok f
  | none => .error (.unsupportedFormat path)

/-- The document of a text. -/
def parse (text : String) (format : FileFormat) (path : String) : Except LoadError Value :=
  match format with
  | .yaml =>
    match Yaml.read text with
    | .ok v => .ok v
    | .error (.syntaxError e) => .error (.malformedYaml path e)
    | .error .badKey => .error (.malformedJson path)
  | .json =>
    match Json.read? text with
    | some v => .ok v
    | none => .error (.malformedJson path)

/-- The document of a file. -/
def parseFile (fs : FileSystem) (path : String) : Except LoadError Value := do
  let format ← FileFormat.ofPath path
  let text ← (fs.readText path).mapError (.unreadable path)
  parse text format path

end SchemaPages.Import
