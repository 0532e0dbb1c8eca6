import SchemaPages.Import.BasicTypes
import SchemaPages.Import.SchemaFile
/-!
# Where imports come from

* `Source`: the basic types, or a file;
* `resolve`: the source of an entry of an import list;
* `Source.read`: the schema of a source.
-/

namespace SchemaPages.Import

/-- Where an imported schema comes from. -/
inductive Source where
  | basicTypes
  | file (path : String)
  deriving DecidableEq, Repr

namespace Source

/-- The key under which a source is loaded once. -/
def key : Source → String
  | .basicTypes => "builtin:types"
  | .file path => path

/-- The source as messages show it. -/
def displayPath : Source → String
  | .basicTypes => "<builtin:types>"
  | .file path => path

end Source

/-- The endings with which a reference names a file as it stands. -/
def schemaEndings : List String := [".yaml", ".yml", ".json"]

/-- The path that a reference stands for. -/
def candidate (reference dir : String) : String :=
  if schemaEndings.any (Text.finishesWith · reference) then Path.join dir reference
  else Path.join dir (reference ++ ".yaml")

/-- The source of a reference in a schema that lies in `dir`; messages name the schema
`importer`. -/
def resolve (fs : FileSystem) (reference dir importer : String) : Except LoadError Source :=
  match Text.dropStart? "linkml:" reference with
  | some "types" => .ok .basicTypes
  | some name =>
    .error (.unresolved reference importer ("no built-in LinkML schema named '" ++ name ++ "'"))
  | none =>
    if Text.beginsWith "http://" reference ∨ Text.beginsWith "https://" reference then
      .error (.unresolved reference importer
        "remote imports are not fetched; download the schema and import it by path")
    else
      let path := candidate reference dir
      if fs.isFile path then
        match fs.canonical path with
        | .ok p => .ok (.file p)
        | .error e => .error (.unreadable path e)
      else .error (.unresolved reference importer ("file not found: " ++ path))

/-- The schema of a file. Messages about the schema as such show the path `shown`. -/
def readFile (fs : FileSystem) (path shown : String) : Except LoadError Schema := do
  let document ← parseFile fs path
  let s ← (Schema.read document).mapError (.invalid shown)
  return { s with source := path }

/-- The directory of a file. -/
def directoryOf (path : String) : String := (Path.parent? path).getD "."

/-- The schema of a source, and where its own imports begin. -/
def Source.read (fs : FileSystem) : Source → Except LoadError (Schema × String)
  | .basicTypes => .ok (Import.basicTypes, ".")
  | .file path => (readFile fs path path).map fun s => (s, directoryOf path)

end SchemaPages.Import
