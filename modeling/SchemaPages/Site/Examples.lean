import SchemaPages.Data.Sort
import SchemaPages.Site.Basic
/-!
# Examples of classes

A directory may hold examples of classes, in files named after their class, a hyphen and a label.

* `exampleFiles`: the files with examples of a class;
* `Site.examples`: the examples themselves.
-/

namespace SchemaPages

/-- An example of a class. -/
structure Example where
  /-- The name of its file without the extension. -/
  name : String
  format : String
  content : String
  deriving DecidableEq, Repr

/-- An example as a value. -/
def Example.toValue (e : Example) : Value :=
  .obj [("name", .str e.name), ("format", .str e.format), ("content", .str e.content)]

namespace Site

/-- The format of an example, which the extension of its file tells. -/
def exampleFormat? (path : String) : Option String :=
  match Path.extension? path with
  | some "yaml" => some "yaml"
  | some "yml" => some "yaml"
  | some "json" => some "json"
  | _ => none

/-- Whether a file name is that of an example of a class. -/
def namesExample (cls fileName : String) : Bool := Text.beginsWith (cls ++ "-") fileName

/-- The files with examples of a class, sorted by name. -/
def exampleFiles (fs : FileSystem) (directory cls : String) : Except SiteError (List String) := do
  let names ← (fs.list directory).mapError (.unreadable directory)
  let names := names.filter fun n =>
    namesExample cls n && fs.isFile (Path.join directory n)
      && (exampleFormat? (Path.join directory n)).isSome
  return (sortBy id names).map (Path.join directory)

/-- Reads an example. -/
def readExample (fs : FileSystem) (path : String) : Except SiteError Example := do
  let content ← (fs.readText path).mapError (.unreadable path)
  return ⟨(Path.stem? path).getD "", (exampleFormat? path).getD "yaml", content⟩

/-- The examples of a class; there are none without a directory of examples. -/
def examples (s : Site) (fs : FileSystem) (cls : String) : Except SiteError (List Example) := do
  match s.config.exampleDirectory with
  | none => return []
  | some directory => (← exampleFiles fs directory cls).mapM (readExample fs)

end Site

end SchemaPages
