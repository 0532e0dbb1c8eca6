import SchemaPages.Data.Decode
import SchemaPages.Data.Encode
import SchemaPages.Files.FileSystem
import SchemaPages.Import.SchemaFile
import SchemaPages.Site.Options
/-!
# Configurations of a site

* `SiteConfig`, with `SiteConfig.read` and `SiteConfig.toValue`;
* `SiteError`: why no site comes about, and which of these errors come before anything is written;
* `SiteConfig.validate`: what is wrong with a configuration.
-/

namespace SchemaPages

/-! ## 1. Errors -/

/-- Why no site comes about. -/
inductive SiteError where
  | noDirectory
  | option (e : OptionError)
  | noTemplateDirectory (path : String)
  | noExampleDirectory (path : String)
  /-- No template for the files of these names, given where they were searched. -/
  | noTemplate (names : List String) (format : OutputFormat) (directory : Option String)
  | badTemplates (path : String)
  | unrenderable (template : String)
  | unreadable (path : String) (cause : FileError)
  | unwritable (path : String) (cause : FileError)
  | load (e : Import.LoadError)
  deriving Repr

namespace SiteError

/-- The message of an error. -/
def message : SiteError → String
  | .noDirectory => "Output directory must be provided"
  | .option e => e.message
  | .noTemplateDirectory path => "Template directory '" ++ path ++ "' does not exist"
  | .noExampleDirectory path => "Example directory '" ++ path ++ "' does not exist"
  | .noTemplate names format directory =>
    let searched := match directory with
      | some dir => dir ++ " and built-in templates"
      | none => "built-in templates"
    "No " ++ format.text ++ " template for " ++ Text.join ", " names ++ " (searched: " ++ searched ++ ")"
  | .badTemplates path => "Failed to load templates from '" ++ path ++ "'"
  | .unrenderable template => "Failed to render template '" ++ template ++ "'"
  | .unreadable path cause => "Failed to read '" ++ path ++ "': " ++ cause.message
  | .unwritable path cause => "Failed to write '" ++ path ++ "': " ++ cause.message
  | .load e => e.message

/-- Whether the error lies in the configuration, so that nothing has been written. -/
def isConfigError : SiteError → Bool
  | .noDirectory => true
  | .option _ => true
  | .noTemplateDirectory _ => true
  | .noExampleDirectory _ => true
  | .noTemplate _ _ _ => true
  | .badTemplates _ => true
  | _ => false

end SiteError

/-! ## 2. Configurations -/

/-- What a site looks like and where it goes. -/
structure SiteConfig where
  /-- Where pages are written to. -/
  directory : Option String := none
  format : OutputFormat := .markdown
  /-- The name of the index page, without its suffix. -/
  indexName : String := "index"
  templateDirectory : Option String := none
  exampleDirectory : Option String := none
  dialect : Option Dialect := none
  diagramType : Option DiagramType := none
  /-- Whether the index shows a diagram of the whole schema. -/
  topLevelDiagram : Bool := false
  sortBy : SortKey := .name
  /-- Whether each kind of element has a folder of its own. -/
  foldersByKind : Bool := false
  /-- Whether tables show the first sentence of descriptions only. -/
  shortDescriptions : Bool := true
  /-- Whether slots are named by their URIs. -/
  slotUris : Bool := false
  /-- Whether classes are named by their URIs. -/
  classUris : Bool := false
  /-- Whether the index lists classes as a tree. -/
  classTree : Bool := false
  /-- Whether the index lists imported elements. -/
  listImports : Bool := false
  /-- Whether the basic types are documented too. -/
  documentBasicTypes : Bool := false
  deriving DecidableEq, Repr, Inhabited

namespace SiteConfig

/-- The fields of a configuration. -/
def fields : List (Field SiteConfig) :=
  [field "directory" (.optional .path) fun v c => { c with directory := v },
   field "format" (.choice OutputFormat.choices) fun v c => { c with format := v },
   field "index_name" .text fun v c => { c with indexName := v },
   field "template_directory" (.optional .path) fun v c => { c with templateDirectory := v },
   field "example_directory" (.optional .path) fun v c => { c with exampleDirectory := v },
   field "dialect" (.optional (.choice Dialect.choices)) fun v c => { c with dialect := v },
   field "diagram_type" (.optional (.choice DiagramType.choices)) fun v c =>
     { c with diagramType := v },
   field "include_top_level_diagram" .switch fun v c => { c with topLevelDiagram := v },
   field "sort_by" (.choice SortKey.choices) fun v c => { c with sortBy := v },
   field "subfolder_type_separation" .switch fun v c => { c with foldersByKind := v },
   field "truncate_descriptions" .switch fun v c => { c with shortDescriptions := v },
   field "use_slot_uris" .switch fun v c => { c with slotUris := v },
   field "use_class_uris" .switch fun v c => { c with classUris := v },
   field "hierarchical_class_view" .switch fun v c => { c with classTree := v },
   field "render_imports" .switch fun v c => { c with listImports := v },
   field "genmeta" .switch fun v c => { c with documentBasicTypes := v }]

/-- Reads a configuration. -/
def read : Reader SiteConfig := .record "GeneratorConfig" fields {}

/-- A configuration as a value. -/
def toValue (c : SiteConfig) : Value :=
  .obj
    [("directory", .ofText? c.directory),
     ("format", .str c.format.text),
     ("index_name", .str c.indexName),
     ("template_directory", .ofText? c.templateDirectory),
     ("example_directory", .ofText? c.exampleDirectory),
     ("dialect", .ofText? (c.dialect.map Dialect.text)),
     ("diagram_type", .ofText? (c.diagramType.map DiagramType.text)),
     ("include_top_level_diagram", .bool c.topLevelDiagram),
     ("sort_by", .str c.sortBy.text),
     ("subfolder_type_separation", .bool c.foldersByKind),
     ("truncate_descriptions", .bool c.shortDescriptions),
     ("use_slot_uris", .bool c.slotUris),
     ("use_class_uris", .bool c.classUris),
     ("hierarchical_class_view", .bool c.classTree),
     ("render_imports", .bool c.listImports),
     ("genmeta", .bool c.documentBasicTypes)]

/-- The word that opens a fenced diagram in the dialect. -/
def mermaidWord (c : SiteConfig) : String :=
  match c.dialect with
  | some .myst => "\x7bmermaid\x7d"
  | _ => "mermaid"

/-- Whether a directory that is asked for is missing. -/
def lacks (fs : FileSystem) (directory : Option String) : Option String :=
  directory.filter fun d => !fs.isDir d

/-- What is wrong with a configuration, if anything is. -/
def validate (c : SiteConfig) (fs : FileSystem) : Except SiteError Unit := do
  if c.directory.isNone then throw .noDirectory
  if Schema.isBlankText c.indexName then throw (.option (.unknown "index name" c.indexName))
  if let some dir := lacks fs c.templateDirectory then throw (.noTemplateDirectory dir)
  if let some dir := lacks fs c.exampleDirectory then throw (.noExampleDirectory dir)

end SiteConfig

end SchemaPages
