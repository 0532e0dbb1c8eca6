import SchemaPages.Site.Basic
import SchemaPages.Template.Set
/-!
# Plans

What a site will consist of, before anything is written.

* `Document`: a page by its subject, its template and its path;
* `Site.plan`: all documents in the order in which they are written, and what is left out.
-/

namespace SchemaPages

/-- What a document is about. -/
inductive Subject where
  | index
  | schema (name : String)
  | element (kind : Kind) (name : String)
  deriving DecidableEq, Repr

/-- A document of a site. -/
structure Document where
  template : TemplateKind
  subject : Subject
  /-- The path from the directory of the site. -/
  path : String
  deriving DecidableEq, Repr

/-- An element without a page. -/
structure Skipped where
  kind : Kind
  name : String
  deriving DecidableEq, Repr

/-- The documents of a site, and the elements without one. -/
structure Plan where
  documents : List Document
  skipped : List Skipped
  deriving DecidableEq, Repr

namespace Subject

/-- A subject as a value. -/
def toValue : Subject → Value
  | .index => .obj [("subject", .str "index")]
  | .schema name => .obj [("subject", .str "schema"), ("name", .str name)]
  | .element kind name =>
    .obj [("subject", .str "element"), ("kind", .str kind.text), ("name", .str name)]

end Subject

/-- A document as a value. -/
def Document.toValue (d : Document) : Value :=
  .obj
    [("template", .str d.template.text), ("subject", d.subject.toValue), ("path", .str d.path)]

/-- A skipped element as a value. -/
def Skipped.toValue (s : Skipped) : Value :=
  .obj [("kind", .str s.kind.text), ("name", .str s.name)]

/-- A plan as a value. -/
def Plan.toValue (p : Plan) : Value :=
  .obj
    [("documents", .arr (p.documents.map Document.toValue)),
     ("skipped", .arr (p.skipped.map Skipped.toValue))]

/-- The kinds of template that a plan needs. -/
def Plan.templateKinds (p : Plan) : List TemplateKind :=
  TemplateKind.all.filter fun k => p.documents.any (·.template == k)

/-- The template for pages of a kind of element. -/
def Kind.template : Kind → TemplateKind
  | .cls => .cls
  | .slot => .slot
  | .type => .type
  | .enum => .enum
  | .subset => .subset

namespace Site

/-- The file of a page. -/
def fileName (s : Site) (stem : String) : String := stem ++ "." ++ s.config.format.suffix

/-- The folder of the pages of schemas. -/
def schemaFolder : String := "schemas"

/-- A path below a folder, where pages have folders. -/
def below (s : Site) (folder path : String) : String :=
  Path.join (if s.config.foldersByKind then folder else "") path

/-- The document of the index. -/
def indexDocument (s : Site) : Document := ⟨.index, .index, s.fileName s.config.indexName⟩

/-- The document of a schema. -/
def schemaDocument (s : Site) (name : String) : Document :=
  ⟨.schema, .schema name, s.below schemaFolder (s.fileName name)⟩

/-- The document of an element. -/
def elementDocument (s : Site) (e : Element) : Document :=
  ⟨e.kind.template, .element e.kind e.name, s.below e.kind.folder (s.fileName (s.name e))⟩

/-- All elements, kind by kind in the order of their pages. -/
def allElements (s : Site) : List Element := Kind.all.flatMap fun k => s.view.all k true

/-- The plan of a site. A format with a single file has nothing but the index. -/
def plan (s : Site) : Plan :=
  if s.config.format.isSingleFile then ⟨[s.indexDocument], []⟩
  else
    { documents :=
        s.indexDocument :: s.view.importsClosure.map s.schemaDocument
          ++ (s.allElements.filter s.hasPage).map s.elementDocument
      skipped :=
        (s.allElements.filter fun e => !s.hasPage e).map fun e => ⟨e.kind, e.name⟩ }

end Site

end SchemaPages
