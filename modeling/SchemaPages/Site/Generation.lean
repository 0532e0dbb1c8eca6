import SchemaPages.Site.PageContent
import SchemaPages.Site.Plan
/-!
# Writing a site

* `Site.page?`: the page of a subject;
* `Site.write`: writes all documents of the plan, with the engine for templates that it is given. The
  configuration and the templates are checked before anything is written; the first failure after
  that ends the run.
-/

namespace SchemaPages

/-- What has been written, and the elements without a page. -/
structure Report where
  written : List String
  skipped : List Skipped
  deriving DecidableEq, Repr

/-- A report as a value. -/
def Report.toValue (r : Report) : Value :=
  .obj [("written", .ofTexts r.written), ("skipped", .arr (r.skipped.map Skipped.toValue))]

namespace Site

/-- The page of an element. Slots and types show what they take from elsewhere. -/
def elementPage (s : Site) (fs : FileSystem) : Element → Except SiteError (Option Page)
  | .cls c => (s.examples fs c.name).map fun examples => some (.cls (s.classPage c examples))
  | .slot t => .ok ((s.view.inducedSlot t.name none).map fun i => .slot (s.slotPage i))
  | .enum e => .ok (some (.enum (s.enumPage e)))
  | .type t => .ok (some (.type (s.typePage ((s.view.inducedType t.name).getD t))))
  | .subset t => .ok (some (.subset (s.subsetPage t)))

/-- The page of a subject. -/
def page? (s : Site) (fs : FileSystem) : Subject → Except SiteError (Option Page)
  | .index => .ok (some (.index s.indexPage))
  | .schema name => .ok ((s.view.schema? name).map fun t => .schema (s.schemaPage t))
  | .element kind name =>
    match s.view.elementOfKind? kind name with
    | some e => s.elementPage fs e
    | none => .ok none

/-- The names that a template can use for a page. -/
def templateNames (s : Site) (page : Option Page) : Template.Names :=
  ("settings", s.settings) ::
    page.toList.map fun p => ("page", p.toValue s.config.format)

/-- The text of a document. -/
def documentText (s : Site) (fs : FileSystem) (t : TemplateSet) (d : Document) :
    Except SiteError String := do
  let page ← s.page? fs d.subject
  t.render d.template (s.templateNames page)

/-- Writes a document, and the folder that it lies in. -/
def writeDocument (s : Site) (t : TemplateSet) (directory : String) (d : Document) :
    OnDisk SiteError String := do
  let text ← OnDisk.look fun fs => s.documentText fs t d
  let path := Path.join directory d.path
  if let some parent := Path.parent? path then
    OnDisk.mapError (.unwritable parent) (OnDisk.makeDirs parent)
  OnDisk.mapError (.unwritable path) (OnDisk.change fun fs => fs.writeText path text)
  return path

/-- Checks the configuration: the directory to write to, and the templates. -/
def prepare (engine : TemplateEngine) (s : Site) (fs : FileSystem) :
    Except SiteError (String × TemplateSet) := do
  s.config.validate fs
  match s.config.directory with
  | none => throw .noDirectory
  | some directory =>
    let t ← TemplateSet.load engine fs s.config.format s.config.templateDirectory
      s.plan.templateKinds s.config.shortDescriptions
    return (directory, t)

/-- Writes the site. -/
def write (engine : TemplateEngine) (s : Site) : OnDisk SiteError Report := do
  let (directory, t) ← OnDisk.look (s.prepare engine)
  OnDisk.mapError (.unwritable directory) (OnDisk.makeDirs directory)
  let written ← s.plan.documents.mapM (s.writeDocument t directory)
  return ⟨written, s.plan.skipped⟩

end Site

end SchemaPages
