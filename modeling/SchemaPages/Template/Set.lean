import SchemaPages.Site.Config
import SchemaPages.Template.Builtin
/-!
# The templates of a site

Templates of one's own come before the built-in ones, which there are for Markdown alone. What a
template of one's own says is up to the engine that reads it: any engine will do.

* `TemplateKind`;
* `TemplateEngine`: what reads the templates in a directory;
* `TemplateSet.load`: the templates that a site needs;
* `TemplateSet.render`: the text of a page.
-/

namespace SchemaPages

/-- What a template is for. -/
inductive TemplateKind where
  | index
  | schema
  | cls
  | slot
  | enum
  | type
  | subset
  deriving DecidableEq, Repr, Inhabited

namespace TemplateKind

/-- All kinds. -/
def all : List TemplateKind := [.index, .schema, .cls, .slot, .enum, .type, .subset]

/-- The name of a kind. -/
def text : TemplateKind → String
  | .index => "index"
  | .schema => "schema"
  | .cls => "class"
  | .slot => "slot"
  | .enum => "enum"
  | .type => "type"
  | .subset => "subset"

/-- The ending of the files of templates. -/
def ending : String := ".tera"

/-- The file of a template. -/
def fileName (k : TemplateKind) (f : OutputFormat) : String :=
  k.text ++ "." ++ f.suffix ++ ending

/-- The built-in template for Markdown. -/
def builtin : TemplateKind → List Template.Part
  | .index => Template.indexTemplate
  | .schema => Template.schemaTemplate
  | .cls => Template.classTemplate
  | .slot => Template.slotTemplate
  | .enum => Template.enumTemplate
  | .type => Template.typeTemplate
  | .subset => Template.subsetTemplate

end TemplateKind

/-- A template of one's own, as an engine has read it: whether descriptions are shortened, the names
of the built-in templates beside it and the names of the page make a text, or are refused. -/
abbrev CustomTemplate := Bool → List String → Template.Names → Option String

/-- What reads templates of one's own, in whatever language they are. -/
structure TemplateEngine where
  /-- The templates in a directory and below, by the paths of their files from there. One that is
  refused spoils all. -/
  load : FileSystem → String → Option (List (String × CustomTemplate))

/-- Templates by the names of their files: those of one's own, and built-in ones beside them. -/
structure TemplateSet where
  format : OutputFormat
  /-- Whether descriptions are shortened in tables. -/
  short : Bool
  own : List (String × CustomTemplate)
  builtin : List (String × List Template.Part)

namespace TemplateSet

/-- The templates of one's own, if there is a directory of them. -/
def custom (engine : TemplateEngine) (fs : FileSystem) :
    Option String → Except SiteError (List (String × CustomTemplate))
  | none => .ok []
  | some directory =>
    if fs.isDir directory then
      match engine.load fs directory with
      | some templates => .ok templates
      | none => .error (.badTemplates directory)
    else .error (.noTemplateDirectory directory)

/-- The kinds without a template of their own. -/
def uncovered (own : List (String × CustomTemplate)) (f : OutputFormat)
    (kinds : List TemplateKind) : List TemplateKind :=
  kinds.filter fun k => !own.any fun (name, _) => name == k.fileName f

/-- The templates for pages of some kinds. -/
def load (engine : TemplateEngine) (fs : FileSystem) (f : OutputFormat) (directory : Option String)
    (kinds : List TemplateKind) (short : Bool) : Except SiteError TemplateSet := do
  let own ← custom engine fs directory
  let rest := uncovered own f kinds
  match f with
  | .markdown => return ⟨f, short, own, rest.map fun k => (k.fileName f, k.builtin)⟩
  | _ =>
    if rest = [] then return ⟨f, short, own, []⟩
    else throw (.noTemplate (rest.map (·.fileName f)) f directory)

/-- The text that the template of a name makes of names. -/
def renderNamed (t : TemplateSet) (name : String) (names : Template.Names) : Option String :=
  match t.own.lookup name with
  | some template => template t.short (t.builtin.map (·.1)) names
  | none => (t.builtin.lookup name).bind fun parts => (Template.render t.short names parts).toOption

/-- The text of a page of a kind. -/
def render (t : TemplateSet) (k : TemplateKind) (names : Template.Names) :
    Except SiteError String :=
  match t.renderNamed (k.fileName t.format) names with
  | some text => .ok text
  | none => .error (.unrenderable (k.fileName t.format))

end TemplateSet

end SchemaPages
