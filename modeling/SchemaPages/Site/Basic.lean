import SchemaPages.Site.Config
import SchemaPages.View.Induced
import SchemaPages.View.Uri
/-!
# Sites

A site is a view with the configuration of its pages. Here is what the pages of elements are called
and which elements have one.

* `Site.name`: the canonical name of an element, which its page is named after too;
* `Site.isExternal`, `Site.hasPage`.
-/

namespace SchemaPages

/-- A view and what its site looks like. -/
structure Site where
  view : View
  config : SiteConfig
  deriving Inhabited

namespace Site

/-! ## 1. Names -/

/-- Whether elements of a kind are named by their URIs. -/
def namesByUri (s : Site) : Kind → Bool
  | .cls => s.config.classUris
  | .slot => s.config.slotUris
  | _ => false

/-- The local part of a compact URI that can be a name. -/
def localPart? (curie : String) : Option String :=
  match Text.cutAt? ':' curie with
  | some (_, rest) => if rest = "" ∨ Text.beginsWith "//" rest then none else some rest
  | none => none

/-- The name that an element has by its URI, where elements of its kind are named so. -/
def uriName? (s : Site) (e : Element) : Option String :=
  if s.namesByUri e.kind then localPart? (s.view.uri e false false) else none

/-- The name of an element on pages, which is also that of its own page. -/
def name (s : Site) (e : Element) : String :=
  (s.uriName? e).getD (View.canonicalName e)

/-- The title of the site. -/
def title (s : Site) : String := s.view.root.title.getD s.view.root.name

/-! ## 2. Elements with pages -/

/-- The identifier of the schema of basic types. -/
def basicTypesId : String := "https://w3id.org/linkml/types"

/-- Where the schemas of the metamodel have their identifiers. -/
def metamodelNamespace : String := "https://w3id.org/linkml/"

/-- Whether an element is documented elsewhere: the basic types are, unless wanted. -/
def isExternal (s : Site) (e : Element) : Bool :=
  e.fromSchema == some basicTypesId && !s.config.documentBasicTypes

/-- Whether a type has no page. In the metamodel's own schemas external types have pages too. -/
def leavesOut (s : Site) (t : DataType) : Bool :=
  s.isExternal (.type t) && !Text.beginsWith metamodelNamespace s.view.root.id

/-- Whether an element has a page. -/
def hasPage (s : Site) : Element → Bool
  | .type t => !s.leavesOut t
  | e => !s.isExternal e

/-! ## 3. URIs -/

/-- The URI of an element, or its compact URI; a subset has neither and shows its name. -/
def uri (s : Site) (e : Element) (expand : Bool) : String :=
  match e with
  | .subset _ => s.name e
  | _ => s.view.uri e expand s.config.foldersByKind

end Site

end SchemaPages
