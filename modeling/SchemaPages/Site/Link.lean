import SchemaPages.Site.Basic
/-!
# Links

A link is kept as what it says and where it leads; only a page turns it into markup.

* `Link`, `Link.render`;
* `Site.link`, `Site.linkTo`: the link to an element, or to what a name stands for;
* `Site.clickTarget`: where a class leads to in a diagram.
-/

namespace SchemaPages

/-- A link. -/
inductive Link where
  /-- Nothing to link to. -/
  | absent
  /-- A name that stands for no element. -/
  | unresolved (name : String)
  /-- A page of the site, by its path from the page that the link is on. -/
  | page (label path : String)
  /-- A URI, under a compact form of it. -/
  | uri (label uri : String)
  deriving DecidableEq, Repr

/-- The markup of a link. -/
def Link.render (f : OutputFormat) : Link → String
  | .absent => "NONE"
  | .unresolved name => name
  | .page label path => f.hyperlink label path
  | .uri label target => f.hyperlink label target

namespace Site

/-- The way to the folder of a kind, from the index or from the page of an element. -/
def folderFrom (s : Site) (k : Kind) (fromIndex : Bool) : String :=
  if !s.config.foldersByKind then ""
  else (if fromIndex then "" else "../") ++ k.folder ++ "/"

/-- The way to the page of an element, without the suffix of the page. -/
def pageStem (s : Site) (e : Element) (fromIndex : Bool) : String :=
  s.folderFrom e.kind fromIndex ++ s.name e

/-- The way to the page of an element. -/
def pagePath (s : Site) (e : Element) (fromIndex : Bool) : String :=
  s.pageStem e fromIndex ++ "." ++ s.config.format.suffix

/-- What a link to an element says. -/
def label (s : Site) (e : Element) : String :=
  match s.uriName? e with
  | some _ => e.name
  | none => s.name e

/-- The link to an element's URI. -/
def uriLink (s : Site) (e : Element) : Link := .uri (s.uri e false) (s.uri e true)

/-- The link to an element: to its page, or to its URI if it is external. -/
def link (s : Site) (e : Element) (fromIndex : Bool) : Link :=
  if s.isExternal e then s.uriLink e else .page (s.label e) (s.pagePath e fromIndex)

/-- The link to what a name stands for. -/
def linkTo (s : Site) (name : String) (fromIndex : Bool) : Link :=
  match s.view.element? name with
  | some e => s.link e fromIndex
  | none => .unresolved name

/-- The link to what a name stands for, if there is a name. -/
def linkTo? (s : Site) (name : Option String) (fromIndex : Bool) : Link :=
  match name with
  | some n => s.linkTo n fromIndex
  | none => .absent

/-- Links to what names stand for, on the page of an element. -/
def links (s : Site) (names : List String) : List Link := names.map fun n => s.linkTo n false

/-- The link behind a compact URI. -/
def curieLink (s : Site) (curie : String) : Link := .uri curie (s.view.expandCurie curie)

/-- Where an element leads to in a diagram. -/
def clickTarget (s : Site) (e : Element) : String :=
  if s.isExternal e then s.uri e true else "../" ++ s.pageStem e false ++ "/"

/-- Where a name leads to in a diagram. -/
def clickTargetOf? (s : Site) (name : Option String) : String :=
  match name with
  | none => Link.absent.render s.config.format
  | some n =>
    match s.view.element? n with
    | some e => s.clickTarget e
    | none => n

/-- The markup of a link of the site. -/
def render (s : Site) (l : Link) : String := l.render s.config.format

end Site

/-- A link in Markdown to a page, from its name, with another label or below a folder if given. -/
def markdownLink (page : String) (label folder : Option String) : String :=
  let path := match folder with
    | some f => if f = "" then page else f ++ "/" ++ page
    | none => page
  OutputFormat.markdown.hyperlink (label.getD page) (path ++ ".md")

end SchemaPages
