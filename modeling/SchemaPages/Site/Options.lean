import SchemaPages.Text.Character
/-!
# Options of a site

The choices that a configuration makes, with the names that files give them and the texts that they
are read from.

* `OutputFormat`, with its suffix and its markup of links;
* `Dialect`, `DiagramType`, `SortKey`;
* `OptionError`: a text that names no choice.
-/

namespace SchemaPages

/-- A text that names no choice. -/
inductive OptionError where
  | unknownFormat (text : String)
  | unknown (what text : String)
  deriving DecidableEq, Repr

/-- The message of an error. -/
def OptionError.message : OptionError → String
  | .unknownFormat text =>
    "Unsupported output format '" ++ text ++ "'. Expected markdown, rst, html or latex"
  | .unknown what text => "Invalid " ++ what ++ " '" ++ text ++ "'"

/-! ## 1. Formats -/

/-- The formats of pages. -/
inductive OutputFormat where
  | markdown
  | rst
  | html
  | latex
  deriving DecidableEq, Repr, Inhabited

namespace OutputFormat

/-- All formats. -/
def all : List OutputFormat := [.markdown, .rst, .html, .latex]

/-- The name of a format. -/
def text : OutputFormat → String
  | .markdown => "markdown"
  | .rst => "rst"
  | .html => "html"
  | .latex => "latex"

/-- The suffix of pages, without its point. -/
def suffix : OutputFormat → String
  | .markdown => "md"
  | .rst => "rst"
  | .html => "html"
  | .latex => "tex"

/-- Whether a site consists of its index alone. -/
def isSingleFile : OutputFormat → Bool
  | .latex => true
  | _ => false

/-- A link in the markup of the format. -/
def hyperlink (f : OutputFormat) (label target : String) : String :=
  match f with
  | .markdown => "[" ++ label ++ "](" ++ target ++ ")"
  | .rst => "\x60" ++ label ++ " <" ++ target ++ ">\x60__"
  | .html => "<a href=\"" ++ target ++ "\">" ++ label ++ "</a>"
  | .latex => label

/-- The formats by name. -/
def choices : List (String × OutputFormat) := all.map fun f => (f.text, f)

/-- The format that a text names, in any case. -/
def ofText (s : String) : Except OptionError OutputFormat :=
  match Text.lowerText s with
  | "markdown" => .ok .markdown
  | "md" => .ok .markdown
  | "rst" => .ok .rst
  | "html" => .ok .html
  | "latex" => .ok .latex
  | "tex" => .ok .latex
  | _ => .error (.unknownFormat s)

end OutputFormat

/-! ## 2. Dialects -/

/-- The dialects of Markdown, which differ in how they fence diagrams. -/
inductive Dialect where
  | python
  | myst
  deriving DecidableEq, Repr

namespace Dialect

/-- The name of a dialect. -/
def text : Dialect → String
  | .python => "python"
  | .myst => "myst"

/-- The dialects by name. -/
def choices : List (String × Dialect) := [Dialect.python, .myst].map fun d => (d.text, d)

/-- The dialect that a text names, in any case. -/
def ofText (s : String) : Except OptionError Dialect :=
  match choices.lookup (Text.lowerText s) with
  | some d => .ok d
  | none => .error (.unknown "dialect" s)

end Dialect

/-! ## 3. Diagrams -/

/-- The kinds of class diagram. -/
inductive DiagramType where
  | mermaidClass
  | plantUmlClass
  | er
  deriving DecidableEq, Repr

namespace DiagramType

/-- The name of a kind of diagram. -/
def text : DiagramType → String
  | .mermaidClass => "mermaid_class_diagram"
  | .plantUmlClass => "plantuml_class_diagram"
  | .er => "er_diagram"

/-- The kinds of diagram by name. -/
def choices : List (String × DiagramType) :=
  [DiagramType.mermaidClass, .plantUmlClass, .er].map fun d => (d.text, d)

/-- The kind of diagram that a text names. -/
def ofText (s : String) : Except OptionError DiagramType :=
  match choices.lookup s with
  | some d => .ok d
  | none => .error (.unknown "diagram type" s)

end DiagramType

/-! ## 4. Order of listings -/

/-- What listings are sorted by. -/
inductive SortKey where
  | name
  | rank
  | title
  deriving DecidableEq, Repr, Inhabited

namespace SortKey

/-- The name of a key. -/
def text : SortKey → String
  | .name => "name"
  | .rank => "rank"
  | .title => "title"

/-- The keys by name. -/
def choices : List (String × SortKey) := [SortKey.name, .rank, .title].map fun k => (k.text, k)

/-- The key that a text names, in any case. -/
def ofText (s : String) : Except OptionError SortKey :=
  match choices.lookup (Text.lowerText s) with
  | some k => .ok k
  | none => .error (.unknown "sort key" s)

end SortKey

end SchemaPages
