import SchemaPages.Data.Sort
import SchemaPages.Site.Link
/-!
# Outlines of inheritance

* `Site.chain`: an element with everything above it, topmost first;
* `Outline`, `Site.outline`: the chain as a list of lines, with mixins and children;
* `Site.classTree`: all classes, each with its depth.
-/

namespace SchemaPages

/-! ## 1. Chains -/

/-- A name in a chain. -/
structure ChainNode where
  name : String
  /-- What the name stands for, if anything. -/
  element : Option Element
  depth : Nat
  deriving Repr

/-- What a line of an outline shows. -/
inductive OutlineLabel where
  /-- A name that stands for nothing. -/
  | unresolved (name : String)
  /-- The element that the outline is about. -/
  | focus (name : String)
  | link (l : Link)
  deriving DecidableEq, Repr

/-- A line of an outline. -/
structure OutlineLine where
  depth : Nat
  label : OutlineLabel
  /-- The mixins of the element, where they are wanted. -/
  mixins : List Link
  deriving DecidableEq, Repr

/-- An outline. -/
abbrev Outline := List OutlineLine

namespace Outline

/-- How many blanks a level is indented by. -/
def indentWidth : Nat := 4

/-- The text of a label. -/
def labelText (f : OutputFormat) : OutlineLabel → String
  | .unresolved name => name
  | .focus name => "**" ++ name ++ "**"
  | .link l => l.render f

/-- The text of mixins behind a label. -/
def mixinsText (f : OutputFormat) : List Link → String
  | [] => ""
  | mixins => " [" ++ String.join (mixins.map fun m => " " ++ m.render f) ++ "]"

/-- The text of a line. -/
def lineText (f : OutputFormat) (l : OutlineLine) : String :=
  String.ofList (List.replicate (l.depth * indentWidth) ' ') ++ "* " ++ labelText f l.label
    ++ mixinsText f l.mixins ++ "\n"

/-- The text of an outline. -/
def render (f : OutputFormat) (o : Outline) : String := String.join (o.map (lineText f))

end Outline

namespace Site

/-- The names of all elements of a kind. -/
def namesOfKind (v : View) (k : Kind) : List String := (v.all k true).map Element.name

/-- The element and what it inherits from, nearest first. -/
def chainUpwards (v : View) (e : Element) : List (String × Option Element) :=
  (e.name, some e) ::
    Walk.chain (v.elementOfKind? e.kind) Element.isA (namesOfKind v e.kind) [e.name] e.isA

/-- Numbers the nodes of a chain. -/
def numbered (depth : Nat) : List (String × Option Element) → List ChainNode
  | [] => []
  | (name, element) :: rest => ⟨name, element, depth⟩ :: numbered (depth + 1) rest

/-- The element and what it inherits from, topmost first. -/
def chain (s : Site) (e : Element) : List ChainNode := numbered 0 (chainUpwards s.view e).reverse

/-! ## 2. Outlines -/

/-- The name of the element that an outline is about. -/
def focusName (s : Site) (e : Element) : String :=
  if s.config.slotUris || s.config.classUris then e.name else s.name e

/-- The line of a name. -/
def outlineLine (s : Site) (focus : String) (mixins : Bool) (n : ChainNode) : OutlineLine :=
  match n.element with
  | none => ⟨n.depth, .unresolved n.name, []⟩
  | some e =>
    { depth := n.depth
      label := if n.name = focus then .focus (s.focusName e) else .link (s.link e false)
      mixins := if mixins then s.links e.mixins else [] }

/-- The direct children of an element. Types have none in an outline. -/
def childNames (s : Site) (e : Element) : List String :=
  match e.kind with
  | .cls => s.view.classChildren e.name false true
  | .slot => s.view.slotChildren e.name false
  | _ => []

/-- The children of an element, one level below it. -/
def childNodes (s : Site) (e : Element) (depth : Nat) : List ChainNode :=
  (s.childNames e).map fun n => ⟨n, s.view.elementOfKind? e.kind n, depth⟩

/-- The outline of an element: everything above it, the element, and its children if wanted. -/
def outline (s : Site) (e : Element) (children mixins : Bool) : Outline :=
  let chain := s.chain e
  let nodes := chain ++ if children then s.childNodes e chain.length else []
  nodes.map (s.outlineLine e.name mixins)

/-- The outline of an element as text. -/
def tree (s : Site) (e : Element) (children mixins : Bool) : String :=
  (s.outline e children mixins).render s.config.format

/-! ## 3. The tree of classes -/

/-- The names of siblings in alphabetical order of their lower case. Of names that differ in case
alone the later one comes first. -/
def sortedSiblings (names : List String) : List String := sortBy Text.lowerText names.reverse

/-- All classes without a parent, each followed by the classes below it, with their depths. A class
that has been listed is not listed again. -/
def classTree (s : Site) : List (Nat × String) :=
  let imports := s.config.listImports
  Walk.preorder Prod.snd
    (fun (depth, name) =>
      (sortedSiblings (s.view.classChildren name false imports)).map fun n => (depth + 1, n))
    ((s.view.elements imports).classes.map Class.name) []
    ((sortedSiblings (s.view.classRoots false imports)).map fun n => (0, n))

end Site

end SchemaPages
