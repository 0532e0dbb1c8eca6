import SchemaPages.Schema.Cardinality
import SchemaPages.Site.Link
/-!
# Class diagrams

A diagram is a list of classes with their parents, mixins and slots as they are. Each of the three
notations goes through it on its own way: which slots lead to a class of the diagram, and which
parents and mixins are in it, is decided where the text is made.

* `Diagram`, `Diagram.ofClasses`;
* `Diagram.renderMermaid`, `Diagram.renderEr`, `Diagram.renderPlantUml`: the three notations;
* `Diagram.render`: the text of a diagram in a notation.
-/

namespace SchemaPages

/-- A class with the slots that it shows in a diagram. -/
structure DrawnClass where
  name : String
  isA : Option String
  mixins : List String
  slots : List Slot
  deriving DecidableEq, Repr

/-- A diagram. -/
abbrev Diagram := List DrawnClass

namespace Diagram

/-! ## 1. What is drawn -/

/-- The classes that names stand for, each once. -/
def classesOf (v : View) (names : List String) : List Class :=
  (addNew id [] names).filterMap v.class?

/-- The names that a diagram is about: those given, or without any the classes of the root. -/
def subjects (v : View) (names : List String) : List String :=
  if names = [] then v.own.classes.map Class.name else names

/-- A class in a diagram. -/
def drawnClass (v : View) (c : Class) : DrawnClass where
  name := c.name
  isA := c.isA
  mixins := c.mixins
  slots := c.directSlotNames.filterMap fun s => v.inducedSlot s (some c.name)

/-- The diagram of some classes, or of all classes of the root. -/
def ofClasses (v : View) (names : List String) : Diagram :=
  (classesOf v (subjects v names)).map (drawnClass v)

/-- The names of the classes of a diagram. -/
def present (d : Diagram) : List String := d.map DrawnClass.name

/-- The range of a slot, if it names a class that is drawn in the same diagram. -/
def classRange (drawn : List String) (s : Slot) : Option String := s.range.filter (· ∈ drawn)

/-- The range of a slot, `string` if it has none. -/
def rangeOrString (s : Slot) : String := s.range.getD "string"

/-! ## 2. Mermaid class diagrams -/

/-- The declaration of a class, with where it leads to. -/
def mermaidHead (links : String → Option String) (c : DrawnClass) : String :=
  let id := Text.joinedWords c.name
  "    class " ++ id ++ "\n" ++
    match links c.name with
    | some target => "    click " ++ id ++ " href \"" ++ target ++ "\"\n"
    | none => ""

/-- The line of a slot: an association if it leads to a drawn class. -/
def mermaidSlot (drawn : List String) (id : String) (s : Slot) : String :=
  match classRange drawn s with
  | some range =>
    "    " ++ id ++ " --> \"" ++ s.cardinality ++ "\" " ++ Text.joinedWords range ++ " : "
      ++ Text.underscored s.name ++ "\n"
  | none => "    " ++ id ++ " : " ++ Text.underscored s.name ++ "\n"

/-- What is above a class, and its slots. -/
def mermaidBody (drawn : List String) (c : DrawnClass) : String :=
  let id := Text.joinedWords c.name
  (match c.isA.filter (· ∈ drawn) with
    | some parent => "    " ++ Text.joinedWords parent ++ " <|-- " ++ id ++ "\n"
    | none => "")
  ++ String.join ((c.mixins.filter (· ∈ drawn)).map fun mixin =>
      "    " ++ Text.joinedWords mixin ++ " <|.. " ++ id ++ "\n")
  ++ String.join (c.slots.map (mermaidSlot drawn id))

/-- A class diagram of Mermaid: all declarations, then all else. -/
def renderMermaid (d : Diagram) (links : String → Option String) : String :=
  "classDiagram\n" ++ String.join (d.map (mermaidHead links))
    ++ String.join (d.map (mermaidBody d.present))

/-! ## 3. Entity relationship diagrams -/

/-- The end of a relationship that shows how many values there are. -/
def crowsFoot (s : Slot) : String :=
  match s.isMultivalued, s.isRequired with
  | true, true => "|\x7b"
  | true, false => "o\x7b"
  | false, true => "||"
  | false, false => "|o"

/-- The line of a relationship. -/
def erRelationship (id range : String) (s : Slot) : String :=
  id ++ " ||--" ++ crowsFoot s ++ " " ++ Text.joinedWords range ++ " : \""
    ++ Text.underscored s.name ++ "\"\n"

/-- Goes through slots and keeps those that are attributes; the others are put behind the
relationships that there are. -/
def erSlots (drawn : List String) (id : String) (relationships : List String) :
    List Slot → List Slot × List String
  | [] => ([], relationships)
  | s :: rest =>
    match classRange drawn s with
    | some range => erSlots drawn id (relationships ++ [erRelationship id range s]) rest
    | none =>
      let (attributes, relationships) := erSlots drawn id relationships rest
      (s :: attributes, relationships)

/-- Writes a class behind a text, and puts its relationships behind others. -/
def erClass (drawn : List String) (written : String × List String) (c : DrawnClass) :
    String × List String :=
  let id := Text.joinedWords c.name
  let (attributes, relationships) := erSlots drawn id written.2 c.slots
  if attributes = [] then (written.1 ++ id ++ "\n", relationships)
  else
    (written.1 ++ id ++ " \x7b\n"
      ++ String.join (attributes.map fun s =>
        "    " ++ Text.underscored (rangeOrString s) ++ " " ++ Text.underscored s.name ++ "\n")
      ++ "\x7d\n", relationships)

/-- An entity relationship diagram: classes with their attributes, then all relationships. -/
def renderEr (d : Diagram) : String :=
  let (text, relationships) := d.foldl (erClass d.present) ("erDiagram\n", [])
  text ++ "\n" ++ String.join relationships

/-! ## 4. PlantUML class diagrams -/

/-- The declaration of a class with its attributes. -/
def plantUmlHead (drawn : List String) (c : DrawnClass) : String :=
  let fields := c.slots.filter fun s => (classRange drawn s).isNone
  if fields = [] then "class \"" ++ c.name ++ "\"\n"
  else
    "class \"" ++ c.name ++ "\" \x7b\n"
      ++ String.join (fields.map fun s =>
        "    \x7bfield\x7d " ++ s.name ++ " : " ++ rangeOrString s ++ "\n")
      ++ "\x7d\n"

/-- The line of a slot that leads to a drawn class. -/
def plantUmlSlot (drawn : List String) (name : String) (s : Slot) : String :=
  match classRange drawn s with
  | some range =>
    "\"" ++ name ++ "\" --> \"" ++ s.cardinality ++ "\" \"" ++ range ++ "\" : \"" ++ s.name ++ "\"\n"
  | none => ""

/-- What is above a class, and where its slots lead. -/
def plantUmlBody (drawn : List String) (c : DrawnClass) : String :=
  (match c.isA.filter (· ∈ drawn) with
    | some parent => "\"" ++ parent ++ "\" <|-- \"" ++ c.name ++ "\"\n"
    | none => "")
  ++ String.join ((c.mixins.filter (· ∈ drawn)).map fun mixin =>
      "\"" ++ mixin ++ "\" <|.. \"" ++ c.name ++ "\"\n")
  ++ String.join (c.slots.map (plantUmlSlot drawn c.name))

/-- A class diagram of PlantUML. -/
def renderPlantUml (d : Diagram) : String :=
  "@startuml\nskinparam nodesep 10\nhide circle\nhide empty members\n"
    ++ String.join (d.map (plantUmlHead d.present)) ++ String.join (d.map (plantUmlBody d.present))
    ++ "@enduml\n"

/-! ## 5. Notations -/

/-- The text of a diagram in a notation. Where classes lead to shows in class diagrams of Mermaid
alone. -/
def render (d : Diagram) (links : String → Option String) : DiagramType → String
  | .mermaidClass => renderMermaid d links
  | .er => renderEr d
  | .plantUmlClass => renderPlantUml d

end Diagram

namespace Site

/-- The word that opens the fenced block of a diagram. -/
def fence (s : Site) : DiagramType → String
  | .plantUmlClass => "plantuml"
  | _ => s.config.mermaidWord

/-- Where a class leads to in a diagram. -/
def clickTargets (s : Site) (name : String) : Option String :=
  (s.view.class? name).map fun c => s.clickTarget (.cls c)

/-- The fenced diagram of some classes, or of all classes of the root, if diagrams are wanted. -/
def diagram? (s : Site) (names : List String) : Option String :=
  s.config.diagramType.map fun t =>
    "\x60\x60\x60" ++ s.fence t ++ "\n" ++ (Diagram.ofClasses s.view names).render s.clickTargets t
      ++ "\x60\x60\x60\n"

end Site

end SchemaPages
