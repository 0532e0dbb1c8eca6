import SchemaPages.Site.Page
/-!
# What pages say

The pages of a site, built from its view.

* `Site.sortElements`: the order of listings;
* `Site.indexPage`, `Site.schemaPage`, `Site.classPage`, `Site.slotPage`, `Site.enumPage`,
  `Site.typePage`, `Site.subsetPage`;
* `Site.settings`: what every page may show.
-/

namespace SchemaPages.Site

/-! ## 1. Listings -/

/-- The rank of elements that have none. -/
def lastRank : Int := 1000

/-- Elements in the order of listings. -/
def sortElements (s : Site) (elements : List Element) : List Element :=
  match s.config.sortBy with
  | .name => sortBy (fun e => Text.lowerText e.name) elements
  | .rank => sortBy (fun e => e.rank.getD lastRank) elements
  | .title => sortBy (fun e => Text.lowerText (e.title.getD e.name)) elements

/-- The row of an element. -/
def elementRow (s : Site) (fromIndex : Bool) (depth : Nat) (e : Element) : ElementRow :=
  ⟨s.name e, s.link e fromIndex, e.description, depth⟩

/-- The rows of elements, in the order of listings. -/
def elementRows (s : Site) (fromIndex : Bool) (elements : List Element) : List ElementRow :=
  (s.sortElements elements).map (s.elementRow fromIndex 0)

/-- The rows of all elements of a kind, as the index lists them. -/
def indexRows (s : Site) (k : Kind) : List ElementRow :=
  s.elementRows true (s.view.all k s.config.listImports)

/-- The rows of all classes, each below its parent. -/
def treeRows (s : Site) : List ElementRow :=
  s.classTree.filterMap fun (depth, name) =>
    (s.view.class? name).map fun c => s.elementRow true depth (.cls c)

/-- The index. -/
def indexPage (s : Site) : IndexPage where
  header := .ofSchema s.view.root
  classes := if s.config.classTree then s.treeRows else s.indexRows .cls
  slots := s.indexRows .slot
  enums := s.indexRows .enum
  types := s.indexRows .type
  subsets := s.indexRows .subset
  diagram := if s.config.topLevelDiagram then s.diagram? [] else none

/-- The page of a schema, which lists what the schema itself defines. -/
def schemaPage (s : Site) (schema : Schema) : SchemaPage where
  header := .ofSchema schema
  imports := schema.imports
  isRoot := schema.id == s.view.root.id
  classes := s.elementRows false (schema.classes.map .cls)
  slots := s.elementRows false (schema.slots.map .slot)
  enums := s.elementRows false (schema.enums.map .enum)
  types := s.elementRows false (schema.types.map .type)

/-! ## 2. Slots -/

/-- The range of a slot: its own, the schema's default, or `string`. -/
def rangeOf (s : Site) (slot : Slot) : String :=
  (slot.range.or s.view.defaultRange).getD "string"

/-- The ancestors that a class has a slot from; none if it declares the slot itself. -/
def inheritedFrom (s : Site) (slot : Slot) (cls : String) : List String :=
  if slot.domainOf.contains cls then []
  else (s.view.classAncestors cls true false).filter slot.domainOf.contains

/-- The row of a slot as a class has it. -/
def slotRow (s : Site) (cls : String) (slot : Slot) : SlotRow where
  name := s.name (.slot slot)
  link := s.link (.slot slot) false
  cardinality := slot.cardinality
  range := s.linkTo (s.rangeOf slot) false
  description := slot.description
  inheritedFrom := s.links (s.inheritedFrom slot cls)
  valueRange := slot.valueRange

/-- The slots that a class declares, as it has them. -/
def declaredSlots (s : Site) (c : Class) : List Slot :=
  c.directSlotNames.filterMap fun n => s.view.inducedSlot n (some c.name)

/-- The slots of classes whose range has a name. -/
def usages (s : Site) (range : String) : List UsageRow :=
  s.view.merged.classes.flatMap fun c =>
    ((s.declaredSlots c).filter fun slot => s.rangeOf slot == range).map fun slot =>
      ⟨s.link (.cls c) false, s.link (.slot slot) false⟩

/-! ## 3. Elements -/

/-- The definition of an element as YAML. -/
def source (e : Element) : String := Yaml.render e.toValue

/-- What the page of an element shows whatever its kind. -/
def header (s : Site) (e : Element) : ElementHeader where
  kind := e.kind
  name := s.name e
  rawName := e.name
  title := e.title
  description := e.description
  uri := s.uri e true
  curie := s.uri e false
  uriLink := s.uriLink e
  fromSchema := e.fromSchema
  inSubset := s.links e.inSubset
  source := source e

/-- The range that a slot declares, as far as it names a class. -/
def declaredClassRange? (s : Site) (c : Class) (slot : String) : Option String :=
  (((s.view.slot? slot).or (c.attribute? slot)).bind Slot.range).filter fun r =>
    (s.view.class? r).isSome

/-- A class with its parents, its children and the classes that its slots lead to. -/
def neighbourhood (s : Site) (c : Class) : List String :=
  addNew id [] <|
    c.name :: s.view.classParents c.name true true ++ s.view.classChildren c.name true true
      ++ c.directSlotNames.filterMap (s.declaredClassRange? c)

/-- The slots that a class takes from each of its mixins. -/
def mixinSlots (s : Site) (c : Class) : List MixinSlots :=
  (s.view.classParents c.name true false).map fun m =>
    ⟨s.linkTo m false, s.links (s.view.classSlots m)⟩

/-- A class with all slots that apply to it as its own attributes. -/
def inducedClass (s : Site) (c : Class) : Class :=
  { c with slots := [], attributes := s.view.classInducedSlots c.name }

/-- The page of a class, given its examples. -/
def classPage (s : Site) (c : Class) (examples : List Example) : ClassPage where
  header := s.header (.cls c)
  isAbstract := c.isAbstract
  isMixin := c.isMixin
  outline := s.outline (.cls c) true true
  diagram := s.diagram? (s.neighbourhood c)
  slots := (s.view.classInducedSlots c.name).map (s.slotRow c.name)
  mixinSlots := s.mixinSlots c
  usages := s.usages c.name
  rules := c.ruleRows
  examples := examples
  aliases := c.aliases
  comments := c.comments
  seeAlso := c.seeAlso.map s.curieLink
  induced := Yaml.render (s.inducedClass c).toValue

/-- The classes that a slot applies to. -/
def applicableClasses (s : Site) (slot : Slot) : List ApplicableClass :=
  (s.view.merged.classes.filter fun c => (s.view.classSlots c.name).contains slot.name).map fun c =>
    ⟨s.link (.cls c) false, c.description, slot.domainOf.contains c.name⟩

/-- The page of a slot. -/
def slotPage (s : Site) (slot : Slot) : SlotPage where
  header := s.header (.slot slot)
  outline := s.outline (.slot slot) true true
  cardinality := slot.cardinality
  range := s.linkTo (s.rangeOf slot) false
  domain := slot.domain.map fun d => s.linkTo d false
  valueRange := slot.valueRange
  pattern := slot.pattern
  required := slot.isRequired
  recommended := slot.isRecommended
  multivalued := slot.isMultivalued
  identifier := slot.isIdentifier
  applicableClasses := s.applicableClasses slot
  aliases := slot.aliases
  comments := slot.comments

/-- The page of an enumeration. -/
def enumPage (s : Site) (e : Enumeration) : EnumPage where
  header := s.header (.enum e)
  permissibleValues := e.permissibleValues.map fun p =>
    ⟨p.text, p.description, p.meaning.map s.curieLink⟩
  usages := s.usages e.name

/-- The page of a type. -/
def typePage (s : Site) (t : DataType) : TypePage where
  header := s.header (.type t)
  typeOf := t.typeOf.map fun n => s.linkTo n false
  base := t.base
  repr := t.repr
  pattern := t.pattern
  valueRange := boundsText? t.minimumValue t.maximumValue

/-- The elements of a kind in a subset. -/
def members (s : Site) (subset : String) (k : Kind) : List ElementRow :=
  s.elementRows false ((s.view.all k true).filter fun e => e.inSubset.contains subset)

/-- The page of a subset. -/
def subsetPage (s : Site) (t : Subset) : SubsetPage where
  header := s.header (.subset t)
  classes := s.members t.name .cls
  slots := s.members t.name .slot
  enums := s.members t.name .enum
  types := s.members t.name .type

/-! ## 4. Settings -/

/-- What every page may show. -/
def settings (s : Site) : Value :=
  .obj
    [("schema_title", .str s.title), ("format", .str s.config.format.text),
     ("mermaid_directive", .str s.config.mermaidWord),
     ("diagram_type", .ofText? (s.config.diagramType.map DiagramType.text)),
     ("include_top_level_diagram", .bool s.config.topLevelDiagram),
     ("hierarchical_class_view", .bool s.config.classTree),
     ("sort_by", .str s.config.sortBy.text)]

end SchemaPages.Site
