import SchemaPages.Schema.Slot
/-!
# Classes

* `Class`, with its attributes, refinements of slots and rules;
* `Class.directSlotNames`: the slots that a class declares itself.
-/

namespace SchemaPages

/-- A conditional constraint of a class. The conditions are documents of any shape. -/
structure Rule where
  title : Option String := none
  description : Option String := none
  preconditions : Option Value := none
  postconditions : Option Value := none
  elseconditions : Option Value := none
  bidirectional : Bool := false
  deactivated : Bool := false
  deriving Repr, Inhabited

namespace Rule

/-- The fields of a rule. -/
def fields : List (Field Rule) :=
  [field "title" (.optional .text) fun v r => { r with title := v },
   field "description" (.optional .text) fun v r => { r with description := v },
   field "preconditions" (.optional .document) fun v r => { r with preconditions := v },
   field "postconditions" (.optional .document) fun v r => { r with postconditions := v },
   field "elseconditions" (.optional .document) fun v r => { r with elseconditions := v },
   field "bidirectional" .switch fun v r => { r with bidirectional := v },
   field "deactivated" .switch fun v r => { r with deactivated := v }]

/-- Reads a rule. -/
def read : Reader Rule := .record "ClassRule" fields {}

/-- A rule as a value. -/
def toValue (r : Rule) : Value :=
  .obj <| Entry.text? "title" r.title
    ++ Entry.text? "description" r.description
    ++ Entry.ifSome "preconditions" id r.preconditions
    ++ Entry.ifSome "postconditions" id r.postconditions
    ++ Entry.ifSome "elseconditions" id r.elseconditions
    ++ Entry.ifOn "bidirectional" r.bidirectional
    ++ Entry.ifOn "deactivated" r.deactivated

end Rule

/-- A class. -/
structure Class where
  name : String := ""
  title : Option String := none
  description : Option String := none
  aliases : List String := []
  comments : List String := []
  seeAlso : List String := []
  isA : Option String := none
  mixins : List String := []
  slots : List String := []
  attributes : List Slot := []
  slotUsage : List Slot := []
  rules : List Rule := []
  uri : Option String := none
  isAbstract : Bool := false
  isMixin : Bool := false
  treeRoot : Bool := false
  rank : Option Int := none
  inSubset : List String := []
  deprecated : Option String := none
  fromSchema : Option String := none
  deriving Repr, Inhabited

/-- Slots by name, or in a list, or none. -/
def Reader.slots : Reader (List Slot) :=
  .definitions Slot.read {} Slot.name fun name s => { s with name := name }

namespace Class

/-- The fields of a class. -/
def fields : List (Field Class) :=
  [field "name" .text fun v c => { c with name := v },
   field "title" (.optional .text) fun v c => { c with title := v },
   field "description" (.optional .text) fun v c => { c with description := v },
   field "aliases" .texts fun v c => { c with aliases := v },
   field "comments" .texts fun v c => { c with comments := v },
   field "see_also" .texts fun v c => { c with seeAlso := v },
   field "is_a" (.optional .text) fun v c => { c with isA := v },
   field "mixins" .texts fun v c => { c with mixins := v },
   field "slots" .texts fun v c => { c with slots := v },
   field "attributes" .slots fun v c => { c with attributes := v },
   field "slot_usage" .slots fun v c => { c with slotUsage := v },
   field "rules" (.list Rule.read) fun v c => { c with rules := v },
   field "class_uri" (.optional .text) fun v c => { c with uri := v },
   field "abstract" .switch fun v c => { c with isAbstract := v },
   field "mixin" .switch fun v c => { c with isMixin := v },
   field "tree_root" .switch fun v c => { c with treeRoot := v },
   field "rank" (.optional .whole) fun v c => { c with rank := v },
   field "in_subset" .texts fun v c => { c with inSubset := v },
   field "deprecated" (.optional .text) fun v c => { c with deprecated := v },
   field "from_schema" (.optional .text) fun v c => { c with fromSchema := v }]

/-- Reads a class. -/
def read : Reader Class := .record "ClassDefinition" fields {}

/-- A class as a value. -/
def toValue (c : Class) : Value :=
  .obj <| Entry.always "name" (.str c.name)
    ++ Entry.text? "title" c.title
    ++ Entry.text? "description" c.description
    ++ Entry.texts "aliases" c.aliases
    ++ Entry.texts "comments" c.comments
    ++ Entry.texts "see_also" c.seeAlso
    ++ Entry.text? "is_a" c.isA
    ++ Entry.texts "mixins" c.mixins
    ++ Entry.texts "slots" c.slots
    ++ Entry.ifAny "attributes" Slot.toValue c.attributes
    ++ Entry.ifAny "slot_usage" Slot.toValue c.slotUsage
    ++ Entry.ifAny "rules" Rule.toValue c.rules
    ++ Entry.text? "class_uri" c.uri
    ++ Entry.ifOn "abstract" c.isAbstract
    ++ Entry.ifOn "mixin" c.isMixin
    ++ Entry.ifOn "tree_root" c.treeRoot
    ++ Entry.whole? "rank" c.rank
    ++ Entry.texts "in_subset" c.inSubset
    ++ Entry.text? "deprecated" c.deprecated
    ++ Entry.text? "from_schema" c.fromSchema

/-- The names of the slots that the class declares itself: its slots, then its attributes. -/
def directSlotNames (c : Class) : List String :=
  c.slots ++ c.attributes.map Slot.name

/-- The attribute of a name. -/
def attribute? (c : Class) (name : String) : Option Slot :=
  c.attributes.find? (·.name == name)

/-- The refinement of the slot of a name. -/
def usage? (c : Class) (name : String) : Option Slot :=
  c.slotUsage.find? (·.name == name)

end Class

end SchemaPages
