import SchemaPages.Data.Decode
import SchemaPages.Data.Encode
/-!
# Slots

A slot is a property that classes may have. The same record stands for a slot of the schema, for an
attribute of one class and for a refinement of a slot in a class.

* `Slot.read`, `Slot.entries`: slots as values;
* `Slot.overlay`: what a refinement changes;
* `Slot.inheritFrom`: what a slot takes from a parent.
-/

namespace SchemaPages

/-- A slot. What is `none` or empty is not set. -/
structure Slot where
  name : String := ""
  title : Option String := none
  description : Option String := none
  aliases : List String := []
  comments : List String := []
  isA : Option String := none
  mixins : List String := []
  uri : Option String := none
  range : Option String := none
  domain : Option String := none
  required : Option Bool := none
  recommended : Option Bool := none
  multivalued : Option Bool := none
  identifier : Option Bool := none
  key : Option Bool := none
  inlined : Option Bool := none
  minimumCardinality : Option Nat := none
  maximumCardinality : Option Nat := none
  exactCardinality : Option Nat := none
  minimumValue : Option Number := none
  maximumValue : Option Number := none
  pattern : Option String := none
  rank : Option Int := none
  inSubset : List String := []
  deprecated : Option String := none
  fromSchema : Option String := none
  /-- The classes that declare the slot, known once schemas are merged. -/
  domainOf : List String := []
  deriving DecidableEq, Repr, Inhabited

namespace Slot

/-! ## 1. Slots as values -/

/-- The fields of a slot, in the order in which a list gives them. -/
def fields : List (Field Slot) :=
  [field "name" .text fun v s => { s with name := v },
   field "title" (.optional .text) fun v s => { s with title := v },
   field "description" (.optional .text) fun v s => { s with description := v },
   field "aliases" .texts fun v s => { s with aliases := v },
   field "comments" .texts fun v s => { s with comments := v },
   field "is_a" (.optional .text) fun v s => { s with isA := v },
   field "mixins" .texts fun v s => { s with mixins := v },
   field "slot_uri" (.optional .text) fun v s => { s with uri := v },
   field "range" (.optional .text) fun v s => { s with range := v },
   field "domain" (.optional .text) fun v s => { s with domain := v },
   field "required" (.optional .switch) fun v s => { s with required := v },
   field "recommended" (.optional .switch) fun v s => { s with recommended := v },
   field "multivalued" (.optional .switch) fun v s => { s with multivalued := v },
   field "identifier" (.optional .switch) fun v s => { s with identifier := v },
   field "key" (.optional .switch) fun v s => { s with key := v },
   field "inlined" (.optional .switch) fun v s => { s with inlined := v },
   field "minimum_cardinality" (.optional .natural) fun v s => { s with minimumCardinality := v },
   field "maximum_cardinality" (.optional .natural) fun v s => { s with maximumCardinality := v },
   field "exact_cardinality" (.optional .natural) fun v s => { s with exactCardinality := v },
   field "minimum_value" (.optional .number) fun v s => { s with minimumValue := v },
   field "maximum_value" (.optional .number) fun v s => { s with maximumValue := v },
   field "pattern" (.optional .text) fun v s => { s with pattern := v },
   field "rank" (.optional .whole) fun v s => { s with rank := v },
   field "in_subset" .texts fun v s => { s with inSubset := v },
   field "deprecated" (.optional .text) fun v s => { s with deprecated := v },
   field "from_schema" (.optional .text) fun v s => { s with fromSchema := v }]

/-- Reads a slot. -/
def read : Reader Slot := .record "SlotDefinition" fields {}

/-- The entries of a slot: its name and what is set. -/
def entries (s : Slot) : List (String × Value) :=
  Entry.always "name" (.str s.name)
    ++ Entry.text? "title" s.title
    ++ Entry.text? "description" s.description
    ++ Entry.texts "aliases" s.aliases
    ++ Entry.texts "comments" s.comments
    ++ Entry.text? "is_a" s.isA
    ++ Entry.texts "mixins" s.mixins
    ++ Entry.text? "slot_uri" s.uri
    ++ Entry.text? "range" s.range
    ++ Entry.text? "domain" s.domain
    ++ Entry.switch? "required" s.required
    ++ Entry.switch? "recommended" s.recommended
    ++ Entry.switch? "multivalued" s.multivalued
    ++ Entry.switch? "identifier" s.identifier
    ++ Entry.switch? "key" s.key
    ++ Entry.switch? "inlined" s.inlined
    ++ Entry.natural? "minimum_cardinality" s.minimumCardinality
    ++ Entry.natural? "maximum_cardinality" s.maximumCardinality
    ++ Entry.natural? "exact_cardinality" s.exactCardinality
    ++ Entry.number? "minimum_value" s.minimumValue
    ++ Entry.number? "maximum_value" s.maximumValue
    ++ Entry.text? "pattern" s.pattern
    ++ Entry.whole? "rank" s.rank
    ++ Entry.texts "in_subset" s.inSubset
    ++ Entry.text? "deprecated" s.deprecated
    ++ Entry.text? "from_schema" s.fromSchema

/-- A slot as a value. -/
def toValue (s : Slot) : Value := .obj s.entries

/-- A slot as a value, with the classes that declare it. -/
def toValueWithDomains (s : Slot) : Value :=
  .obj (s.entries ++ Entry.always "domain_of" (.ofTexts s.domainOf))

/-! ## 2. Switches -/

/-- Whether a value is required. -/
def isRequired (s : Slot) : Bool := s.required.getD false

/-- Whether a value is recommended. -/
def isRecommended (s : Slot) : Bool := s.recommended.getD false

/-- Whether there may be several values. -/
def isMultivalued (s : Slot) : Bool := s.multivalued.getD false

/-- Whether the value identifies its object. -/
def isIdentifier (s : Slot) : Bool := s.identifier.getD false

/-! ## 3. Merging -/

/-- The first list unless it is empty. -/
def orList (l m : List String) : List String := if l = [] then m else l

/-- Sets everything that the refinement sets and keeps the rest. A refinement changes neither the
name nor the schema of a slot. -/
def overlay (s refinement : Slot) : Slot :=
  { s with
    title := refinement.title.or s.title
    description := refinement.description.or s.description
    aliases := orList refinement.aliases s.aliases
    comments := orList refinement.comments s.comments
    isA := refinement.isA.or s.isA
    mixins := orList refinement.mixins s.mixins
    uri := refinement.uri.or s.uri
    range := refinement.range.or s.range
    domain := refinement.domain.or s.domain
    required := refinement.required.or s.required
    recommended := refinement.recommended.or s.recommended
    multivalued := refinement.multivalued.or s.multivalued
    identifier := refinement.identifier.or s.identifier
    key := refinement.key.or s.key
    inlined := refinement.inlined.or s.inlined
    minimumCardinality := refinement.minimumCardinality.or s.minimumCardinality
    maximumCardinality := refinement.maximumCardinality.or s.maximumCardinality
    exactCardinality := refinement.exactCardinality.or s.exactCardinality
    minimumValue := refinement.minimumValue.or s.minimumValue
    maximumValue := refinement.maximumValue.or s.maximumValue
    pattern := refinement.pattern.or s.pattern
    rank := refinement.rank.or s.rank
    inSubset := orList refinement.inSubset s.inSubset
    deprecated := refinement.deprecated.or s.deprecated }

/-- Takes from a parent what is inheritable and not set: the range and domain, the switches, the
cardinalities, the bounds and the pattern. -/
def inheritFrom (s parent : Slot) : Slot :=
  { s with
    range := s.range.or parent.range
    domain := s.domain.or parent.domain
    required := s.required.or parent.required
    recommended := s.recommended.or parent.recommended
    multivalued := s.multivalued.or parent.multivalued
    identifier := s.identifier.or parent.identifier
    key := s.key.or parent.key
    inlined := s.inlined.or parent.inlined
    minimumCardinality := s.minimumCardinality.or parent.minimumCardinality
    maximumCardinality := s.maximumCardinality.or parent.maximumCardinality
    exactCardinality := s.exactCardinality.or parent.exactCardinality
    minimumValue := s.minimumValue.or parent.minimumValue
    maximumValue := s.maximumValue.or parent.maximumValue
    pattern := s.pattern.or parent.pattern }

end Slot

end SchemaPages
