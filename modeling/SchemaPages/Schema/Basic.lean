import SchemaPages.Schema.Element
import SchemaPages.Text.Split
/-!
# Schemas

* `Schema`, with its elements in the order of their declaration;
* `Schema.read`: the schema of a document, which needs a name and an identifier;
* `Schema.stamp`: elements keep the identifier of their schema when schemas are merged.
-/

namespace SchemaPages

/-- A schema. -/
structure Schema where
  id : String := ""
  name : String := ""
  title : Option String := none
  description : Option String := none
  version : Option String := none
  license : Option String := none
  /-- The expansions of prefixes, sorted by prefix. -/
  prefixes : List (String × String) := []
  defaultPrefix : Option String := none
  defaultRange : Option String := none
  imports : List String := []
  classes : List Class := []
  slots : List Slot := []
  types : List DataType := []
  enums : List Enumeration := []
  subsets : List Subset := []
  /-- The file that the schema was read from, if it was read from one. -/
  source : Option String := none
  deriving Repr, Inhabited

namespace Schema

/-- The fields of a schema. -/
def fields : List (Field Schema) :=
  [field "id" .text fun v s => { s with id := v },
   field "name" .text fun v s => { s with name := v },
   field "title" (.optional .text) fun v s => { s with title := v },
   field "description" (.optional .text) fun v s => { s with description := v },
   field "version" (.optional .text) fun v s => { s with version := v },
   field "license" (.optional .text) fun v s => { s with license := v },
   field "prefixes" .expansions fun v s => { s with prefixes := v },
   field "default_prefix" (.optional .text) fun v s => { s with defaultPrefix := v },
   field "default_range" (.optional .text) fun v s => { s with defaultRange := v },
   field "imports" .texts fun v s => { s with imports := v },
   field "classes" (.definitions Class.read {} Class.name fun n c => { c with name := n })
     fun v s => { s with classes := v },
   field "slots" .slots fun v s => { s with slots := v },
   field "types" (.definitions DataType.read {} DataType.name fun n t => { t with name := n })
     fun v s => { s with types := v },
   field "enums" (.definitions Enumeration.read {} Enumeration.name fun n e => { e with name := n })
     fun v s => { s with enums := v },
   field "subsets" (.definitions Subset.read {} Subset.name fun n t => { t with name := n })
     fun v s => { s with subsets := v }]

/-- A schema as a value. -/
def toValue (s : Schema) : Value :=
  .obj <| Entry.always "id" (.str s.id)
    ++ Entry.always "name" (.str s.name)
    ++ Entry.text? "title" s.title
    ++ Entry.text? "description" s.description
    ++ Entry.text? "version" s.version
    ++ Entry.text? "license" s.license
    ++ (if s.prefixes = [] then []
        else [("prefixes", .obj (s.prefixes.map fun (k, e) => (k, .str e)))])
    ++ Entry.text? "default_prefix" s.defaultPrefix
    ++ Entry.text? "default_range" s.defaultRange
    ++ Entry.texts "imports" s.imports
    ++ Entry.ifAny "classes" Class.toValue s.classes
    ++ Entry.ifAny "slots" Slot.toValue s.slots
    ++ Entry.ifAny "types" DataType.toValue s.types
    ++ Entry.ifAny "enums" Enumeration.toValue s.enums
    ++ Entry.ifAny "subsets" Subset.toValue s.subsets

/-- The prefix of elements that declare no URI. -/
def mintingPrefix (s : Schema) : String := s.defaultPrefix.getD s.name

/-- Gives every element without a schema the identifier of this one. -/
def stamp (s : Schema) : Schema :=
  let origin (o : Option String) : Option String := o.or (some s.id)
  let slot (t : Slot) : Slot := { t with fromSchema := origin t.fromSchema }
  { s with
    classes := s.classes.map fun c =>
      { c with fromSchema := origin c.fromSchema, attributes := c.attributes.map slot }
    slots := s.slots.map slot
    types := s.types.map fun t => { t with fromSchema := origin t.fromSchema }
    enums := s.enums.map fun e => { e with fromSchema := origin e.fromSchema }
    subsets := s.subsets.map fun t => { t with fromSchema := origin t.fromSchema } }

/-- Why a document is no schema. -/
inductive Invalid where
  | noMapping
  | malformed (e : DecodeError)
  | noName
  | noId
  deriving Repr

/-- The reason in words. -/
def Invalid.reason : Invalid → String
  | .noMapping => "Schema must be a mapping at the root level"
  | .malformed e => "Invalid schema: " ++ e.message
  | .noName => "Schema must declare a 'name'"
  | .noId => "Schema must declare an 'id'"

/-- Whether a text has nothing but white space. -/
def isBlankText (s : String) : Bool := s.toList.all Text.isBlank

/-- The schema of a document. -/
def read (v : Value) : Except Invalid Schema := do
  match v with
  | .obj _ => pure ()
  | _ => throw .noMapping
  let s ← (Reader.record "SchemaDefinition" fields {} v).mapError .malformed
  if isBlankText s.name then throw .noName
  if isBlankText s.id then throw .noId
  return s.stamp

end Schema

end SchemaPages
