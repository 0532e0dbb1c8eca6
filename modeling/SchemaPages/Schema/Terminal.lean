import SchemaPages.Data.Decode
import SchemaPages.Data.Encode
/-!
# Types, enumerations and subsets

The definitions that hold no slots.
-/

namespace SchemaPages

/-- A type of plain values. -/
structure DataType where
  name : String := ""
  title : Option String := none
  description : Option String := none
  typeOf : Option String := none
  uri : Option String := none
  base : Option String := none
  repr : Option String := none
  pattern : Option String := none
  minimumValue : Option Number := none
  maximumValue : Option Number := none
  rank : Option Int := none
  inSubset : List String := []
  fromSchema : Option String := none
  deriving DecidableEq, Repr, Inhabited

namespace DataType

/-- The fields of a type. -/
def fields : List (Field DataType) :=
  [field "name" .text fun v t => { t with name := v },
   field "title" (.optional .text) fun v t => { t with title := v },
   field "description" (.optional .text) fun v t => { t with description := v },
   field "typeof" (.optional .text) fun v t => { t with typeOf := v },
   field "uri" (.optional .text) fun v t => { t with uri := v },
   field "base" (.optional .text) fun v t => { t with base := v },
   field "repr" (.optional .text) fun v t => { t with repr := v },
   field "pattern" (.optional .text) fun v t => { t with pattern := v },
   field "minimum_value" (.optional .number) fun v t => { t with minimumValue := v },
   field "maximum_value" (.optional .number) fun v t => { t with maximumValue := v },
   field "rank" (.optional .whole) fun v t => { t with rank := v },
   field "in_subset" .texts fun v t => { t with inSubset := v },
   field "from_schema" (.optional .text) fun v t => { t with fromSchema := v }]

/-- Reads a type. -/
def read : Reader DataType := .record "TypeDefinition" fields {}

/-- A type as a value. -/
def toValue (t : DataType) : Value :=
  .obj <| Entry.always "name" (.str t.name)
    ++ Entry.text? "title" t.title
    ++ Entry.text? "description" t.description
    ++ Entry.text? "typeof" t.typeOf
    ++ Entry.text? "uri" t.uri
    ++ Entry.text? "base" t.base
    ++ Entry.text? "repr" t.repr
    ++ Entry.text? "pattern" t.pattern
    ++ Entry.number? "minimum_value" t.minimumValue
    ++ Entry.number? "maximum_value" t.maximumValue
    ++ Entry.whole? "rank" t.rank
    ++ Entry.texts "in_subset" t.inSubset
    ++ Entry.text? "from_schema" t.fromSchema

/-- Takes from a type what is not set: the URI, the representations, the pattern and the bounds. -/
def fillFrom (t ancestor : DataType) : DataType :=
  { t with
    uri := t.uri.or ancestor.uri
    base := t.base.or ancestor.base
    repr := t.repr.or ancestor.repr
    pattern := t.pattern.or ancestor.pattern
    minimumValue := t.minimumValue.or ancestor.minimumValue
    maximumValue := t.maximumValue.or ancestor.maximumValue }

end DataType

/-- A value that an enumeration permits. -/
structure PermissibleValue where
  text : String := ""
  description : Option String := none
  meaning : Option String := none
  deriving DecidableEq, Repr, Inhabited

namespace PermissibleValue

/-- The fields of a permissible value. -/
def fields : List (Field PermissibleValue) :=
  [field "text" .text fun v p => { p with text := v },
   field "description" (.optional .text) fun v p => { p with description := v },
   field "meaning" (.optional .text) fun v p => { p with meaning := v }]

/-- Reads a permissible value. -/
def read : Reader PermissibleValue := .record "PermissibleValue" fields {}

/-- A permissible value as a value. -/
def toValue (p : PermissibleValue) : Value :=
  .obj <| Entry.always "text" (.str p.text)
    ++ Entry.text? "description" p.description
    ++ Entry.text? "meaning" p.meaning

end PermissibleValue

/-- An enumeration. -/
structure Enumeration where
  name : String := ""
  title : Option String := none
  description : Option String := none
  uri : Option String := none
  permissibleValues : List PermissibleValue := []
  rank : Option Int := none
  inSubset : List String := []
  fromSchema : Option String := none
  deriving DecidableEq, Repr, Inhabited

namespace Enumeration

/-- The fields of an enumeration. -/
def fields : List (Field Enumeration) :=
  [field "name" .text fun v e => { e with name := v },
   field "title" (.optional .text) fun v e => { e with title := v },
   field "description" (.optional .text) fun v e => { e with description := v },
   field "enum_uri" (.optional .text) fun v e => { e with uri := v },
   field "permissible_values"
     (.definitions PermissibleValue.read {} PermissibleValue.text fun n p => { p with text := n })
     fun v e => { e with permissibleValues := v },
   field "rank" (.optional .whole) fun v e => { e with rank := v },
   field "in_subset" .texts fun v e => { e with inSubset := v },
   field "from_schema" (.optional .text) fun v e => { e with fromSchema := v }]

/-- Reads an enumeration. -/
def read : Reader Enumeration := .record "EnumDefinition" fields {}

/-- An enumeration as a value. -/
def toValue (e : Enumeration) : Value :=
  .obj <| Entry.always "name" (.str e.name)
    ++ Entry.text? "title" e.title
    ++ Entry.text? "description" e.description
    ++ Entry.text? "enum_uri" e.uri
    ++ Entry.ifAny "permissible_values" PermissibleValue.toValue e.permissibleValues
    ++ Entry.whole? "rank" e.rank
    ++ Entry.texts "in_subset" e.inSubset
    ++ Entry.text? "from_schema" e.fromSchema

end Enumeration

/-- A named group of elements. -/
structure Subset where
  name : String := ""
  title : Option String := none
  description : Option String := none
  rank : Option Int := none
  fromSchema : Option String := none
  deriving DecidableEq, Repr, Inhabited

namespace Subset

/-- The fields of a subset. -/
def fields : List (Field Subset) :=
  [field "name" .text fun v s => { s with name := v },
   field "title" (.optional .text) fun v s => { s with title := v },
   field "description" (.optional .text) fun v s => { s with description := v },
   field "rank" (.optional .whole) fun v s => { s with rank := v },
   field "from_schema" (.optional .text) fun v s => { s with fromSchema := v }]

/-- Reads a subset. -/
def read : Reader Subset := .record "SubsetDefinition" fields {}

/-- A subset as a value. -/
def toValue (s : Subset) : Value :=
  .obj <| Entry.always "name" (.str s.name)
    ++ Entry.text? "title" s.title
    ++ Entry.text? "description" s.description
    ++ Entry.whole? "rank" s.rank
    ++ Entry.text? "from_schema" s.fromSchema

end Subset

end SchemaPages
