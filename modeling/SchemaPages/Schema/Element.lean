import SchemaPages.Schema.Class
import SchemaPages.Schema.Terminal
/-!
# Elements

What classes, slots, types, enumerations and subsets have in common.
-/

namespace SchemaPages

/-- The kinds of element. -/
inductive Kind where
  | cls
  | slot
  | type
  | enum
  | subset
  deriving DecidableEq, Repr, Inhabited

namespace Kind

/-- All kinds, in the order in which their pages come. -/
def all : List Kind := [.cls, .slot, .enum, .type, .subset]

/-- The short name of a kind. -/
def text : Kind → String
  | .cls => "class"
  | .slot => "slot"
  | .type => "type"
  | .enum => "enum"
  | .subset => "subset"

/-- The folder of a kind where pages are kept apart by kind. -/
def folder : Kind → String
  | .cls => "classes"
  | .slot => "slots"
  | .type => "types"
  | .enum => "enums"
  | .subset => "subsets"

/-- The kinds by name, in the order in which messages list them. -/
def choices : List (String × Kind) :=
  [Kind.cls, .slot, .type, .enum, .subset].map fun k => (k.text, k)

end Kind

/-- An element of a schema. -/
inductive Element where
  | cls (c : Class)
  | slot (s : Slot)
  | type (t : DataType)
  | enum (e : Enumeration)
  | subset (s : Subset)
  deriving Repr, Inhabited

namespace Element

/-- The kind of an element. -/
def kind : Element → Kind
  | .cls _ => .cls
  | .slot _ => .slot
  | .type _ => .type
  | .enum _ => .enum
  | .subset _ => .subset

/-- The name that a schema gives the element. -/
def name : Element → String
  | .cls c => c.name
  | .slot s => s.name
  | .type t => t.name
  | .enum e => e.name
  | .subset s => s.name

/-- The title, if set. -/
def title : Element → Option String
  | .cls c => c.title
  | .slot s => s.title
  | .type t => t.title
  | .enum e => e.title
  | .subset s => s.title

/-- The description, if set. -/
def description : Element → Option String
  | .cls c => c.description
  | .slot s => s.description
  | .type t => t.description
  | .enum e => e.description
  | .subset s => s.description

/-- The rank, if set. -/
def rank : Element → Option Int
  | .cls c => c.rank
  | .slot s => s.rank
  | .type t => t.rank
  | .enum e => e.rank
  | .subset s => s.rank

/-- The parent; only classes, slots and types have one. -/
def isA : Element → Option String
  | .cls c => c.isA
  | .slot s => s.isA
  | .type t => t.typeOf
  | .enum _ => none
  | .subset _ => none

/-- The mixins; only classes and slots have some. -/
def mixins : Element → List String
  | .cls c => c.mixins
  | .slot s => s.mixins
  | _ => []

/-- The URI that the schema declares, if any. -/
def declaredUri : Element → Option String
  | .cls c => c.uri
  | .slot s => s.uri
  | .type t => t.uri
  | .enum e => e.uri
  | .subset _ => none

/-- The identifier of the schema that defines the element. -/
def fromSchema : Element → Option String
  | .cls c => c.fromSchema
  | .slot s => s.fromSchema
  | .type t => t.fromSchema
  | .enum e => e.fromSchema
  | .subset s => s.fromSchema

/-- The subsets that the element declares to be in. -/
def inSubset : Element → List String
  | .cls c => c.inSubset
  | .slot s => s.inSubset
  | .type t => t.inSubset
  | .enum e => e.inSubset
  | .subset _ => []

/-- The definition of an element as a value. -/
def toValue : Element → Value
  | .cls c => c.toValue
  | .slot s => s.toValue
  | .type t => t.toValue
  | .enum e => e.toValue
  | .subset s => s.toValue

end Element

end SchemaPages
