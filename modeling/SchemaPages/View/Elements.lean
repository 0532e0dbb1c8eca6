import SchemaPages.Schema.Basic
/-!
# Merged elements

The elements of several schemas, kind by kind. The first definition of a name wins; the attributes
of a schema's classes come after the slots that the schema itself defines.

* `Elements.ofSchemas`;
* `Elements.withDomains`: every slot learns which classes declare it.
-/

namespace SchemaPages

/-- Elements by kind. -/
structure Elements where
  classes : List Class := []
  slots : List Slot := []
  types : List DataType := []
  enums : List Enumeration := []
  subsets : List Subset := []
  deriving Repr, Inhabited

/-- Adds the items whose name is not there yet. -/
def addNew {α : Type} (name : α → String) (found items : List α) : List α :=
  items.foldl (fun found a => if found.any (name · == name a) then found else found ++ [a]) found

/-- The classes that declare the slot of a name. -/
def declaringClasses (classes : List Class) (slot : String) : List String :=
  (classes.filter (·.directSlotNames.contains slot)).map Class.name

namespace Elements

/-- Adds the elements of one schema. -/
def addSchema (e : Elements) (s : Schema) : Elements where
  classes := addNew Class.name e.classes s.classes
  slots :=
    s.classes.foldl (fun slots c => addNew Slot.name slots c.attributes)
      (addNew Slot.name e.slots s.slots)
  types := addNew DataType.name e.types s.types
  enums := addNew Enumeration.name e.enums s.enums
  subsets := addNew Subset.name e.subsets s.subsets

/-- The elements of schemas, of which earlier ones come first. -/
def ofSchemas (schemas : List Schema) : Elements := schemas.foldl addSchema {}

/-- The same elements with the declaring classes noted on each slot. -/
def withDomains (e : Elements) (classes : List Class) : Elements :=
  { e with slots := e.slots.map fun s => { s with domainOf := declaringClasses classes s.name } }

/-- The elements of one kind. -/
def ofKind (e : Elements) : Kind → List Element
  | .cls => e.classes.map .cls
  | .slot => e.slots.map .slot
  | .type => e.types.map .type
  | .enum => e.enums.map .enum
  | .subset => e.subsets.map .subset

end Elements

end SchemaPages
