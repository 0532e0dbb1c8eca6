import SchemaPages.View.Elements
/-!
# Views

A view is a root schema together with all schemas that it imports, directly or through others. It
answers by name what the schemas define; an importing schema shadows what it imports.

* `View.ofSchemas`;
* `View.all`: the elements of a kind, with or without imported ones;
* `View.class?` and its kin, `View.element?`, `View.elementOfKind?`: look-ups by name.
-/

namespace SchemaPages

/-- A root schema and its imports, each after the schemas that it imports itself. The two sets of
elements are what these schemas define. -/
structure View where
  root : Schema
  imported : List Schema
  /-- The elements of the root. -/
  own : Elements
  /-- The elements of all schemas. -/
  merged : Elements
  merged_eq : merged =
    (Elements.ofSchemas (root :: imported.reverse)).withDomains
      (Elements.ofSchemas (root :: imported.reverse)).classes
  own_eq : own =
    (Elements.ofSchemas [root]).withDomains
      (Elements.ofSchemas (root :: imported.reverse)).classes

namespace View

/-- The view of a root and its imports. -/
def ofSchemas (root : Schema) (imported : List Schema) : View :=
  let all := Elements.ofSchemas (root :: imported.reverse)
  { root, imported
    own := (Elements.ofSchemas [root]).withDomains all.classes
    merged := all.withDomains all.classes
    merged_eq := rfl
    own_eq := rfl }

instance : Inhabited View := ⟨ofSchemas {} []⟩

/-! ## 1. Schemas -/

/-- All schemas, the root last. -/
def schemas (v : View) : List Schema := v.imported ++ [v.root]

/-- The names of all schemas, the root's last. -/
def importsClosure (v : View) : List String := v.schemas.map Schema.name

/-- The schema of a name; of several the last. -/
def schema? (v : View) (name : String) : Option Schema :=
  v.schemas.reverse.find? (·.name == name)

/-- The names of all schemas, sorted, each once. -/
def schemaNames (v : View) : List String :=
  (v.schemas.foldl (fun names s => insertSorted s.name () names) []).map (·.1)

/-- The schema that an element names as its own. -/
def schemaOf? (v : View) (e : Element) : Option Schema :=
  match e.fromSchema with
  | some id => v.schemas.find? (·.id == id)
  | none => none

/-- The range of slots that have none. -/
def defaultRange (v : View) : Option String := v.root.defaultRange

/-! ## 2. Elements -/

/-- The elements of the root, or of all schemas. -/
def elements (v : View) (imports : Bool) : Elements := if imports then v.merged else v.own

/-- The elements of a kind. -/
def all (v : View) (kind : Kind) (imports : Bool) : List Element := (v.elements imports).ofKind kind

/-- The class of a name. -/
def class? (v : View) (name : String) : Option Class := v.merged.classes.find? (·.name == name)

/-- The slot of a name. -/
def slot? (v : View) (name : String) : Option Slot := v.merged.slots.find? (·.name == name)

/-- The type of a name. -/
def type? (v : View) (name : String) : Option DataType := v.merged.types.find? (·.name == name)

/-- The enumeration of a name. -/
def enum? (v : View) (name : String) : Option Enumeration := v.merged.enums.find? (·.name == name)

/-- The subset of a name. -/
def subset? (v : View) (name : String) : Option Subset := v.merged.subsets.find? (·.name == name)

/-- The element of a kind and name. -/
def elementOfKind? (v : View) : Kind → String → Option Element
  | .cls, n => (v.class? n).map .cls
  | .slot, n => (v.slot? n).map .slot
  | .type, n => (v.type? n).map .type
  | .enum, n => (v.enum? n).map .enum
  | .subset, n => (v.subset? n).map .subset

/-- The element of a name: a class if there is one, then a slot, a type, an enumeration, a
subset. -/
def element? (v : View) (name : String) : Option Element :=
  [Kind.cls, .slot, .type, .enum, .subset].findSome? fun k => v.elementOfKind? k name

end View

end SchemaPages
