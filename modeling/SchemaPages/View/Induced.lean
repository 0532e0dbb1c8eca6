import SchemaPages.View.Ancestry
/-!
# Induced definitions

A slot or type with everything that it takes from elsewhere.

* `inducedSlot`: the nearest attribute or the global slot, filled from the slot's parents, refined
  by the classes from the most distant one to the class itself;
* `inducedType`: a type filled along its chain of types.
-/

namespace SchemaPages.View

/-- The definition that an induced slot starts from: the nearest attribute among the classes, or
the global slot. -/
def baseSlot? (v : View) (name : String) (ancestors : List String) : Option Slot :=
  ((ancestors.filterMap v.class?).findSome? (·.attribute? name)).or (v.slot? name)

/-- The refinements of a slot in the classes, in the order of the classes. -/
def usages (v : View) (name : String) (ancestors : List String) : List Slot :=
  ancestors.filterMap fun a => (v.class? a).bind (·.usage? name)

/-- A slot as a class sees it, or as it is apart from any class. -/
def inducedSlot (v : View) (name : String) (cls : Option String) : Option Slot := do
  let ancestors := match cls with
    | some c => v.classAncestors c true true
    | none => []
  let base ← v.baseSlot? name ancestors
  let filled := ((v.slotAncestors name true false).filterMap v.slot?).foldl Slot.inheritFrom base
  let refined := (v.usages name ancestors).reverse.foldl Slot.overlay filled
  return { refined with
    range := refined.range.or v.defaultRange
    domainOf := match v.slot? name with
      | some global => global.domainOf
      | none => refined.domainOf }

/-- The slots that apply to a class, as the class sees them. -/
def classInducedSlots (v : View) (cls : String) : List Slot :=
  (v.classSlots cls).filterMap fun s => v.inducedSlot s (some cls)

/-- The types above a type, nearest first. -/
def typeChain (v : View) (t : DataType) (name : String) : List DataType :=
  (Walk.chain v.type? DataType.typeOf (v.merged.types.map DataType.name) [name] t.typeOf).filterMap
    (·.2)

/-- A type with what it does not set taken from the types above it. -/
def inducedType (v : View) (name : String) : Option DataType :=
  (v.type? name).map fun t => (v.typeChain t name).foldl DataType.fillFrom t

end SchemaPages.View
