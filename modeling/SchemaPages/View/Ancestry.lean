import SchemaPages.View.Basic
import SchemaPages.View.Walk
/-!
# Ancestry

Who inherits from whom, and which slots a class has.

* `classParents`, `classChildren`, `classRoots`, `slotParents`, `slotChildren`;
* `classAncestors`, `slotAncestors`: everything above, nearest branch first, each name once;
* `classSlots`: the slots that apply to a class, its own first.
-/

namespace SchemaPages.View

/-- The parents of a class: the class it is a kind of, then its mixins. -/
def classParents (v : View) (name : String) (mixins isA : Bool) : List String :=
  match v.class? name with
  | none => []
  | some c => (if isA then c.isA.toList else []) ++ (if mixins then c.mixins else [])

/-- The classes that name a class as a parent. -/
def classChildren (v : View) (name : String) (mixins imports : Bool) : List String :=
  ((v.elements imports).classes.filter fun c =>
    c.isA == some name || mixins && c.mixins.contains name).map Class.name

/-- The classes without a parent among the selected ones. -/
def classRoots (v : View) (mixins imports : Bool) : List String :=
  let names := (v.elements imports).classes.map Class.name
  names.filter fun n => (v.classParents n mixins true).all fun p => !names.contains p

/-- The parents of a slot. -/
def slotParents (v : View) (name : String) (mixins : Bool) : List String :=
  match v.slot? name with
  | none => []
  | some s => s.isA.toList ++ (if mixins then s.mixins else [])

/-- The slots that name a slot as a parent. -/
def slotChildren (v : View) (name : String) (mixins : Bool) : List String :=
  (v.merged.slots.filter fun s =>
    s.isA == some name || mixins && s.mixins.contains name).map Slot.name

/-- Everything above a name, given the parents of names; the name itself comes first if wanted and
nowhere else. -/
def ancestorsBy (parents : String → List String) (nodes : List String) (start : String)
    (reflexive : Bool) : List String :=
  (if reflexive then [start] else []) ++ Walk.preorder id parents nodes [start] (parents start)

/-- The ancestors of a class. -/
def classAncestors (v : View) (name : String) (mixins reflexive : Bool) : List String :=
  ancestorsBy (fun n => v.classParents n mixins true) (v.merged.classes.map Class.name) name reflexive

/-- The ancestors of a slot. -/
def slotAncestors (v : View) (name : String) (mixins reflexive : Bool) : List String :=
  ancestorsBy (fun n => v.slotParents n mixins) (v.merged.slots.map Slot.name) name reflexive

/-- The slots that apply to a class: its own first, then those of its ancestors. -/
def classSlots (v : View) (name : String) : List String :=
  addNew id [] <|
    ((v.classAncestors name true true).filterMap v.class?).flatMap Class.directSlotNames

end SchemaPages.View
