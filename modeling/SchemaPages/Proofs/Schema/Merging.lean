import SchemaPages.Schema.Slot
/-!
# Slots merged

A slot may set values of some twenty kinds. A refinement puts its values in place of those of the
slot; a parent gives values of the inheritable kinds where the slot has none. Over several steps the
first value counts: that of the last refinement, and that of the first parent.

* `Slot.Setting`, `Slot.Setting.value?`: what a slot may set, and what it has set;
* `Setting.value?_overlay`, `Setting.value?_inheritFrom`: one step, for every setting;
* `Step`, `mergeAll`, `Setting.value?_mergeAll`: any number of steps, in any order;
* `Setting.value?_filled_refined`: parents first and refinements after them.
-/

namespace SchemaPages.Slot

/-! ## 1. Settings -/

/-- What a slot may set, by the type of its values: all but the name, the schema and the classes that
    declare the slot. -/
inductive Setting : Type → Type where
  | title : Setting String
  | description : Setting String
  | aliases : Setting (List String)
  | comments : Setting (List String)
  | isA : Setting String
  | mixins : Setting (List String)
  | uri : Setting String
  | range : Setting String
  | domain : Setting String
  | required : Setting Bool
  | recommended : Setting Bool
  | multivalued : Setting Bool
  | identifier : Setting Bool
  | key : Setting Bool
  | inlined : Setting Bool
  | minimumCardinality : Setting Nat
  | maximumCardinality : Setting Nat
  | exactCardinality : Setting Nat
  | minimumValue : Setting Number
  | maximumValue : Setting Number
  | pattern : Setting String
  | rank : Setting Int
  | inSubset : Setting (List String)
  | deprecated : Setting String

/-- A list as something that is set unless it is empty. -/
def listed (l : List String) : Option (List String) := if l = [] then none else some l

theorem listed_orList (l m : List String) : listed (orList l m) = (listed l).or (listed m) := by
  by_cases h : l = []
  · rw [h]
    rfl
  · rw [orList, if_neg h, listed, if_neg h]
    rfl

namespace Setting

variable {α : Type}

/-- What a slot has set. -/
def value? : Setting α → Slot → Option α
  | title, s => s.title
  | description, s => s.description
  | aliases, s => listed s.aliases
  | comments, s => listed s.comments
  | isA, s => s.isA
  | mixins, s => listed s.mixins
  | uri, s => s.uri
  | range, s => s.range
  | domain, s => s.domain
  | required, s => s.required
  | recommended, s => s.recommended
  | multivalued, s => s.multivalued
  | identifier, s => s.identifier
  | key, s => s.key
  | inlined, s => s.inlined
  | minimumCardinality, s => s.minimumCardinality
  | maximumCardinality, s => s.maximumCardinality
  | exactCardinality, s => s.exactCardinality
  | minimumValue, s => s.minimumValue
  | maximumValue, s => s.maximumValue
  | pattern, s => s.pattern
  | rank, s => s.rank
  | inSubset, s => listed s.inSubset
  | deprecated, s => s.deprecated

/-- Whether a slot takes the value from its parents: not what describes the slot, nor where it stands
    in the schema. -/
def inheritable : Setting α → Bool
  | title | description | aliases | comments | isA | mixins | uri | rank | inSubset | deprecated =>
    false
  | _ => true

/-! ## 2. One step -/

/-- **A refinement puts its values in place of those of the slot.** -/
theorem value?_overlay (f : Setting α) (s refinement : Slot) :
    f.value? (s.overlay refinement) = (f.value? refinement).or (f.value? s) := by
  cases f
  case aliases | comments | mixins | inSubset => exact listed_orList _ _
  all_goals rfl

/-- **A parent gives what is inheritable and not set.** -/
theorem value?_inheritFrom (f : Setting α) (s parent : Slot) :
    f.value? (s.inheritFrom parent) =
      if f.inheritable then (f.value? s).or (f.value? parent) else f.value? s := by
  cases f <;> rfl

end Setting

/-! ## 3. Any number of steps -/

/-- A step of merging: a refinement is laid over the slot, or a parent gives it what it lacks. -/
inductive Step where
  | overlay (refinement : Slot)
  | inherit (parent : Slot)
  deriving DecidableEq, Repr

namespace Step

/-- The slot of a step if it is a refinement. -/
def refinement? : Step → Option Slot
  | overlay r => some r
  | inherit _ => none

/-- The slot of a step if it is a parent. -/
def parent? : Step → Option Slot
  | overlay _ => none
  | inherit p => some p

end Step

/-- A slot after a step. -/
def merge (s : Slot) : Step → Slot
  | .overlay r => s.overlay r
  | .inherit p => s.inheritFrom p

/-- A slot after any number of steps. -/
def mergeAll (s : Slot) (steps : List Step) : Slot := steps.foldl merge s

theorem mergeAll_append (s : Slot) (front back : List Step) :
    s.mergeAll (front ++ back) = (s.mergeAll front).mergeAll back := List.foldl_append

/-- Parents and then refinements, as steps. -/
theorem foldl_overlay_foldl_inheritFrom (s : Slot) (parents refinements : List Slot) :
    refinements.foldl overlay (parents.foldl inheritFrom s) =
      s.mergeAll (parents.map .inherit ++ refinements.map .overlay) := by
  rw [mergeAll, List.foldl_append, List.foldl_map, List.foldl_map]
  rfl

namespace Setting

variable {α : Type}

/-- **Which value counts after any number of steps**: that of the last refinement that has one, then
    that of the slot itself, then, if it is inheritable, that of the first parent that has one. How
    refinements and parents follow each other does not matter. -/
theorem value?_mergeAll (f : Setting α) (s : Slot) (steps : List Step) :
    f.value? (s.mergeAll steps) =
      ((steps.filterMap Step.refinement?).reverse.findSome? f.value?).or
        ((f.value? s).or
          (if f.inheritable then (steps.filterMap Step.parent?).findSome? f.value? else none)) := by
  induction steps generalizing s with
  | nil => simp [mergeAll]
  | cons step rest ih =>
      rw [mergeAll, List.foldl_cons, ← mergeAll, ih]
      cases step with
      | overlay r =>
          simp only [List.filterMap_cons, Step.refinement?, Step.parent?, merge, value?_overlay,
            List.reverse_cons, List.findSome?_append, List.findSome?_cons, List.findSome?_nil,
            Option.or_assoc]
          cases f.value? r <;> simp
      | inherit p =>
          simp only [List.filterMap_cons, Step.refinement?, Step.parent?, merge, value?_inheritFrom,
            List.findSome?_cons]
          by_cases taken : f.inheritable = true
          · simp only [taken, if_true, Option.or_assoc]
            cases f.value? p <;> simp
          · simp only [taken, if_false, Bool.false_eq_true]

/-- **Which value counts behind parents and refinements**: that of the last refinement, of the slot,
    and of the first parent. -/
theorem value?_filled_refined (f : Setting α) (s : Slot) (parents refinements : List Slot) :
    f.value? (refinements.reverse.foldl overlay (parents.foldl inheritFrom s)) =
      (refinements.findSome? f.value?).or
        ((f.value? s).or (if f.inheritable then parents.findSome? f.value? else none)) := by
  have onlyRefinements : (parents.map Step.inherit ++ refinements.reverse.map Step.overlay).filterMap
      Step.refinement? = refinements.reverse := by
    simp [List.filterMap_map, Function.comp_def, Step.refinement?]
  have onlyParents : (parents.map Step.inherit ++ refinements.reverse.map Step.overlay).filterMap
      Step.parent? = parents := by
    simp [List.filterMap_map, Function.comp_def, Step.parent?]
  rw [foldl_overlay_foldl_inheritFrom, value?_mergeAll, onlyRefinements, onlyParents,
    List.reverse_reverse]

end Setting

end SchemaPages.Slot
