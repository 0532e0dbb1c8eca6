import SchemaPages.Proofs.View.Specificity
/-!
# Parents of attributes

A class may declare a slot as an attribute, with parents of its own. The slot of the view with this
name may be another definition: that of the schema, or an attribute of another class. An induced slot
that starts from the attribute is filled from the parents of the slot of the view.

* `slotsAbove`, `parentSlots_eq`: the slots that the parents of a definition lead to;
* `FillsFromOwn`: the rule that an attribute is filled from its own parents;
* `fillsFromOwn_iff`: when the rule holds.
-/

namespace SchemaPages.View

open Slot (Setting)

/-! ## 1. Slots above a definition -/

/-- The slots that the parents and mixins of a definition lead to, nearest branch first. -/
def slotsAbove (v : View) (s : Slot) : List Slot :=
  (Walk.preorder id (v.slotParents · true) (v.merged.slots.map Slot.name) [s.name]
    (s.isA.toList ++ s.mixins)).filterMap v.slot?

section Above

variable {v : View} {n c : String} {a t i : Slot}

theorem name_of_slot? (h : v.slot? n = some t) : t.name = n := by
  simpa using List.find?_some h

/-- **The slots above a name are those above the slot of the view** that has the name. -/
theorem parentSlots_eq (h : v.slot? n = some t) : v.parentSlots n = v.slotsAbove t := by
  have parents : v.slotParents n true = t.isA.toList ++ t.mixins := by
    unfold slotParents
    rw [h]
    rfl
  unfold parentSlots slotsAbove slotAncestors ancestorsBy
  beta_reduce
  rw [parents, name_of_slot? h]
  rfl

/-- Definitions of one name with the same parents and mixins have the same slots above. -/
theorem slotsAbove_congr (name : a.name = t.name) (isA : a.isA = t.isA)
    (mixins : a.mixins = t.mixins) : v.slotsAbove a = v.slotsAbove t := by
  unfold slotsAbove
  rw [name, isA, mixins]

/-! ## 2. Attributes with their own parents -/

/-- **An attribute is filled from its own parents**: what is inheritable in the induced slot is the
    first value among the refinements, the attribute and the slots above the attribute. -/
def FillsFromOwn (v : View) (n c : String) (a : Slot) : Prop :=
  ∃ i, v.inducedSlot n (some c) = some i ∧ ∀ {α : Type} (f : Setting α), f.inheritable = true →
    f.value? i = ((v.usages n (v.lineage (some c)) ++ a :: v.slotsAbove a).findSome? f.value?).or
      (v.fallback f)

/-- Neither a refinement nor the definition sets the value. -/
def Unset {α : Type} (v : View) (n c : String) (a : Slot) (f : Setting α) : Prop :=
  (∀ u ∈ v.usages n (v.lineage (some c)), f.value? u = none) ∧ f.value? a = none

/-- The value that some slots give, or else the view. -/
def valueAbove {α : Type} (v : View) (slots : List Slot) (f : Setting α) : Option α :=
  (slots.findSome? f.value?).or (v.fallback f)

/-- The slots above count exactly for what is not set. -/
theorem findSome?_above_congr {α : Type} {f : Setting α} {us above other : List Slot} :
    ((us ++ a :: above).findSome? f.value?).or (v.fallback f) =
        ((us ++ a :: other).findSome? f.value?).or (v.fallback f) ↔
      ((∀ u ∈ us, f.value? u = none) ∧ f.value? a = none →
        v.valueAbove above f = v.valueAbove other f) := by
  rw [List.findSome?_append, List.findSome?_append, List.findSome?_cons, List.findSome?_cons]
  cases refined : us.findSome? f.value? with
  | some w =>
      refine ⟨fun _ unset => ?_, fun _ => rfl⟩
      rw [List.findSome?_eq_none_iff.mpr unset.1] at refined
      cases refined
  | none =>
      have no_refinement := List.findSome?_eq_none_iff.mp refined
      cases f.value? a with
      | some w => exact ⟨fun _ unset => (by cases unset.2), fun _ => rfl⟩
      | none => exact ⟨fun same _ => same, fun same => same ⟨no_refinement, rfl⟩⟩

/-- The slot of the view decides what an attribute is filled from. -/
theorem fillsFromOwn_iff_agree (start : v.baseSlot? n (v.lineage (some c)) = some a)
    (ht : v.slot? n = some t) :
    v.FillsFromOwn n c a ↔ ∀ {α : Type} (f : Setting α), f.inheritable = true →
      v.Unset n c a f → v.valueAbove (v.slotsAbove t) f = v.valueAbove (v.slotsAbove a) f := by
  obtain ⟨i, found, made⟩ := exists_induced start
  have value : ∀ {α : Type} (f : Setting α), f.inheritable = true → f.value? i =
      ((v.usages n (v.lineage (some c)) ++ a :: v.slotsAbove t).findSome? f.value?).or
        (v.fallback f) := by
    intro α f taken
    rw [made.value, sources, if_pos taken, parentSlots_eq ht]
  constructor
  · rintro ⟨j, same, fills⟩ α f taken
    rw [found] at same
    cases same
    exact findSome?_above_congr.mp ((value f taken).symm.trans (fills f taken))
  · intro agree
    exact ⟨i, found, fun f taken =>
      (value f taken).trans (findSome?_above_congr.mpr (agree f taken))⟩

/-- **When an attribute is filled from its own parents**: exactly if, for all that is inheritable and
    not set, the slots above the slot of the view give what the slots above the attribute give. So it
    is wherever both have the same parents and mixins. -/
theorem fillsFromOwn_iff (h : (v.line c).findSome? (·.attribute? n) = some a) :
    ∃ t, v.slot? n = some t ∧
      (v.FillsFromOwn n c a ↔ ∀ {α : Type} (f : Setting α), f.inheritable = true →
        v.Unset n c a f → v.valueAbove (v.slotsAbove t) f = v.valueAbove (v.slotsAbove a) f) ∧
      (a.isA = t.isA → a.mixins = t.mixins → v.FillsFromOwn n c a) := by
  have start : v.baseSlot? n (v.lineage (some c)) = some a := by rw [baseSlot?_eq, h]; rfl
  obtain ⟨i, _, made⟩ := exists_induced start
  obtain ⟨t, ht, _⟩ := made.domainOf
  have exactly := fillsFromOwn_iff_agree start ht
  refine ⟨t, ht, exactly, fun isA mixins => exactly.mpr fun f _ _ => ?_⟩
  obtain ⟨d, _, declared⟩ := List.exists_of_findSome?_eq_some h
  have name : a.name = t.name := by
    rw [name_of_slot? ht]
    simpa using List.find?_some declared
  rw [slotsAbove_congr name isA mixins]

end Above

/-! ## 3. Two slots of one name -/

/-- The attribute: a code that is a number. -/
def codeAttribute : Slot where
  name := "code"
  isA := some "number"

/-- A schema with a slot below a number, and a class with an attribute of that name below a number. -/
def numbered : View :=
  View.ofSchemas
    { id := "p", name := "p"
      slots := [{ name := "code", isA := some "number" }, { name := "number", range := some "integer" }]
      classes := [{ name := "C", attributes := [codeAttribute] }] } []

theorem lineage_numbered : numbered.lineage (some "C") = ["C"] := by
  have orphan : numbered.classParents "C" true true = [] := rfl
  simp [lineage, View.classAncestors, View.ancestorsBy, orphan, Walk.preorder]

theorem attribute_numbered :
    (numbered.line "C").findSome? (·.attribute? "code") = some codeAttribute := by
  have walk : numbered.classAncestors "C" true true = ["C"] := lineage_numbered
  rw [line, walk]
  rfl

/-- Where the slot of the view has the same parent, the attribute has the range of its own. -/
theorem fillsFromOwn_iff_numbered :
    (numbered.line "C").findSome? (·.attribute? "code") = some codeAttribute ∧
      numbered.FillsFromOwn "code" "C" codeAttribute ∧
      ∃ i, numbered.inducedSlot "code" (some "C") = some i ∧ i.range = some "integer" := by
  obtain ⟨t, ht, _, same⟩ := fillsFromOwn_iff attribute_numbered
  cases ht
  have fills : numbered.FillsFromOwn "code" "C" codeAttribute := same rfl rfl
  refine ⟨attribute_numbered, fills, ?_⟩
  obtain ⟨i, induced, value⟩ := fills
  refine ⟨i, induced, ?_⟩
  have names : numbered.merged.slots.map Slot.name = ["code", "number"] := rfl
  have numbers : numbered.slotParents "number" true = [] := rfl
  have above : numbered.slotsAbove codeAttribute = ["number"].filterMap numbered.slot? := by
    simp [slotsAbove, codeAttribute, names, numbers, Walk.preorder]
  have range := value Setting.range rfl
  rw [lineage_numbered, above] at range
  exact range

/-- A schema with a slot below a text, and a class with an attribute of that name below a number. -/
def namesakes : View :=
  View.ofSchemas
    { id := "p", name := "p"
      slots := [{ name := "text", range := some "string" }, { name := "code", isA := some "text" },
        { name := "number", range := some "integer" }]
      classes := [{ name := "C", attributes := [codeAttribute] }] } []

/-- The slot of the view. -/
def codeSlot : Slot where
  name := "code"
  isA := some "text"
  domainOf := ["C"]

theorem lineage_namesakes : namesakes.lineage (some "C") = ["C"] := by
  have orphan : namesakes.classParents "C" true true = [] := rfl
  simp [lineage, View.classAncestors, View.ancestorsBy, orphan, Walk.preorder]

theorem attribute_namesakes :
    (namesakes.line "C").findSome? (·.attribute? "code") = some codeAttribute := by
  have walk : namesakes.classAncestors "C" true true = ["C"] := lineage_namesakes
  rw [line, walk]
  rfl

/-- The two parents give different ranges. -/
theorem valueAbove_namesakes :
    namesakes.valueAbove (namesakes.slotsAbove codeSlot) .range = some "string" ∧
      namesakes.valueAbove (namesakes.slotsAbove codeAttribute) .range = some "integer" := by
  have names : namesakes.merged.slots.map Slot.name = ["text", "code", "number"] := rfl
  have texts : namesakes.slotParents "text" true = [] := rfl
  have numbers : namesakes.slotParents "number" true = [] := rfl
  have below_text : namesakes.slotsAbove codeSlot = ["text"].filterMap namesakes.slot? := by
    simp [slotsAbove, codeSlot, names, texts, Walk.preorder]
  have below_number :
      namesakes.slotsAbove codeAttribute = ["number"].filterMap namesakes.slot? := by
    simp [slotsAbove, codeAttribute, names, numbers, Walk.preorder]
  rw [below_text, below_number]
  exact ⟨rfl, rfl⟩

/-- **An attribute may take the values of another's parent**: the induced slot has the range of the
    parent that only the slot of the schema names, not that of the attribute's own parent. -/
theorem not_fillsFromOwn_namesakes :
    (namesakes.line "C").findSome? (·.attribute? "code") = some codeAttribute ∧
      ¬ namesakes.FillsFromOwn "code" "C" codeAttribute := by
  refine ⟨attribute_namesakes, fun fills => ?_⟩
  have start : namesakes.baseSlot? "code" (namesakes.lineage (some "C")) = some codeAttribute := by
    rw [baseSlot?_eq, attribute_namesakes]
    rfl
  have unset : namesakes.Unset "code" "C" codeAttribute .range := by
    have unrefined : namesakes.usages "code" ["C"] = [] := rfl
    refine ⟨fun u hu => ?_, rfl⟩
    rw [lineage_namesakes, unrefined] at hu
    cases hu
  have slot : namesakes.slot? "code" = some codeSlot := rfl
  have same := (fillsFromOwn_iff_agree start slot).mp fills Setting.range rfl unset
  rw [valueAbove_namesakes.1, valueAbove_namesakes.2] at same
  exact absurd same (by decide)

end SchemaPages.View
