import SchemaPages.Proofs.Schema.Merging
import SchemaPages.Proofs.View.Domains
/-!
# Induced slots

A slot as a class sees it takes each of its values from the first definition that has one: from the
refinements in the class and the classes above it, from the definition that it starts from, and, if
the value is inheritable, from the slots above.

* `lineage`, `parentSlots`: the names and slots above;
* `sources`: the definitions that may give a value, in their order;
* `Induced`, `exists_induced`: what an induced slot is made of;
* `inducedSlot_precedence`: which slots there are, and where their values come from.
-/

namespace SchemaPages.View

open Slot (Setting)

/-! ## 1. Sources of values -/

/-- The class and everything above it, nearest branch first; nothing apart from any class. -/
def lineage (v : View) : Option String → List String
  | some c => v.classAncestors c true true
  | none => []

/-- Where a class has no parents, it stands alone. -/
theorem lineage_of_no_parents {v : View} {c : String} (h : v.classParents c true true = []) :
    v.lineage (some c) = [c] := by
  simp [lineage, classAncestors, ancestorsBy, h, Walk.preorder]

/-- The slots above the slot of a name, nearest branch first. -/
def parentSlots (v : View) (name : String) : List Slot :=
  (v.slotAncestors name true false).filterMap v.slot?

/-- **The definitions that may give an induced slot a value**, in the order in which they count. -/
def sources {α : Type} (v : View) (name : String) (cls : Option String) (base : Slot)
    (f : Setting α) : List Slot :=
  v.usages name (v.lineage cls) ++ base :: if f.inheritable then v.parentSlots name else []

/-- What stands for a value that nothing sets: slots have the range that the root names. -/
def fallback {α : Type} (v : View) : Setting α → Option α
  | .range => v.defaultRange
  | _ => none

/-- **An induced slot by what it is made of**, given the definition that it starts from. -/
structure Induced (v : View) (n : String) (cls : Option String) (base i : Slot) : Prop where
  value : ∀ {α : Type} (f : Setting α),
    f.value? i = ((v.sources n cls base f).findSome? f.value?).or (v.fallback f)
  name : i.name = base.name
  fromSchema : i.fromSchema = base.fromSchema
  domainOf : ∃ t, v.slot? n = some t ∧ i.domainOf = t.domainOf

/-! ## 2. Induced slots -/

section Inducing

variable {α : Type} {v : View} {n : String} {cls : Option String} {base i : Slot}

/-- A definition with what its parents give and then what its refinements say. -/
def refined (v : View) (n : String) (cls : Option String) (base : Slot) : Slot :=
  (v.usages n (v.lineage cls)).reverse.foldl Slot.overlay
    ((v.parentSlots n).foldl Slot.inheritFrom base)

theorem inducedSlot_eq (v : View) (n : String) (cls : Option String) :
    v.inducedSlot n cls = (v.baseSlot? n (v.lineage cls)).map fun base =>
      { v.refined n cls base with
        range := (v.refined n cls base).range.or v.defaultRange
        domainOf := match v.slot? n with
          | some global => global.domainOf
          | none => (v.refined n cls base).domainOf } := by
  cases cls with
  | none => cases h : v.baseSlot? n [] <;> simp only [inducedSlot, lineage, h] <;> rfl
  | some c =>
      cases h : v.baseSlot? n (v.classAncestors c true true) <;>
        simp only [inducedSlot, lineage, h] <;> rfl

/-- **The values of a definition with its parents and refinements** are the first among the
    sources. -/
theorem value?_refined (f : Setting α) (v : View) (n : String) (cls : Option String) (base : Slot) :
    f.value? (v.refined n cls base) = (v.sources n cls base f).findSome? f.value? := by
  rw [refined, f.value?_filled_refined, sources, List.findSome?_append, List.findSome?_cons]
  by_cases taken : f.inheritable = true
  · rw [if_pos taken, if_pos taken]
    cases f.value? base <;> rfl
  · rw [if_neg taken, if_neg taken]
    cases f.value? base <;> rfl

/-- The view gives a slot a range and the classes that declare it, and no other value. -/
theorem value?_settled (f : Setting α) (v : View) (s : Slot) (classes : List String) :
    f.value? { s with range := s.range.or v.defaultRange, domainOf := classes } =
      (f.value? s).or (v.fallback f) := by
  cases f
  case range => rfl
  all_goals exact Option.or_none.symm

theorem fromSchema_foldl_overlay (refinements : List Slot) (s : Slot) :
    (refinements.foldl Slot.overlay s).fromSchema = s.fromSchema :=
  foldl_kept Slot.overlay Slot.fromSchema (fun _ _ => rfl) refinements s

theorem fromSchema_foldl_inheritFrom (parents : List Slot) (s : Slot) :
    (parents.foldl Slot.inheritFrom s).fromSchema = s.fromSchema :=
  foldl_kept Slot.inheritFrom Slot.fromSchema (fun _ _ => rfl) parents s

/-- The view has a slot of the name of an induced slot, and both know the same classes. -/
theorem exists_slot_of_inducedSlot (h : v.inducedSlot n cls = some i) :
    ∃ t, v.slot? n = some t ∧ i.domainOf = t.domainOf := by
  obtain ⟨t, ht, named⟩ := List.mem_map.mp (slot_of_inducedSlot h).2
  subst named
  exact ⟨t, slot?_of_mem ht, domainOf_of_inducedSlot ht h⟩

/-- **Where there is a definition to start from, there is an induced slot**, made of its sources. -/
theorem exists_induced (h : v.baseSlot? n (v.lineage cls) = some base) :
    ∃ i, v.inducedSlot n cls = some i ∧ v.Induced n cls base i := by
  have found := v.inducedSlot_eq n cls
  rw [h, Option.map_some] at found
  refine ⟨_, found, ?_⟩
  exact {
    value := fun f => by rw [value?_settled, value?_refined]
    name := (name_foldl_overlay _ _).trans (name_foldl_inheritFrom _ _)
    fromSchema := (fromSchema_foldl_overlay _ _).trans (fromSchema_foldl_inheritFrom _ _)
    domainOf := exists_slot_of_inducedSlot found }

theorem exists_base_of_inducedSlot (h : v.inducedSlot n cls = some i) :
    ∃ base, v.baseSlot? n (v.lineage cls) = some base ∧ v.Induced n cls base i := by
  cases found : v.baseSlot? n (v.lineage cls) with
  | none =>
      rw [inducedSlot_eq, found] at h
      cases h
  | some base =>
      obtain ⟨j, same, made⟩ := exists_induced found
      rw [h] at same
      cases same
      exact ⟨base, rfl, made⟩

/-- **A range that nothing refines** is that of the definition, if it has one. -/
theorem range_of_unrefined {r : String} (h : v.Induced n cls base i)
    (unrefined : ∀ u ∈ v.usages n (v.lineage cls), u.range = none) (own : base.range = some r) :
    i.range = some r := by
  have passed : (v.usages n (v.lineage cls)).findSome? Slot.range = none :=
    List.findSome?_eq_none_iff.mpr unrefined
  calc i.range
      = ((v.sources n cls base .range).findSome? Slot.range).or v.defaultRange := h.value .range
    _ = some r := by
        rw [sources, List.findSome?_append, passed, List.findSome?_cons, own, Option.none_or,
          Option.some_or]

/-- **Which induced slots there are and where their values come from.** There is one exactly if there
    is a definition to start from: the nearest attribute of the name, or the slot of the view. Its
    values are the first among the refinements, nearest class first, then the definition itself, then,
    for inheritable ones, the slots above; its name and schema are those of the definition, its classes
    those of the slot of the view. -/
theorem inducedSlot_precedence (v : View) (n : String) (cls : Option String) :
    (v.inducedSlot n cls = none ↔ v.baseSlot? n (v.lineage cls) = none) ∧
      ∀ base, v.baseSlot? n (v.lineage cls) = some base →
        ∃ i, v.inducedSlot n cls = some i ∧ v.Induced n cls base i := by
  refine ⟨?_, fun base h => exists_induced h⟩
  rw [inducedSlot_eq, Option.map_eq_none_iff]

end Inducing

/-- A slot below another one, which a class and the class above it refine. -/
def people : View :=
  View.ofSchemas
    { id := "p", name := "p"
      slots := [{ name := "text", range := some "string" }, { name := "label", isA := some "text" }]
      classes := [
        { name := "Agent", slots := ["label"]
          slotUsage := [{ name := "label", required := some true, title := some "Label" }] },
        { name := "Person", isA := some "Agent"
          slotUsage := [{ name := "label", required := some false }] }] } []

/-- The slot of the view. -/
def labelSlot : Slot where
  name := "label"
  isA := some "text"
  domainOf := ["Agent"]

/-- The switch of the nearest class counts, the title of the one above, the range of the parent. -/
theorem inducedSlot_precedence_person :
    people.baseSlot? "label" (people.lineage (some "Person")) = some labelSlot ∧
      ∃ i, people.inducedSlot "label" (some "Person") = some i ∧
        people.Induced "label" (some "Person") labelSlot i ∧ i.required = some false ∧
          i.title = some "Label" ∧ i.range = some "string" := by
  have lineage : people.lineage (some "Person") = ["Person", "Agent"] := by
    have names : people.merged.classes.map Class.name = ["Agent", "Person"] := rfl
    have persons : people.classParents "Person" true true = ["Agent"] := rfl
    have agents : people.classParents "Agent" true true = [] := rfl
    simp [View.lineage, View.classAncestors, View.ancestorsBy, names, persons, agents, Walk.preorder]
  have parents : people.parentSlots "label" = [{ name := "text", range := some "string" }] := by
    have names : people.merged.slots.map Slot.name = ["text", "label"] := rfl
    have labels : people.slotParents "label" true = ["text"] := rfl
    have texts : people.slotParents "text" true = [] := rfl
    have walk : people.slotAncestors "label" true false = ["text"] := by
      simp [View.slotAncestors, View.ancestorsBy, names, labels, texts, Walk.preorder]
    rw [parentSlots, walk]
    rfl
  have start : people.baseSlot? "label" (people.lineage (some "Person")) = some labelSlot := by
    rw [lineage]
    rfl
  obtain ⟨i, found, made⟩ := (inducedSlot_precedence people "label" (some "Person")).2 _ start
  have value : ∀ {α : Type} (f : Setting α), f.value? i =
      ((people.usages "label" ["Person", "Agent"] ++ labelSlot ::
        if f.inheritable then [{ name := "text", range := some "string" }] else []).findSome?
          f.value?).or (people.fallback f) := by
    intro α f
    rw [made.value, sources, lineage, parents]
  exact ⟨start, i, found, made, value .required, value .title, value .range⟩

end SchemaPages.View
