import SchemaPages.Proofs.View.Ancestors
import SchemaPages.Proofs.View.Defined
/-!
# Classes that declare slots

Every slot of a view knows the classes that declare it, and a class has the slots that it or a class
above it declares.

* `Class.Declares`: a class lists a slot or has an attribute of its name;
* `domainOf_of_mem`, `mem_domainOf_iff`: the classes that a slot knows of;
* `mem_classSlots_iff`: the slots of a class;
* `exists_inducedSlot`: a class has every slot of the view in a form of its own.
-/

namespace SchemaPages

/-- The class declares the slot of a name itself. -/
def Class.Declares (c : Class) (slot : String) : Prop :=
  slot ∈ c.slots ∨ ∃ a ∈ c.attributes, a.name = slot

theorem Class.declares_iff {c : Class} {slot : String} :
    c.Declares slot ↔ slot ∈ c.directSlotNames := by
  unfold Declares directSlotNames
  rw [List.mem_append, List.mem_map]

/-! ## 1. Declaring classes -/

section Declaring

variable {classes : List Class} {slot n : String}

theorem mem_declaringClasses_iff :
    n ∈ declaringClasses classes slot ↔ ∃ c ∈ classes, c.name = n ∧ c.Declares slot := by
  unfold declaringClasses
  simp only [List.mem_map, List.mem_filter, List.contains_iff_mem, Class.declares_iff]
  constructor
  · rintro ⟨c, ⟨hc, declares⟩, name⟩
    exact ⟨c, hc, name, declares⟩
  · rintro ⟨c, hc, name, declares⟩
    exact ⟨c, ⟨hc, declares⟩, name⟩

/-- The declaring classes stand in the order of the classes. -/
theorem declaringClasses_sublist (classes : List Class) (slot : String) :
    (declaringClasses classes slot).Sublist (classes.map Class.name) :=
  List.filter_sublist.map Class.name

end Declaring

namespace View

variable {v : View} {c : Class} {t : Slot} {n : String}

/-- The classes of a view are those of its schemas, the root first. -/
theorem merged_classes (v : View) :
    v.merged.classes = (Elements.ofSchemas (v.root :: v.imported.reverse)).classes := by
  rw [v.merged_eq]
  rfl

/-- **Every slot of the view knows its declaring classes**, with imports or without. -/
theorem domainOf_of_mem {imports : Bool} (h : t ∈ (v.elements imports).slots) :
    t.domainOf = declaringClasses v.merged.classes t.name := by
  have noted : ∃ e : Elements,
      (v.elements imports).slots = (e.withDomains v.merged.classes).slots := by
    rw [v.merged_classes]
    cases imports with
    | true => exact ⟨_, congrArg Elements.slots v.merged_eq⟩
    | false => exact ⟨_, congrArg Elements.slots v.own_eq⟩
  obtain ⟨e, same⟩ := noted
  rw [same] at h
  obtain ⟨x, _, rfl⟩ := List.mem_map.mp h
  rfl

/-- **The classes that a slot knows of are those that declare it.** -/
theorem mem_domainOf_iff (imports : Bool) (h : t ∈ (v.elements imports).slots) :
    n ∈ t.domainOf ↔ ∃ d ∈ v.merged.classes, d.name = n ∧ d.Declares t.name := by
  rw [domainOf_of_mem h]
  exact mem_declaringClasses_iff

/-! ## 2. Classes and slots by name -/

theorem class?_of_mem (h : c ∈ v.merged.classes) : v.class? c.name = some c :=
  find?_name_of_mem (v.distinct_elements true).classes h

/-- Classes of one name are one class. -/
theorem eq_of_class_name {d : Class} (hc : c ∈ v.merged.classes) (hd : d ∈ v.merged.classes)
    (same : c.name = d.name) : c = d := by
  have found := class?_of_mem hc
  rw [same, class?_of_mem hd] at found
  exact (Option.some.inj found).symm

theorem slot?_of_mem (h : t ∈ v.merged.slots) : v.slot? t.name = some t :=
  find?_name_of_mem (v.distinct_elements true).slots h

theorem mem_of_class? (h : v.class? n = some c) : c ∈ v.merged.classes ∧ c.name = n :=
  ⟨List.mem_of_find?_eq_some h, by simpa using List.find?_some h⟩

/-- A class of a name declares a slot exactly when it is among those that the slot knows of. -/
theorem name_mem_domainOf_iff (hc : c ∈ v.merged.classes) (ht : t ∈ v.merged.slots) :
    c.name ∈ t.domainOf ↔ c.Declares t.name := by
  rw [mem_domainOf_iff true ht]
  constructor
  · rintro ⟨d, hd, same, declares⟩
    exact eq_of_class_name hd hc same ▸ declares
  · exact fun declares => ⟨c, hc, rfl, declares⟩

/-! ## 3. Slots of classes -/

/-- **The slots of a class are those of the classes above it**, its own first, each where it first
    occurs. -/
theorem firstOccurrences_classSlots (v : View) (cls : String) :
    FirstOccurrences
      (((v.classAncestors cls true true).filterMap v.class?).flatMap Class.directSlotNames)
      (v.classSlots cls) :=
  firstOccurrences_addNew _

/-- **A class has exactly the slots that it or a class above it declares.** -/
theorem mem_classSlots_iff {cls : String} :
    n ∈ v.classSlots cls ↔ ∃ d ∈ v.merged.classes, v.Inherits cls d.name ∧ d.Declares n := by
  rw [v.firstOccurrences_classSlots cls |>.mem]
  simp only [List.mem_flatMap, List.mem_filterMap, Class.declares_iff]
  constructor
  · rintro ⟨d, ⟨a, ha, found⟩, declares⟩
    obtain ⟨hd, rfl⟩ := mem_of_class? found
    exact ⟨d, hd, mem_classAncestors_self_iff.mp ha, declares⟩
  · rintro ⟨d, hd, above, declares⟩
    exact ⟨d, ⟨d.name, mem_classAncestors_self_iff.mpr above, class?_of_mem hd⟩, declares⟩

theorem nodup_classSlots (v : View) (cls : String) : (v.classSlots cls).Nodup :=
  (v.firstOccurrences_classSlots cls).distinct

/-- An induced slot knows the classes that declare the slot of the view. -/
theorem domainOf_of_inducedSlot {i : Slot} {cls : Option String} (ht : t ∈ v.merged.slots)
    (h : v.inducedSlot t.name cls = some i) : i.domainOf = t.domainOf := by
  unfold inducedSlot at h
  obtain ⟨base, _, hs⟩ := Option.bind_eq_some_iff.mp h
  cases hs
  simp only [slot?_of_mem ht]

/-- **A slot of the view has a form in every class**, with its name and its declaring classes. -/
theorem exists_inducedSlot (ht : t ∈ v.merged.slots) (cls : Option String) :
    ∃ i, v.inducedSlot t.name cls = some i ∧ i.name = t.name ∧ i.domainOf = t.domainOf := by
  have base : ∀ ancestors, ∃ b, v.baseSlot? t.name ancestors = some b := by
    intro ancestors
    unfold baseSlot?
    rw [slot?_of_mem ht]
    cases (ancestors.filterMap v.class?).findSome? (·.attribute? t.name) with
    | none => exact ⟨t, rfl⟩
    | some a => exact ⟨a, rfl⟩
  have found : (v.inducedSlot t.name cls).isSome := by
    unfold inducedSlot
    cases cls with
    | none =>
        obtain ⟨b, hb⟩ := base []
        simp [hb]
    | some c =>
        obtain ⟨b, hb⟩ := base (v.classAncestors c true true)
        simp [hb]
  obtain ⟨i, induced⟩ := Option.isSome_iff_exists.mp found
  exact ⟨i, induced, (slot_of_inducedSlot induced).1, domainOf_of_inducedSlot ht induced⟩

end View

end SchemaPages
