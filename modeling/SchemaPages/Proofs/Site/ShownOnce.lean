import Mathlib.Data.List.Count
import SchemaPages.Proofs.Site.DiagramTexts
import SchemaPages.Proofs.View.Induced
import SchemaPages.Site.PageContent
/-!
# How often slots are shown

Usage tables and diagrams go through the names that a class has in its list of slots and among its
attributes. A name that stands in both, or twice in the list, is gone through twice, and its slot is
shown as often.

* `times`: how often slots with their owners have the slot of a class;
* `Site.usageEntries`, `usages_eq`: what the rows of a usage table are about;
* `Diagram.shownSlots`: the slots that the statements of a diagram are about;
* `names_filter_directSlots`: the slots that a class declares have the names that it gives;
* `times_usedSlots`, `times_shownSlots`: each is shown as often as the class names it;
* `Site.ShownOnce`, `shownOnce_iff`: when a slot is shown once.
-/

namespace SchemaPages

/-! ## 1. Counting slots -/

/-- How often slots with their owners have the slot of a name of an owner. -/
def times (entries : List (String × Slot)) (owner slot : String) : Nat :=
  (entries.map fun e => (e.1, e.2.name)).count (owner, slot)

theorem times_append (l m : List (String × Slot)) (owner slot : String) :
    times (l ++ m) owner slot = times l owner slot + times m owner slot := by
  unfold times
  rw [List.map_append, List.count_append]

theorem times_eq_zero {entries : List (String × Slot)} {owner : String}
    (h : ∀ e ∈ entries, e.1 ≠ owner) (slot : String) : times entries owner slot = 0 := by
  refine List.count_eq_zero.mpr fun there => ?_
  obtain ⟨e, he, same⟩ := List.mem_map.mp there
  exact h e he (congrArg Prod.fst same)

/-- Slots with one owner are counted by their names. -/
theorem times_own (slots : List Slot) (owner n : String) :
    times (slots.map (owner, ·)) owner n = (slots.map Slot.name).count n := by
  have paired : (slots.map (owner, ·)).map (fun e => (e.1, e.2.name)) =
      (slots.map Slot.name).map (owner, ·) := by
    rw [List.map_map, List.map_map]
    rfl
  unfold times
  rw [paired, List.count_map_of_injective _ _ fun _ _ e => congrArg Prod.snd e]

/-- **What is listed class by class is counted in one class**, the only one of its name. -/
theorem times_flatMap {classes : List Class} (distinct : (classes.map Class.name).Nodup) {c : Class}
    (hc : c ∈ classes) (f : Class → List Slot) (n : String) :
    times (classes.flatMap fun d => (f d).map (d.name, ·)) c.name n =
      ((f c).map Slot.name).count n := by
  induction classes with
  | nil => exact absurd hc List.not_mem_nil
  | cons d rest ih =>
      obtain ⟨fresh, distinct⟩ := List.nodup_cons.mp distinct
      rw [List.flatMap_cons, times_append]
      rcases List.mem_cons.mp hc with rfl | later
      · have none_left : times (rest.flatMap fun d => (f d).map (d.name, ·)) c.name n = 0 := by
          refine times_eq_zero (fun e he => ?_) n
          obtain ⟨b, hb, he⟩ := List.mem_flatMap.mp he
          obtain ⟨i, _, rfl⟩ := List.mem_map.mp he
          intro (named : b.name = c.name)
          exact fresh (named ▸ List.mem_map_of_mem hb)
        rw [times_own, none_left, Nat.add_zero]
      · have other : times ((f d).map (d.name, ·)) c.name n = 0 := by
          refine times_eq_zero (fun e he => ?_) n
          obtain ⟨i, _, rfl⟩ := List.mem_map.mp he
          intro (named : d.name = c.name)
          exact fresh (named ▸ List.mem_map_of_mem later)
        rw [other, Nat.zero_add, ih distinct later]

/-- **The slots that a class declares have the names that it gives**, one for one, as far as these are
    names of slots. -/
theorem names_filter_directSlots (v : View) (c : Class) (p : Slot → Bool) :
    ((Diagram.directSlots v c).filter p).map Slot.name =
      c.directSlotNames.filter fun m => (v.inducedSlot m (some c.name)).any p := by
  unfold Diagram.directSlots
  induction c.directSlotNames with
  | nil => rfl
  | cons m rest ih =>
      cases found : v.inducedSlot m (some c.name) with
      | none =>
          rw [List.filterMap_cons_none (by exact found), ih, List.filter_cons_of_neg]
          rw [found]
          exact Bool.false_ne_true
      | some i =>
          have named := (View.slot_of_inducedSlot found).1
          rw [List.filterMap_cons_some (by exact found), List.filter_cons, List.filter_cons, found,
            Option.any_some]
          cases p i with
          | true => rw [if_pos rfl, if_pos rfl, List.map_cons, named, ih]
          | false => rw [if_neg Bool.false_ne_true, if_neg Bool.false_ne_true, ih]

/-- So a slot that passes a test is there as often as the class names it. -/
theorem count_filter_directSlots {v : View} {c : Class} {n : String} {i : Slot}
    (h : v.inducedSlot n (some c.name) = some i) (p : Slot → Bool) :
    (((Diagram.directSlots v c).filter p).map Slot.name).count n =
      if p i then c.directSlotNames.count n else 0 := by
  rw [names_filter_directSlots]
  cases passes : p i with
  | true =>
      rw [if_pos rfl]
      exact List.count_filter (by rw [h, Option.any_some, passes])
  | false =>
      rw [if_neg Bool.false_ne_true]
      refine List.count_eq_zero.mpr fun there => ?_
      have tested := (List.mem_filter.mp there).2
      rw [h, Option.any_some, passes] at tested
      cases tested

/-! ## 2. Diagrams -/

namespace Diagram

/-- The slots that statements are about, with their owners: first those that are attributes, then
    those that are associations. -/
def shownSlots (said : List Statement) : List (String × Slot) :=
  said.flatMap Statement.attributes
    ++ (said.flatMap Statement.associations).map fun e => (e.1, e.2.1)

section Shown

variable {v : View} {names : List String} {c : Class} {n : String} {i : Slot}

/-- The classes of a diagram have distinct names. -/
theorem nodup_drawnNames (v : View) (names : List String) : (drawnNames v names).Nodup := by
  rw [drawnNames_eq]
  exact (firstOccurrences_addNew _).distinct.filter _

/-- **A diagram that draws a class shows a slot as often as the class names it.** -/
theorem times_shownSlots (hc : c ∈ v.merged.classes) (h : v.inducedSlot n (some c.name) = some i)
    (drawn : c.name ∈ drawnNames v names) (links : String → Option String) (t : DiagramType) :
    times (shownSlots ((ofClasses v names).statements links t)) c.name n =
      c.directSlotNames.count n := by
  have shows := shows_statements v names links t
  have distinct : (((drawnNames v names).filterMap v.class?).map Class.name).Nodup := by
    rw [filterMap_drawnNames]
    exact nodup_drawnNames v names
  have there : c ∈ (drawnNames v names).filterMap v.class? :=
    List.mem_filterMap.mpr ⟨c.name, drawn, View.class?_of_mem hc⟩
  have associated : ∀ d : Class,
      ((directSlots v d).filterMap fun s =>
          (target? (drawnNames v names) s).map fun r => (d.name, s, r)).map (fun e => (e.1, e.2.1)) =
        ((directSlots v d).filter fun s => (target? (drawnNames v names) s).isSome).map
          (d.name, ·) := by
    intro d
    rw [List.map_filterMap, ← List.filterMap_eq_filter, List.map_filterMap]
    refine List.filterMap_congr fun s _ => ?_
    cases found : target? (drawnNames v names) s <;> simp [Option.guard, found]
  unfold shownSlots
  rw [times_append, shows.attributes, shows.associations, List.map_flatMap]
  simp only [associated]
  rw [times_flatMap distinct there, times_flatMap distinct there, count_filter_directSlots h,
    count_filter_directSlots h]
  cases target? (drawnNames v names) i <;> simp

end Shown

end Diagram

/-! ## 3. Usage tables -/

namespace Site

open Diagram (shownSlots drawnNames)

/-- What the rows of a usage table are about: the classes with a slot of this range. -/
def usageEntries (s : Site) (range : String) : List (Class × Slot) :=
  s.view.merged.classes.flatMap fun c =>
    ((s.declaredSlots c).filter fun slot => s.rangeOf slot == range).map (c, ·)

/-- The slots that the rows are about, with their owners. -/
def usedSlots (s : Site) (range : String) : List (String × Slot) :=
  (s.usageEntries range).map fun e => (e.1.name, e.2)

/-- **A usage table has a row for each of them.** -/
theorem usages_eq (s : Site) (range : String) :
    s.usages range = (s.usageEntries range).map fun e =>
      ⟨s.link (.cls e.1) false, s.link (.slot e.2) false⟩ := by
  unfold usages usageEntries
  rw [List.map_flatMap]
  refine List.flatMap_congr fun c _ => ?_
  rw [List.map_map]
  rfl

section Shown

variable {s : Site} {c : Class} {n : String} {i : Slot}

/-- **The usage table of the range of a slot has it as often as the class names it**, and the table of
    no other range has it. -/
theorem times_usedSlots (hc : c ∈ s.view.merged.classes)
    (h : s.view.inducedSlot n (some c.name) = some i) (range : String) :
    times (s.usedSlots range) c.name n =
      if s.rangeOf i = range then c.directSlotNames.count n else 0 := by
  have by_class : s.usedSlots range = s.view.merged.classes.flatMap fun d =>
      ((Diagram.directSlots s.view d).filter fun slot => s.rangeOf slot == range).map
        (d.name, ·) := by
    unfold usedSlots usageEntries
    rw [List.map_flatMap]
    refine List.flatMap_congr fun d _ => ?_
    rw [List.map_map]
    rfl
  have distinct : (s.view.merged.classes.map Class.name).Nodup :=
    (s.view.distinct_elements true).classes
  rw [by_class, times_flatMap distinct hc, count_filter_directSlots h]
  simp only [beq_iff_eq]

/-! ## 4. Slots that are shown once -/

/-- There is a page with a usage table for the name: it is that of a class or an enumeration. -/
def HasUsages (s : Site) (range : String) : Prop :=
  (s.view.class? range).isSome ∨ (s.view.enum? range).isSome

/-- **A slot of a class is shown once**: no usage table has more than one row for it, that of its range
    has one, and so has each diagram that draws the class. -/
structure ShownOnce (s : Site) (c : Class) (n : String) : Prop where
  atMostOnce : ∀ range, s.HasUsages range → times (s.usedSlots range) c.name n ≤ 1
  used : ∀ range i, s.HasUsages range → s.view.inducedSlot n (some c.name) = some i →
    i.range = some range → times (s.usedSlots range) c.name n = 1
  drawn : ∀ names links t, c.name ∈ drawnNames s.view names →
    times (shownSlots ((Diagram.ofClasses s.view names).statements links t)) c.name n = 1

/-- A class is drawn in the diagram of its own. -/
theorem mem_drawnNames_self (hc : c ∈ s.view.merged.classes) :
    c.name ∈ drawnNames s.view [c.name] := by
  refine Diagram.mem_drawnNames_iff.mpr ⟨List.mem_singleton_self _, ?_⟩
  rw [View.class?_of_mem hc, Option.isSome_some]

/-- **When a slot of a class is shown once.** The rows of usage tables are those of their entries, and
    diagrams are texts in which every statement is written. A slot is shown once exactly when the class
    names it once, in its list of slots or among its attributes; in any case the usage table of its
    range and every diagram that draws the class show it as often as the class names it, and no other
    usage table does. -/
theorem shownOnce_iff (hc : c ∈ s.view.merged.classes)
    (h : s.view.inducedSlot n (some c.name) = some i) :
    (∀ range, s.usages range = (s.usageEntries range).map fun e =>
      ⟨s.link (.cls e.1) false, s.link (.slot e.2) false⟩) ∧
    (∀ names links t, Diagram.Written t ((Diagram.ofClasses s.view names).statements links t)
      ((Diagram.ofClasses s.view names).render links t)) ∧
    (s.ShownOnce c n ↔ c.directSlotNames.count n = 1) ∧
    (∀ range, times (s.usedSlots range) c.name n =
      if s.rangeOf i = range then c.directSlotNames.count n else 0) ∧
    (∀ names links t, c.name ∈ drawnNames s.view names →
      times (shownSlots ((Diagram.ofClasses s.view names).statements links t)) c.name n =
        c.directSlotNames.count n) := by
  have used := times_usedSlots hc h
  have drawn : ∀ names links t, c.name ∈ drawnNames s.view names →
      times (shownSlots ((Diagram.ofClasses s.view names).statements links t)) c.name n =
        c.directSlotNames.count n :=
    fun names links t there => Diagram.times_shownSlots hc h there links t
  refine ⟨s.usages_eq, fun names links t => Diagram.written_render _ links t, ?_, used, drawn⟩
  constructor
  · intro once
    have own := mem_drawnNames_self hc
    rw [← drawn [c.name] s.clickTargets .er own]
    exact once.drawn _ _ _ own
  · intro named
    refine ⟨fun range _ => ?_, fun range j _ induced leads => ?_, fun names links t there => ?_⟩
    · rw [used, named]
      split <;> decide
    · obtain rfl : i = j := Option.some.inj (h.symm.trans induced)
      have ranged : s.rangeOf i = range := by rw [rangeOf, leads, Option.some_or, Option.getD_some]
      rw [used, if_pos ranged, named]
    · rw [drawn names links t there, named]

end Shown

/-- A class that lists one slot and has another as an attribute, which it lists too. -/
def household : Site where
  view := View.ofSchemas
    { id := "p", name := "p"
      slots := [{ name := "friend", range := some "Person" }]
      classes := [
        { name := "Person", slots := ["friend", "address"]
          attributes := [{ name := "address", range := some "Address" }] },
        { name := "Address" }] } []
  config := {}

/-- The class of persons. -/
def householder : Class where
  name := "Person"
  slots := ["friend", "address"]
  attributes := [{ name := "address", range := some "Address" }]

theorem householder_mem : householder ∈ household.view.merged.classes := by
  have found : household.view.class? "Person" = some householder := rfl
  exact (View.mem_of_class? found).1

/-- The slot that is named once is shown once. -/
theorem shownOnce_iff_friend :
    householder ∈ household.view.merged.classes ∧
      (∃ i, household.view.inducedSlot "friend" (some householder.name) = some i) ∧
      household.ShownOnce householder "friend" := by
  have slot : household.view.slot? "friend" =
      some { name := "friend", range := some "Person", domainOf := ["Person"] } := rfl
  obtain ⟨i, induced, _⟩ :=
    View.exists_inducedSlot (List.mem_of_find?_eq_some slot) (some householder.name)
  exact ⟨householder_mem, ⟨i, induced⟩,
    (shownOnce_iff householder_mem induced).2.2.1.mpr (by decide)⟩

/-- **A slot that is shown twice**, since it is listed and an attribute. -/
theorem shown_twice :
    householder ∈ household.view.merged.classes ∧ "address" ∈ householder.directSlotNames ∧
      household.HasUsages "Address" ∧
      times (household.usedSlots "Address") householder.name "address" = 2 ∧
      ¬ household.ShownOnce householder "address" := by
  have lineage : household.view.lineage (some householder.name) = ["Person"] :=
    View.lineage_of_no_parents rfl
  have start : household.view.baseSlot? "address" (household.view.lineage (some householder.name)) =
      some { name := "address", range := some "Address" } := by
    rw [lineage]
    rfl
  obtain ⟨i, induced, made⟩ := View.exists_induced start
  have range : i.range = some "Address" := by
    refine View.range_of_unrefined made ?_ rfl
    rw [lineage]
    exact fun u hu => absurd hu List.not_mem_nil
  have twice : times (household.usedSlots "Address") householder.name "address" = 2 := by
    have ranged : household.rangeOf i = "Address" := by
      rw [rangeOf, range, Option.some_or, Option.getD_some]
    rw [times_usedSlots householder_mem induced, if_pos ranged]
    rfl
  have shown : household.HasUsages "Address" := Or.inl rfl
  refine ⟨householder_mem, by decide, shown, twice, fun once => ?_⟩
  have single := once.atMostOnce "Address" shown
  rw [twice] at single
  exact absurd single (by decide)

end Site

end SchemaPages
