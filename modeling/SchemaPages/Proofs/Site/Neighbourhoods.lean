import SchemaPages.Proofs.Site.DiagramTexts
import SchemaPages.Proofs.View.Induced
import SchemaPages.Site.PageContent
/-!
# Diagrams of neighbourhoods

The diagram on the page of a class is about the class, what is directly above and below it, and what
its slots lead to. Where a slot leads is looked up in the slot of the view; a diagram then takes the
slot as the class has it. The two may differ, and a slot that leads to a class which is not drawn is
no association.

* `Site.pageClasses`, `Site.pageStatements`: what the diagram on the page of a class shows;
* `Site.PointsTo`, `Site.AssociationsShown`: the slots of a class that lead to classes, as they should
  be shown;
* `Site.Neighbour`, `mem_pageClasses_iff`: the classes that the diagram draws;
* `Site.KeepsRange`, `range_of_keepsRange`: a class that takes the range of a slot as the view has it;
* `associationsShown_iff`: when every association of the class is shown.
-/

namespace SchemaPages

namespace Site

open Diagram (Statement directSlots target?)

/-! ## 1. What the page of a class shows -/

/-- The classes of the diagram on the page of a class. -/
def pageClasses (s : Site) (c : Class) : List String :=
  Diagram.drawnNames s.view (s.neighbourhood c)

/-- What the diagram on the page of a class says in a notation. -/
def pageStatements (s : Site) (c : Class) (t : DiagramType) : List Statement :=
  (Diagram.ofClasses s.view (s.neighbourhood c)).statements s.clickTargets t

/-- The class declares the slot, and as the class has it, it leads to a class of the view. -/
structure PointsTo (s : Site) (c : Class) (i : Slot) (r : String) : Prop where
  declared : ∃ n ∈ c.directSlotNames, s.view.inducedSlot n (some c.name) = some i
  range : i.range = some r
  known : (s.view.class? r).isSome

/-- **The page of a class shows its associations**: where a slot of the class leads to a class, the
    diagram draws this class, and the slot is an association with it and no attribute. -/
def AssociationsShown (s : Site) (c : Class) (t : DiagramType) : Prop :=
  ∀ i r, s.PointsTo c i r →
    r ∈ s.pageClasses c ∧
      (c.name, i, r) ∈ (s.pageStatements c t).flatMap Statement.associations ∧
      (c.name, i) ∉ (s.pageStatements c t).flatMap Statement.attributes

/-! ## 2. What the diagram draws -/

/-- The class itself, the classes directly above and below it, and the ranges that its slots have in
    the view. -/
def Neighbour (s : Site) (c : Class) (r : String) : Prop :=
  r = c.name ∨ r ∈ s.view.classParents c.name true true ∨
    r ∈ s.view.classChildren c.name true true ∨
    ∃ n ∈ c.directSlotNames, ∃ d, s.view.slot? n = some d ∧ d.range = some r

section Drawn

variable {s : Site} {c : Class} {i : Slot} {n r : String}

/-- Every attribute of a class of the view has a slot of the view. -/
theorem attribute?_eq_none (hc : c ∈ s.view.merged.classes) (h : s.view.slot? n = none) :
    c.attribute? n = none := by
  obtain ⟨schema, hs, defined⟩ := View.exists_schema_of_class hc
  refine List.find?_eq_none.mpr fun a ha named => ?_
  obtain ⟨d, hd, same⟩ := List.mem_map.mp ((View.covers_merged hs).attributes c defined a ha)
  have other := List.find?_eq_none.mp h d hd
  rw [same] at other
  exact other named

/-- **A neighbourhood looks ranges up in the slots of the view** alone: the attributes of the class
    would come into it only where the view has no slot of the name. -/
theorem declaredClassRange?_eq (hc : c ∈ s.view.merged.classes) (n : String) :
    s.declaredClassRange? c n =
      ((s.view.slot? n).bind Slot.range).filter fun r => (s.view.class? r).isSome := by
  unfold declaredClassRange?
  cases h : s.view.slot? n with
  | some d => rfl
  | none => rw [attribute?_eq_none hc h, Option.or_none]

theorem declaredClassRange?_eq_some_iff (hc : c ∈ s.view.merged.classes) :
    s.declaredClassRange? c n = some r ↔
      (∃ d, s.view.slot? n = some d ∧ d.range = some r) ∧ (s.view.class? r).isSome := by
  rw [declaredClassRange?_eq hc, Option.filter_eq_some_iff, Option.bind_eq_some_iff]

/-- A class of the view is in a neighbourhood exactly if it is a neighbour. -/
theorem mem_neighbourhood_iff (hc : c ∈ s.view.merged.classes) (known : (s.view.class? r).isSome) :
    r ∈ s.neighbourhood c ↔ s.Neighbour c r := by
  have ranges : r ∈ c.directSlotNames.filterMap (s.declaredClassRange? c) ↔
      ∃ n ∈ c.directSlotNames, ∃ d, s.view.slot? n = some d ∧ d.range = some r := by
    simp only [List.mem_filterMap, declaredClassRange?_eq_some_iff hc, known, and_true]
  unfold neighbourhood Neighbour
  rw [(firstOccurrences_addNew _).mem, List.mem_append, List.mem_append, List.mem_cons, ranges,
    or_assoc, or_assoc]

theorem neighbourhood_ne_nil (hc : c ∈ s.view.merged.classes) : s.neighbourhood c ≠ [] := by
  have known : (s.view.class? c.name).isSome := by rw [View.class?_of_mem hc, Option.isSome_some]
  exact List.ne_nil_of_mem ((mem_neighbourhood_iff hc known).mpr (Or.inl rfl))

/-- **The diagram on the page of a class draws its neighbours.** -/
theorem mem_pageClasses_iff (hc : c ∈ s.view.merged.classes) :
    r ∈ s.pageClasses c ↔ (s.view.class? r).isSome ∧ s.Neighbour c r := by
  unfold pageClasses
  rw [Diagram.mem_drawnNames_iff, Diagram.subjects, if_neg (neighbourhood_ne_nil hc), and_comm]
  exact and_congr_right (mem_neighbourhood_iff hc)

/-- The class itself is drawn on its page. -/
theorem name_mem_pageClasses (hc : c ∈ s.view.merged.classes) : c.name ∈ s.pageClasses c :=
  (mem_pageClasses_iff hc).mpr ⟨by rw [View.class?_of_mem hc, Option.isSome_some], Or.inl rfl⟩

/-! ## 3. How slots are shown -/

theorem mem_drawn_classes (hc : c ∈ s.view.merged.classes) :
    c ∈ (s.pageClasses c).filterMap s.view.class? :=
  List.mem_filterMap.mpr ⟨c.name, name_mem_pageClasses hc, View.class?_of_mem hc⟩

theorem mem_directSlots (h : s.PointsTo c i r) : i ∈ directSlots s.view c := by
  obtain ⟨n, hn, induced⟩ := h.declared
  exact List.mem_filterMap.mpr ⟨n, hn, induced⟩

theorem target?_of_pointsTo (h : s.PointsTo c i r) (drawn : List String) :
    target? drawn i = if r ∈ drawn then some r else none := by
  unfold target?
  rw [h.range, Option.filter_some]
  simp only [decide_eq_true_eq]

/-- What the page of a class shows are the classes of its diagram. -/
theorem shows_pageStatements (s : Site) (c : Class) (t : DiagramType) :
    Diagram.Shows s.view (s.pageClasses c) (s.pageStatements c t) :=
  Diagram.shows_statements s.view (s.neighbourhood c) s.clickTargets t

/-- **A slot that leads to a class is an association if this class is drawn.** -/
theorem mem_associations_iff (hc : c ∈ s.view.merged.classes) (h : s.PointsTo c i r)
    (t : DiagramType) :
    (c.name, i, r) ∈ (s.pageStatements c t).flatMap Statement.associations ↔
      r ∈ s.pageClasses c := by
  rw [(s.shows_pageStatements c t).associations]
  constructor
  · intro shown
    obtain ⟨d, _, shown⟩ := List.mem_flatMap.mp shown
    obtain ⟨j, _, found⟩ := List.mem_filterMap.mp shown
    obtain ⟨q, hq, same⟩ := Option.map_eq_some_iff.mp found
    obtain ⟨_, rfl, rfl⟩ : d.name = c.name ∧ j = i ∧ q = r := by simpa using same
    simpa using (Option.mem_filter_iff.mp hq).2
  · intro drawn
    refine List.mem_flatMap.mpr ⟨c, mem_drawn_classes hc, ?_⟩
    refine List.mem_filterMap.mpr ⟨i, mem_directSlots h, ?_⟩
    rw [target?_of_pointsTo h, if_pos drawn, Option.map_some]

/-- **It is an attribute if this class is not drawn.** -/
theorem mem_attributes_iff (hc : c ∈ s.view.merged.classes) (h : s.PointsTo c i r)
    (t : DiagramType) :
    (c.name, i) ∈ (s.pageStatements c t).flatMap Statement.attributes ↔ r ∉ s.pageClasses c := by
  rw [(s.shows_pageStatements c t).attributes]
  constructor
  · intro shown drawn
    obtain ⟨d, _, shown⟩ := List.mem_flatMap.mp shown
    obtain ⟨j, hj, same⟩ := List.mem_map.mp shown
    obtain ⟨_, rfl⟩ : d.name = c.name ∧ j = i := by simpa using same
    have nowhere := (List.mem_filter.mp hj).2
    rw [target?_of_pointsTo h, if_pos drawn] at nowhere
    cases nowhere
  · intro missing
    refine List.mem_flatMap.mpr ⟨c, mem_drawn_classes hc, ?_⟩
    refine List.mem_map_of_mem (List.mem_filter.mpr ⟨mem_directSlots h, ?_⟩)
    rw [target?_of_pointsTo h, if_neg missing]
    rfl

end Drawn

/-! ## 4. Ranges that classes keep -/

/-- The class takes the range of a slot as the view has it: neither it nor a class above it refines
    the range, and the definition that the slot starts from has the range of the slot of the view. -/
structure KeepsRange (s : Site) (c : Class) (n : String) : Prop where
  unrefined : ∀ u ∈ s.view.usages n (s.view.lineage (some c.name)), u.range = none
  start : ∃ d r, s.view.slot? n = some d ∧ d.range = some r ∧
    ∀ base, s.view.baseSlot? n (s.view.lineage (some c.name)) = some base → base.range = some r

/-- **A class that keeps a range has it.** -/
theorem range_of_keepsRange {s : Site} {c : Class} {n : String} {i : Slot} (h : s.KeepsRange c n)
    (induced : s.view.inducedSlot n (some c.name) = some i) :
    ∃ d, s.view.slot? n = some d ∧ d.range = i.range := by
  obtain ⟨d, r, found, declared, same⟩ := h.start
  obtain ⟨base, start, made⟩ := View.exists_base_of_inducedSlot induced
  refine ⟨d, found, ?_⟩
  rw [declared, View.range_of_unrefined made h.unrefined (same base start)]

/-! ## 5. When associations are shown -/

/-- **When the page of a class shows its associations.** Its diagram is a text in which every
    statement is written. A slot that leads to a class is an association there if this class is the
    class itself, directly above or below it, or the range that one of its slots has in the view, and
    an attribute if it is none of these. So all associations are shown exactly when each slot leads to
    one of these, and they are where the class takes the ranges of its slots as the view has them. -/
theorem associationsShown_iff {s : Site} {c : Class} {t : DiagramType}
    (hc : c ∈ s.view.merged.classes) (ht : s.config.diagramType = some t) :
    (∀ examples, ∃ text, (s.classPage c examples).diagram =
        some ("\x60\x60\x60" ++ s.fence t ++ "\n" ++ text ++ "\x60\x60\x60\n") ∧
      Diagram.Written t (s.pageStatements c t) text) ∧
    (∀ i r, s.PointsTo c i r →
      ((c.name, i, r) ∈ (s.pageStatements c t).flatMap Statement.associations ↔
        s.Neighbour c r) ∧
      ((c.name, i) ∈ (s.pageStatements c t).flatMap Statement.attributes ↔
        ¬ s.Neighbour c r)) ∧
    (s.AssociationsShown c t ↔ ∀ i r, s.PointsTo c i r → s.Neighbour c r) ∧
    ((∀ n ∈ c.directSlotNames, s.KeepsRange c n) → s.AssociationsShown c t) := by
  have drawn : ∀ i r, s.PointsTo c i r → (r ∈ s.pageClasses c ↔ s.Neighbour c r) :=
    fun i r h => (mem_pageClasses_iff hc).trans (and_iff_right h.known)
  have shown : s.AssociationsShown c t ↔ ∀ i r, s.PointsTo c i r → s.Neighbour c r := by
    refine forall_congr' fun i => forall_congr' fun r => forall_congr' fun h => ?_
    rw [mem_associations_iff hc h, mem_attributes_iff hc h, not_not, and_self, and_self,
      drawn i r h]
  refine ⟨fun examples => ?_, fun i r h => ?_, shown, fun kept => shown.mpr fun i r h => ?_⟩
  · refine ⟨_, ?_, Diagram.written_render _ s.clickTargets t⟩
    show s.diagram? (s.neighbourhood c) = _
    rw [diagram?, ht]
    rfl
  · rw [mem_associations_iff hc h, mem_attributes_iff hc h, drawn i r h]
    exact ⟨Iff.rfl, Iff.rfl⟩
  · obtain ⟨n, hn, induced⟩ := h.declared
    obtain ⟨d, found, same⟩ := range_of_keepsRange (kept n hn) induced
    exact Or.inr (Or.inr (Or.inr ⟨n, hn, d, found, same.trans h.range⟩))

/-- A person and an address lead to each other, but another class has an attribute of the same name as
    the person's. -/
def delivery : Site where
  view := View.ofSchemas
    { id := "p", name := "p"
      classes := [
        { name := "Parcel", attributes := [{ name := "address" }] },
        { name := "Person", attributes := [{ name := "address", range := some "Address" }] },
        { name := "Address", attributes := [{ name := "owner", range := some "Person" }] }] } []
  config := { diagramType := some .mermaidClass }

/-- The class of addresses. -/
def addressClass : Class where
  name := "Address"
  attributes := [{ name := "owner", range := some "Person" }]

/-- The class of persons. -/
def personClass : Class where
  name := "Person"
  attributes := [{ name := "address", range := some "Address" }]

/-- An attribute that has its name to itself is shown as an association. -/
theorem associationsShown_iff_address :
    addressClass ∈ delivery.view.merged.classes ∧
      delivery.config.diagramType = some .mermaidClass ∧
      delivery.AssociationsShown addressClass .mermaidClass := by
  have found : delivery.view.class? "Address" = some addressClass := rfl
  have there := (View.mem_of_class? found).1
  refine ⟨there, rfl, (associationsShown_iff there rfl).2.2.2 fun n hn => ?_⟩
  obtain rfl : n = "owner" := by simpa [addressClass, Class.directSlotNames] using hn
  have lineage : delivery.view.lineage (some addressClass.name) = ["Address"] :=
    View.lineage_of_no_parents rfl
  have start : delivery.view.baseSlot? "owner" ["Address"] =
      some { name := "owner", range := some "Person" } := rfl
  exact {
    unrefined := by
      rw [lineage]
      exact fun u hu => absurd hu List.not_mem_nil
    start := by
      refine ⟨_, "Person", rfl, rfl, fun base found => ?_⟩
      rw [lineage, start] at found
      exact Option.some.inj found ▸ rfl }

/-- **An association that is not shown.** The slot of the view is the attribute of the first class that
    has one of its name, so the page of a person does not draw the class that its own attribute leads
    to. -/
theorem association_not_shown :
    personClass ∈ delivery.view.merged.classes ∧ delivery.hasPage (.cls personClass) = true ∧
      delivery.config.diagramType = some .mermaidClass ∧
      ¬ delivery.AssociationsShown personClass .mermaidClass := by
  have found : delivery.view.class? "Person" = some personClass := rfl
  refine ⟨(View.mem_of_class? found).1, rfl, rfl, fun shown => ?_⟩
  have lineage : delivery.view.lineage (some "Person") = ["Person"] :=
    View.lineage_of_no_parents rfl
  have start : delivery.view.baseSlot? "address" (delivery.view.lineage (some "Person")) =
      some { name := "address", range := some "Address" } := by
    rw [lineage]
    rfl
  obtain ⟨i, induced, made⟩ := View.exists_induced start
  have range : i.range = some "Address" := by
    refine View.range_of_unrefined made ?_ rfl
    rw [lineage]
    exact fun u hu => absurd hu List.not_mem_nil
  have points : delivery.PointsTo personClass i "Address" :=
    ⟨⟨"address", by decide, induced⟩, range, rfl⟩
  have drawn : delivery.pageClasses personClass = ["Person"] := rfl
  have there := (shown i "Address" points).1
  rw [drawn] at there
  exact absurd there (by decide)

end Site

end SchemaPages
