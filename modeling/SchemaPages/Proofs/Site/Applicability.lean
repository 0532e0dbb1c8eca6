import SchemaPages.Proofs.Site.PageLinks
import SchemaPages.Proofs.View.Domains
/-!
# Classes and their slots on pages

The page of a class has a row for each of its slots, the page of a slot a row for each class that
has it. Both pages agree on which slots these are and on where they come from.

* `Site.Applies`: a class or one above it declares a slot;
* `Site.SlotsBehind`, `Site.ClassesBehind`: what the rows of the two pages are for;
* `Site.Origins`: the classes above that a slot comes from;
* `origins_of_inheritedFrom`: the links of a row lead to exactly these;
* `class_and_slot_pages_agree`: both pages of a class and a slot.
-/

namespace SchemaPages

namespace Site

variable {s : Site} {c : Class} {t : Slot}

/-- The class has the slot of a name: the class itself or one above it declares it. -/
def Applies (s : Site) (c : Class) (slot : String) : Prop :=
  ∃ d ∈ s.view.merged.classes, s.view.Inherits c.name d.name ∧ d.Declares slot

/-! ## 1. What rows are for -/

/-- **The slots that the rows of a class page are for**, each by its name: a row shows the slot as
    the class has it. -/
structure SlotsBehind (s : Site) (c : Class) (p : ClassPage) (rows : List (String × SlotRow)) :
    Prop where
  shown : p.slots = rows.map Prod.snd
  distinct : (rows.map Prod.fst).Nodup
  built : ∀ n r, (n, r) ∈ rows → ∃ i, s.view.inducedSlot n (some c.name) = some i ∧
    r = s.slotRow c.name i

/-- **The classes that the rows of a slot page are for**: a row links a class of the view. -/
structure ClassesBehind (s : Site) (q : SlotPage) (rows : List (Class × ApplicableClass)) :
    Prop where
  shown : q.applicableClasses = rows.map Prod.snd
  distinct : (rows.map fun e => e.1.name).Nodup
  built : ∀ d a, (d, a) ∈ rows → d ∈ s.view.merged.classes ∧ a.link = s.link (.cls d) false ∧
    a.description = d.description

/-- The rows of a class page with the names of their slots. -/
def namedRows (s : Site) (c : Class) : List (String × SlotRow) :=
  (s.view.classSlots c.name).filterMap fun n =>
    (s.view.inducedSlot n (some c.name)).map fun i => (n, s.slotRow c.name i)

theorem mem_namedRows_iff {n : String} {r : SlotRow} :
    (n, r) ∈ s.namedRows c ↔ n ∈ s.view.classSlots c.name ∧
      ∃ i, s.view.inducedSlot n (some c.name) = some i ∧ r = s.slotRow c.name i := by
  unfold namedRows
  rw [List.mem_filterMap]
  constructor
  · rintro ⟨m, hm, found⟩
    obtain ⟨i, induced, same⟩ := Option.map_eq_some_iff.mp found
    cases same
    exact ⟨hm, i, induced, rfl⟩
  · rintro ⟨hn, i, induced, rfl⟩
    exact ⟨n, hn, Option.map_eq_some_iff.mpr ⟨i, induced, rfl⟩⟩

theorem slotsBehind_namedRows (s : Site) (c : Class) (examples : List Example) :
    s.SlotsBehind c (s.classPage c examples) (s.namedRows c) where
  shown := by
    show (s.view.classInducedSlots c.name).map (s.slotRow c.name) = _
    unfold View.classInducedSlots namedRows
    rw [List.map_filterMap, List.map_filterMap]
    simp [Function.comp_def]
  distinct := by
    unfold namedRows
    rw [List.map_filterMap]
    refine (s.view.nodup_classSlots c.name).filterMap fun n m k hn hm => ?_
    simp only [Option.map_map, Option.mem_def, Option.map_eq_some_iff] at hn hm
    obtain ⟨_, _, rfl⟩ := hn
    obtain ⟨_, _, same⟩ := hm
    exact same.symm
  built _ _ h := (mem_namedRows_iff.mp h).2

/-- The rows of a slot page with their classes. -/
def classRows (s : Site) (t : Slot) : List (Class × ApplicableClass) :=
  (s.view.merged.classes.filter fun d => (s.view.classSlots d.name).contains t.name).map fun d =>
    (d, ⟨s.link (.cls d) false, d.description, t.domainOf.contains d.name⟩)

theorem mem_classRows_iff {d : Class} {a : ApplicableClass} :
    (d, a) ∈ s.classRows t ↔ d ∈ s.view.merged.classes ∧ t.name ∈ s.view.classSlots d.name ∧
      a = ⟨s.link (.cls d) false, d.description, t.domainOf.contains d.name⟩ := by
  unfold classRows
  rw [List.mem_map]
  constructor
  · rintro ⟨e, he, same⟩
    cases same
    obtain ⟨he, has⟩ := List.mem_filter.mp he
    exact ⟨he, List.contains_iff_mem.mp has, rfl⟩
  · rintro ⟨hd, has, rfl⟩
    exact ⟨d, List.mem_filter.mpr ⟨hd, List.contains_iff_mem.mpr has⟩, rfl⟩

theorem classesBehind_classRows (s : Site) (t : Slot) :
    s.ClassesBehind (s.slotPage t) (s.classRows t) where
  shown := by
    show s.applicableClasses t = _
    unfold applicableClasses classRows
    rw [List.map_map]
    rfl
  distinct := by
    unfold classRows
    rw [List.map_map]
    exact (List.filter_sublist.map Class.name).nodup (s.view.distinct_elements true).classes
  built _ _ h := by
    obtain ⟨hd, _, rfl⟩ := mem_classRows_iff.mp h
    exact ⟨hd, rfl, rfl⟩

/-! ## 2. Where slots come from -/

/-- **The classes above that a class has a slot from**: exactly those above it that declare the
    slot, in the order of ancestors and each once. -/
structure Origins (s : Site) (c : Class) (slot : String) (origins : List Class) : Prop where
  mem : ∀ d, d ∈ origins ↔ d ∈ s.view.merged.classes ∧ d.name ≠ c.name ∧
    s.view.Inherits c.name d.name ∧ d.Declares slot
  order : (origins.map Class.name).Sublist (s.view.classAncestors c.name true false)
  distinct : (origins.map Class.name).Nodup

/-- A class is linked by its name as it is by itself. -/
theorem linkTo_class (hc : c ∈ s.view.merged.classes) (i : Bool) :
    s.linkTo c.name i = s.link (.cls c) i := by
  have found : s.view.elementOfKind? .cls c.name = some (.cls c) :=
    View.elementOfKind?_of_mem (e := .cls c) (List.mem_map_of_mem hc)
  unfold linkTo View.element?
  rw [List.findSome?_cons, found]

/-- Names of classes stand for classes, which have the same links. -/
theorem exists_classes_of_names {names : List String}
    (h : ∀ n ∈ names, ∃ d ∈ s.view.merged.classes, d.name = n) :
    ∃ ds : List Class, ds.map Class.name = names ∧ (∀ d ∈ ds, d ∈ s.view.merged.classes) ∧
      s.links names = ds.map fun d => s.link (.cls d) false := by
  induction names with
  | nil => exact ⟨[], rfl, fun _ hd => absurd hd List.not_mem_nil, rfl⟩
  | cons n rest ih =>
      obtain ⟨ds, names, mem, links⟩ := ih fun m hm => h m (List.mem_cons_of_mem _ hm)
      obtain ⟨d, hd, rfl⟩ := h n List.mem_cons_self
      refine ⟨d :: ds, by rw [List.map_cons, names], ?_, ?_⟩
      · intro e he
        rcases List.mem_cons.mp he with rfl | he
        · exact hd
        · exact mem e he
      · show s.linkTo d.name false :: s.links rest = _
        rw [linkTo_class hd, links]
        rfl

section Inherited

variable {i : Slot}

/-- A class has what it declares from nowhere else. -/
theorem inheritedFrom_of_declares (hc : c ∈ s.view.merged.classes) (ht : t ∈ s.view.merged.slots)
    (hi : i.domainOf = t.domainOf) (h : c.Declares t.name) : s.inheritedFrom i c.name = [] := by
  unfold inheritedFrom
  rw [hi, if_pos (List.contains_iff_mem.mpr ((View.name_mem_domainOf_iff hc ht).mpr h))]

/-- What a class does not declare it has from the ancestors that do. -/
theorem inheritedFrom_of_not_declares (hc : c ∈ s.view.merged.classes)
    (ht : t ∈ s.view.merged.slots) (hi : i.domainOf = t.domainOf) (h : ¬ c.Declares t.name) :
    s.inheritedFrom i c.name =
      (s.view.classAncestors c.name true false).filter t.domainOf.contains := by
  unfold inheritedFrom
  rw [hi, if_neg fun there =>
    h ((View.name_mem_domainOf_iff hc ht).mp (List.contains_iff_mem.mp there))]

/-- **The links of a row lead to where the slot comes from**, when the class does not declare it. -/
theorem origins_of_inheritedFrom (hc : c ∈ s.view.merged.classes) (ht : t ∈ s.view.merged.slots)
    (hi : i.domainOf = t.domainOf) (h : ¬ c.Declares t.name) :
    ∃ origins, s.Origins c t.name origins ∧
      (s.slotRow c.name i).inheritedFrom = origins.map fun d => s.link (.cls d) false := by
  have names := inheritedFrom_of_not_declares hc ht hi h
  have mem : ∀ n, n ∈ s.inheritedFrom i c.name ↔ (n ≠ c.name ∧ s.view.Inherits c.name n) ∧
      ∃ d ∈ s.view.merged.classes, d.name = n ∧ d.Declares t.name := by
    intro n
    rw [names, List.mem_filter, List.contains_iff_mem, View.mem_classAncestors_iff,
      View.mem_domainOf_iff true ht]
  have known : ∀ n ∈ s.inheritedFrom i c.name, ∃ d ∈ s.view.merged.classes, d.name = n := by
    intro n hn
    obtain ⟨_, d, hd, name, _⟩ := (mem n).mp hn
    exact ⟨d, hd, name⟩
  obtain ⟨ds, same, known, links⟩ := exists_classes_of_names known
  have order : (ds.map Class.name).Sublist (s.view.classAncestors c.name true false) := by
    rw [same, names]
    exact List.filter_sublist
  refine ⟨ds, ⟨fun d => ⟨fun hd => ?_, ?_⟩, order,
    order.nodup (s.view.nodup_classAncestors c.name true)⟩, links⟩
  · obtain ⟨⟨other, above⟩, e, he, name, declares⟩ :=
      (mem d.name).mp (same ▸ List.mem_map_of_mem hd)
    exact ⟨known d hd, other, above, View.eq_of_class_name he (known d hd) name ▸ declares⟩
  · rintro ⟨hd, other, above, declares⟩
    have listed := (mem d.name).mpr ⟨⟨other, above⟩, d, hd, rfl, declares⟩
    rw [← same] at listed
    obtain ⟨e, he, name⟩ := List.mem_map.mp listed
    exact View.eq_of_class_name (known e he) hd name ▸ he

/-- A slot that a class has and does not declare comes from somewhere. -/
theorem origins_ne_nil {slot : String} {origins : List Class} (ho : s.Origins c slot origins)
    (hc : c ∈ s.view.merged.classes) (applies : s.Applies c slot) (h : ¬ c.Declares slot) :
    origins ≠ [] := by
  obtain ⟨d, hd, above, declares⟩ := applies
  exact List.ne_nil_of_mem ((ho.mem d).mpr
    ⟨hd, fun same => h (View.eq_of_class_name hd hc same ▸ declares), above, declares⟩)

end Inherited

/-! ## 3. Both pages -/

/-- The page of a class of the view shows this class. -/
theorem classPage_of_page {fs : FileSystem} {p : ClassPage} (hc : c ∈ s.view.merged.classes)
    (hp : s.page? fs (.element .cls c.name) = .ok (some (.cls p))) :
    ∃ examples, p = s.classPage c examples := by
  have found : s.view.elementOfKind? .cls c.name = some (.cls c) :=
    View.elementOfKind?_of_mem (e := .cls c) (List.mem_map_of_mem hc)
  unfold page? at hp
  simp only [found] at hp
  obtain ⟨examples, same⟩ := classPage_of_elementPage hp
  exact ⟨examples, Page.cls.inj same⟩

/-- The page of a slot of the view shows the slot as it is apart from any class. -/
theorem slotPage_of_mem {fs : FileSystem} {i : Slot} (ht : t ∈ s.view.merged.slots)
    (hi : s.view.inducedSlot t.name none = some i) :
    s.page? fs (.element .slot t.name) = .ok (some (.slot (s.slotPage i))) := by
  have found : s.view.elementOfKind? .slot t.name = some (.slot t) :=
    View.elementOfKind?_of_mem (e := .slot t) (List.mem_map_of_mem ht)
  unfold page?
  simp only [found, elementPage, hi]
  rfl

/-- There is a row for a slot of the view on a class page when the class has the slot. -/
theorem exists_namedRow_iff (ht : t ∈ s.view.merged.slots) :
    (∃ r, (t.name, r) ∈ s.namedRows c) ↔ t.name ∈ s.view.classSlots c.name := by
  constructor
  · rintro ⟨r, hr⟩
    exact (mem_namedRows_iff.mp hr).1
  · intro has
    obtain ⟨i, induced, _⟩ := View.exists_inducedSlot ht (some c.name)
    exact ⟨_, mem_namedRows_iff.mpr ⟨has, i, induced, rfl⟩⟩

/-- There is a row for a class of the view on a slot page when the class has the slot. -/
theorem exists_classRow_iff (hc : c ∈ s.view.merged.classes) :
    (∃ a, (c, a) ∈ s.classRows t) ↔ t.name ∈ s.view.classSlots c.name := by
  constructor
  · rintro ⟨a, ha⟩
    exact (mem_classRows_iff.mp ha).2.1
  · exact fun has => ⟨_, mem_classRows_iff.mpr ⟨hc, has, rfl⟩⟩

/-- **The pages of a class and of a slot agree.** The class page has one row for the slot exactly
    when the slot page has one for the class, which is when the class or one above it declares the
    slot. The slot page calls the class direct exactly when the row of the slot shows no origin,
    which is when the class declares the slot itself; otherwise the row links the classes above that
    declare it, of which there is one at least. -/
theorem class_and_slot_pages_agree (s : Site) (fs : FileSystem) (c : Class) (t : Slot)
    (p : ClassPage) (hc : c ∈ s.view.merged.classes) (ht : t ∈ s.view.merged.slots)
    (hp : s.page? fs (.element .cls c.name) = .ok (some (.cls p))) :
    ∃ q, s.page? fs (.element .slot t.name) = .ok (some (.slot q)) ∧
      ∃ slots classes, s.SlotsBehind c p slots ∧ s.ClassesBehind q classes ∧
        ((∃ r, (t.name, r) ∈ slots) ↔ ∃ a, (c, a) ∈ classes) ∧
        ((∃ r, (t.name, r) ∈ slots) ↔ s.Applies c t.name) ∧
        ∀ r a, (t.name, r) ∈ slots → (c, a) ∈ classes →
          (a.direct = true ↔ r.inheritedFrom = []) ∧
          (r.inheritedFrom = [] ↔ c.Declares t.name) ∧
          (¬ c.Declares t.name → ∃ origins, origins ≠ [] ∧ s.Origins c t.name origins ∧
            r.inheritedFrom = origins.map fun d => s.link (.cls d) false) := by
  obtain ⟨examples, rfl⟩ := classPage_of_page hc hp
  obtain ⟨i, induced, iname, idomain⟩ := View.exists_inducedSlot ht none
  refine ⟨s.slotPage i, slotPage_of_mem ht induced, s.namedRows c, s.classRows i,
    slotsBehind_namedRows s c examples, classesBehind_classRows s i, ?_, ?_, ?_⟩
  · rw [exists_namedRow_iff ht, exists_classRow_iff hc, iname]
  · rw [exists_namedRow_iff ht]
    exact View.mem_classSlots_iff
  · intro r a hr ha
    obtain ⟨has, j, jinduced, rfl⟩ := mem_namedRows_iff.mp hr
    obtain ⟨_, _, rfl⟩ := mem_classRows_iff.mp ha
    have jdomain := View.domainOf_of_inducedSlot ht jinduced
    have applies : s.Applies c t.name := View.mem_classSlots_iff.mp has
    have direct : i.domainOf.contains c.name = true ↔ c.Declares t.name := by
      rw [idomain, List.contains_iff_mem]
      exact View.name_mem_domainOf_iff hc ht
    have empty : (s.slotRow c.name j).inheritedFrom = [] ↔ c.Declares t.name := by
      constructor
      · intro none_shown
        by_contra h
        obtain ⟨origins, ho, links⟩ := origins_of_inheritedFrom hc ht jdomain h
        rw [links, List.map_eq_nil_iff] at none_shown
        exact origins_ne_nil ho hc applies h none_shown
      · intro declares
        show s.links (s.inheritedFrom j c.name) = []
        rw [inheritedFrom_of_declares hc ht jdomain declares]
        rfl
    refine ⟨direct.trans empty.symm, empty, fun h => ?_⟩
    obtain ⟨origins, ho, links⟩ := origins_of_inheritedFrom hc ht jdomain h
    exact ⟨origins, origins_ne_nil ho hc applies h, ho, links⟩

/-- A class that declares a slot. -/
def livingThing : Class := { name := "living thing", slots := ["age"], isA := some "person" }

/-- A class below it, which stands above it too and has a parent that is nowhere. -/
def person : Class := { name := "person", isA := some "living thing", mixins := ["agent"] }

/-- A site of both classes and their slot. -/
def livingThings : Site where
  view := View.ofSchemas
    { id := "p", name := "p", slots := [{ name := "age" }], classes := [livingThing, person] } []
  config := {}

/-- The slot, with the class that declares it. -/
def age : Slot := { name := "age", domainOf := ["living thing"] }

theorem class_and_slot_pages_agree_person :
    person ∈ livingThings.view.merged.classes ∧ age ∈ livingThings.view.merged.slots ∧
      ∃ p q, livingThings.page? {} (.element .cls "person") = .ok (some (.cls p)) ∧
        livingThings.page? {} (.element .slot "age") = .ok (some (.slot q)) ∧
        ∃ r ∈ p.slots, ∃ a ∈ q.applicableClasses, a.direct = false ∧
          livingThings.link (.cls livingThing) false ∈ r.inheritedFrom := by
  have parent : livingThing ∈ livingThings.view.merged.classes := .head _
  have child : person ∈ livingThings.view.merged.classes := .tail _ (.head _)
  have slot : age ∈ livingThings.view.merged.slots := .head _
  have shown : livingThings.page? {} (.element .cls person.name) =
      .ok (some (.cls (livingThings.classPage person []))) := rfl
  obtain ⟨q, qshown, slots, classes, rows, listed, agree, applies, origin⟩ :=
    class_and_slot_pages_agree livingThings {} person age _ child slot shown
  have inherits : livingThings.view.Inherits person.name livingThing.name := by
    refine .single ?_
    decide
  have declares : livingThing.Declares age.name := Or.inl (.head _)
  have undeclared : ¬ person.Declares age.name := by
    rw [Class.declares_iff]
    decide
  obtain ⟨r, hr⟩ := applies.mpr ⟨livingThing, parent, inherits, declares⟩
  obtain ⟨a, ha⟩ := agree.mp ⟨r, hr⟩
  obtain ⟨direct, own, above⟩ := origin r a hr ha
  obtain ⟨origins, _, exact, links⟩ := above undeclared
  refine ⟨child, slot, _, q, shown, qshown, r, ?_, a, ?_, ?_, ?_⟩
  · exact rows.shown ▸ List.mem_map_of_mem (f := Prod.snd) hr
  · exact listed.shown ▸ List.mem_map_of_mem (f := Prod.snd) ha
  · exact Bool.eq_false_iff.mpr fun marked => undeclared (own.mp (direct.mp marked))
  · rw [links]
    exact List.mem_map_of_mem ((exact.mem livingThing).mpr
      ⟨parent, by decide, inherits, declares⟩)

end Site

end SchemaPages
