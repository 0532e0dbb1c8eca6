import SchemaPages.Proofs.Site.Links
import SchemaPages.Proofs.View.Domains
/-!
# Shadowed classes

A class definition is shadowed when a schema that is merged before its own has defined the name. The
view then shows another class, but the attributes of the shadowed one are still merged as slots. So it
matters to a view exactly when it brings a slot forward that would not come next without it.

* `addNew_append_eq_iff`: when items in between make no difference to what is found;
* `Elements.foldl_addSchema`: merging schemas is adding all their definitions in order;
* `Shadowing`, `Shadowing.whole`, `Shadowing.rest`: a view with a shadowed class, and without it;
* `View.Unaffected`: two views have the same slots, slots of classes and plans;
* `unaffected_of_known`: it makes none whose attributes have the names of earlier slots;
* `unaffected_iff`: when a shadowed class makes no difference.
-/

namespace SchemaPages

/-! ## 1. Items in between -/

section AddNew

variable {α : Type} {name : α → String}

theorem addNew_append (found xs ys : List α) :
    addNew name found (xs ++ ys) = addNew name (addNew name found xs) ys :=
  List.foldl_append

/-- What would be found next anyway may be there before: by induction on the items, where the first
    new one has to be the first of those that are there. -/
theorem addNew_of_begins {found more items : List α}
    (h : found ++ more <+: addNew name found items) :
    addNew name (found ++ more) items = addNew name found items := by
  induction items generalizing found more with
  | nil =>
      have short : (found ++ more).length ≤ found.length := h.length_le
      rw [List.length_append] at short
      rw [List.length_eq_zero_iff.mp (show more.length = 0 by omega), List.append_nil]
  | cons b rest ih =>
      rw [addNew_cons] at h ⊢
      rw [addNew_cons]
      by_cases known : found.any (name · == name b) = true
      · have still : (found ++ more).any (name · == name b) = true := by
          rw [List.any_append, known, Bool.true_or]
        rw [if_pos known] at h ⊢
        rw [if_pos still]
        exact ih h
      · rw [if_neg known] at h ⊢
        cases more with
        | nil => rw [List.append_nil, if_neg known]
        | cons m ms =>
            have same : m = b := by
              have first := List.prefix_of_prefix_length_le
                (prefix_addNew (found ++ [b]) rest) h (by simp)
              obtain ⟨_, e⟩ := (List.prefix_append_right_inj found).mp first
              injection e with head
              exact head.symm
            subst same
            have there : (found ++ m :: ms).any (name · == name m) = true := by simp
            rw [if_pos there]
            rw [List.append_cons] at h ⊢
            exact ih h

/-- **Items in between make no difference** exactly when all that is found with them comes first
    among what is found without them. -/
theorem addNew_append_eq_iff {found xs ys : List α} :
    addNew name found (xs ++ ys) = addNew name found ys ↔
      addNew name found xs <+: addNew name found ys := by
  rw [addNew_append]
  constructor
  · intro same
    rw [← same]
    exact prefix_addNew _ ys
  · intro first
    obtain ⟨more, found_more⟩ : found <+: addNew name found xs := prefix_addNew found xs
    rw [← found_more] at first ⊢
    exact addNew_of_begins first

/-- Changing items without their names changes what is found in the same way. -/
theorem map_addNew {f : α → α} (h : ∀ a, name (f a) = name a) (found items : List α) :
    (addNew name found items).map f = addNew name (found.map f) (items.map f) := by
  induction items generalizing found with
  | nil => rfl
  | cons a rest ih =>
      have known : (found.map f).any (name · == name (f a)) = found.any (name · == name a) := by
        simp [List.any_map, Function.comp_def, h]
      rw [List.map_cons, addNew_cons, addNew_cons, known, ih]
      split
      · rfl
      · rw [List.map_append, List.map_singleton]

/-- An item whose name has come before makes no difference. -/
theorem addNew_known {found before after : List α} {a : α} (h : ∃ b ∈ before, name b = name a) :
    addNew name found (before ++ a :: after) = addNew name found (before ++ after) := by
  obtain ⟨b, hb, same⟩ := h
  have known : (addNew name found before).any (name · == name a) = true :=
    any_name_iff.mpr (same ▸ name_mem_addNew found hb)
  rw [addNew_append, addNew_append, addNew_cons, if_pos known]

/-- Items whose names have come before make no difference: by induction on them. -/
theorem addNew_all_known {found before items after : List α}
    (h : ∀ a ∈ items, ∃ b ∈ before, name b = name a) :
    addNew name found (before ++ (items ++ after)) = addNew name found (before ++ after) := by
  induction items with
  | nil => rfl
  | cons a rest ih =>
      rw [List.cons_append, addNew_known (h a List.mem_cons_self)]
      exact ih fun b hb => h b (List.mem_cons_of_mem _ hb)

end AddNew

/-! ## 2. Merging as one list -/

attribute [ext] Elements

/-- The slots that a schema defines: its own, then the attributes of its classes. -/
def Schema.slotDefinitions (t : Schema) : List Slot := t.slots ++ t.classes.flatMap Class.attributes

/-- **Merging schemas is adding all their definitions in order**: by induction on the schemas. -/
theorem Elements.foldl_addSchema (schemas : List Schema) (e : Elements) :
    schemas.foldl addSchema e =
      { classes := addNew Class.name e.classes (schemas.flatMap Schema.classes)
        slots := addNew Slot.name e.slots (schemas.flatMap Schema.slotDefinitions)
        types := addNew DataType.name e.types (schemas.flatMap Schema.types)
        enums := addNew Enumeration.name e.enums (schemas.flatMap Schema.enums)
        subsets := addNew Subset.name e.subsets (schemas.flatMap Schema.subsets) } := by
  induction schemas generalizing e with
  | nil => rfl
  | cons t rest ih =>
      rw [List.foldl_cons, ih, slots_addSchema]
      simp only [List.flatMap_cons, addNew_append, addSchema, Schema.slotDefinitions]

/-- A schema without its classes. -/
def Schema.bare (t : Schema) : Schema := { t with classes := [] }

namespace View

/-- A slot as a view shows it, with the classes that declare it. -/
def noted (v : View) (x : Slot) : Slot :=
  { x with domainOf := declaringClasses v.merged.classes x.name }

section Merged

variable {root : Schema} {imported : List Schema}

/-- **The elements of a view**, kind by kind as one list. -/
theorem merged_ofSchemas : (ofSchemas root imported).merged =
    Elements.withDomains
      { classes := addNew Class.name [] ((root :: imported.reverse).flatMap Schema.classes)
        slots := addNew Slot.name [] ((root :: imported.reverse).flatMap Schema.slotDefinitions)
        types := addNew DataType.name [] ((root :: imported.reverse).flatMap Schema.types)
        enums := addNew Enumeration.name [] ((root :: imported.reverse).flatMap Schema.enums)
        subsets := addNew Subset.name [] ((root :: imported.reverse).flatMap Schema.subsets) }
      (ofSchemas root imported).merged.classes := by
  rw [merged_classes]
  show Elements.withDomains ((root :: imported.reverse).foldl Elements.addSchema {}) _ = _
  rw [Elements.foldl_addSchema]
  rfl

theorem classes_ofSchemas : (ofSchemas root imported).merged.classes =
    addNew Class.name [] ((root :: imported.reverse).flatMap Schema.classes) :=
  congrArg Elements.classes merged_ofSchemas

theorem slots_ofSchemas : (ofSchemas root imported).merged.slots =
    (addNew Slot.name [] ((root :: imported.reverse).flatMap Schema.slotDefinitions)).map
      (ofSchemas root imported).noted :=
  congrArg Elements.slots merged_ofSchemas

theorem types_ofSchemas : (ofSchemas root imported).merged.types =
    addNew DataType.name [] ((root :: imported.reverse).flatMap Schema.types) :=
  congrArg Elements.types merged_ofSchemas

theorem enums_ofSchemas : (ofSchemas root imported).merged.enums =
    addNew Enumeration.name [] ((root :: imported.reverse).flatMap Schema.enums) :=
  congrArg Elements.enums merged_ofSchemas

theorem subsets_ofSchemas : (ofSchemas root imported).merged.subsets =
    addNew Subset.name [] ((root :: imported.reverse).flatMap Schema.subsets) :=
  congrArg Elements.subsets merged_ofSchemas

end Merged

/-! ## 3. Views that agree -/

section Agreement

variable {v w : View}

theorem class?_congr (h : v.merged.classes = w.merged.classes) : v.class? = w.class? := by
  funext n
  unfold class?
  rw [h]

theorem classAncestors_congr (h : v.merged.classes = w.merged.classes) :
    v.classAncestors = w.classAncestors := by
  funext n mixins reflexive
  unfold classAncestors classParents
  rw [class?_congr h, h]

/-- Which slots a class has, is a matter of the classes. -/
theorem classSlots_congr (h : v.merged.classes = w.merged.classes) : v.classSlots = w.classSlots := by
  funext n
  unfold classSlots
  rw [classAncestors_congr h, class?_congr h]

theorem slot?_congr (h : v.merged = w.merged) : v.slot? = w.slot? := by
  funext n
  unfold slot?
  rw [h]

theorem slotAncestors_congr (h : v.merged = w.merged) : v.slotAncestors = w.slotAncestors := by
  funext n mixins reflexive
  unfold slotAncestors slotParents
  rw [slot?_congr h, h]

theorem inducedSlot_congr (h : v.merged = w.merged) (root : v.root = w.root) :
    v.inducedSlot = w.inducedSlot := by
  have classes : v.merged.classes = w.merged.classes := by rw [h]
  funext n cls
  unfold inducedSlot baseSlot? usages defaultRange
  rw [classAncestors_congr classes, class?_congr classes, slot?_congr h, slotAncestors_congr h, root]

end Agreement

/-- Two views have the same elements, and schemas that differ in their classes at most. -/
structure Akin (v w : View) : Prop where
  merged : v.merged = w.merged
  root : v.root = w.root
  schemas : v.schemas.map Schema.bare = w.schemas.map Schema.bare

/-- The schema of an element is found by its identifier, whatever its classes. -/
theorem bare_owner (v : View) (e : Element) : (v.owner e).bare =
    (e.fromSchema.bind fun id => (v.schemas.map Schema.bare).find? (·.id == id)).getD v.root.bare := by
  unfold owner schemaOf?
  cases e.fromSchema with
  | none => rfl
  | some id =>
      rw [Option.bind_some, List.find?_map, Option.getD_map]
      rfl

theorem mintingPrefix_owner_congr {v w : View} (h : v.Akin w) (e : Element) :
    (v.owner e).mintingPrefix = (w.owner e).mintingPrefix := by
  have bare : (v.owner e).bare = (w.owner e).bare := by
    rw [bare_owner, bare_owner, h.schemas, h.root]
  show (v.owner e).bare.mintingPrefix = (w.owner e).bare.mintingPrefix
  rw [bare]

end View

namespace Site

variable {v w : View} {config : SiteConfig}

theorem name_congr (h : v.Akin w) : name ⟨v, config⟩ = name ⟨w, config⟩ :=
  funext fun e => name_eq_of rfl rfl rfl (View.mintingPrefix_owner_congr h e)

theorem hasPage_congr (h : v.Akin w) : hasPage ⟨v, config⟩ = hasPage ⟨w, config⟩ := by
  funext e
  cases e with
  | type t =>
      unfold hasPage leavesOut
      rw [h.root]
      rfl
  | _ => rfl

theorem importsClosure_congr (h : v.Akin w) : v.importsClosure = w.importsClosure := by
  have names : ∀ u : View, u.importsClosure = (u.schemas.map Schema.bare).map Schema.name := by
    intro u
    rw [List.map_map]
    rfl
  rw [names, names, h.schemas]

/-- **Views that differ in the classes of schemas at most, and not in their elements, have the same
    plans.** -/
theorem plan_congr (h : v.Akin w) : plan ⟨v, config⟩ = plan ⟨w, config⟩ := by
  have elements : allElements ⟨v, config⟩ = allElements ⟨w, config⟩ := by
    unfold allElements View.all View.elements
    rw [if_pos rfl, if_pos rfl, h.merged]
  have documents : elementDocument ⟨v, config⟩ = elementDocument ⟨w, config⟩ := by
    funext e
    unfold elementDocument
    rw [name_congr h]
    rfl
  unfold plan
  rw [elements, documents, hasPage_congr h, importsClosure_congr h]
  rfl

end Site

/-! ## 4. Shadowed classes -/

/-- **What a maintainer may ask of two views**: they have the same slots with the same classes noted on
    them, give classes the same slots in the same form, and lead to the same plans. -/
structure View.Unaffected (v w : View) : Prop where
  slots : v.all .slot true = w.all .slot true
  slot? : ∀ n, v.slot? n = w.slot? n
  classSlots : ∀ n, v.classSlots n = w.classSlots n
  inducedSlot : ∀ n cls, v.inducedSlot n cls = w.inducedSlot n cls
  plan : ∀ config, Site.plan ⟨v, config⟩ = Site.plan ⟨w, config⟩

/-- **A shadowed class** in one of the schemas that a root imports. Imports stand in the order of
    loading, so that those behind the schema are merged before it, and the root is first. -/
structure Shadowing where
  root : Schema
  older : List Schema
  schema : Schema
  newer : List Schema
  before : List Class
  lost : Class
  after : List Class
  defines : schema.classes = before ++ lost :: after
  /-- The root or a schema behind this one has a class of that name. -/
  shadowed : ∃ t ∈ root :: newer, ∃ c ∈ t.classes, c.name = lost.name

namespace Shadowing

/-- The view of all schemas as they are. -/
def whole (l : Shadowing) : View := .ofSchemas l.root (l.older ++ l.schema :: l.newer)

/-- The schema without the class. -/
def lighter (l : Shadowing) : Schema := { l.schema with classes := l.before ++ l.after }

/-- The view without the class. -/
def rest (l : Shadowing) : View := .ofSchemas l.root (l.older ++ l.lighter :: l.newer)

/-- The slots that are defined before the attributes of the class, in the order of merging. -/
def earlier (l : Shadowing) : List Slot :=
  (l.root :: l.newer.reverse).flatMap Schema.slotDefinitions ++ l.schema.slots ++
    l.before.flatMap Class.attributes

/-- The slots that are defined after the attributes of the class. -/
def later (l : Shadowing) : List Slot :=
  l.after.flatMap Class.attributes ++ l.older.reverse.flatMap Schema.slotDefinitions

/-- The slots that the view has once the attributes of the class are merged. -/
def reached (l : Shadowing) : List Slot :=
  (addNew Slot.name [] (l.earlier ++ l.lost.attributes)).map l.whole.noted

variable (l : Shadowing)

theorem order_whole : l.root :: (l.older ++ l.schema :: l.newer).reverse =
    (l.root :: l.newer.reverse) ++ l.schema :: l.older.reverse := by
  simp

theorem order_rest : l.root :: (l.older ++ l.lighter :: l.newer).reverse =
    (l.root :: l.newer.reverse) ++ l.lighter :: l.older.reverse := by
  simp

theorem akin_of_merged (h : l.whole.merged = l.rest.merged) : l.whole.Akin l.rest where
  merged := h
  root := rfl
  schemas := by
    show ((l.older ++ l.schema :: l.newer) ++ [l.root]).map Schema.bare =
      ((l.older ++ l.lighter :: l.newer) ++ [l.root]).map Schema.bare
    simp only [List.map_append, List.map_cons]
    rfl

/-- **A shadowed class is no class of the view**, with it or without. -/
theorem merged_classes_eq : l.whole.merged.classes = l.rest.merged.classes := by
  obtain ⟨t, ht, c, hc, same⟩ := l.shadowed
  have known : ∃ c ∈ (l.root :: l.newer.reverse).flatMap Schema.classes ++ l.before,
      c.name = l.lost.name := by
    refine ⟨c, List.mem_append_left _ (List.mem_flatMap.mpr ⟨t, ?_, hc⟩), same⟩
    simpa using ht
  have with_it : (l.root :: (l.older ++ l.schema :: l.newer).reverse).flatMap Schema.classes =
      ((l.root :: l.newer.reverse).flatMap Schema.classes ++ l.before) ++ l.lost ::
        (l.after ++ l.older.reverse.flatMap Schema.classes) := by
    simp [l.defines]
  have without : (l.root :: (l.older ++ l.lighter :: l.newer).reverse).flatMap Schema.classes =
      ((l.root :: l.newer.reverse).flatMap Schema.classes ++ l.before) ++
        (l.after ++ l.older.reverse.flatMap Schema.classes) := by
    simp [lighter]
  unfold whole rest
  rw [View.classes_ofSchemas, View.classes_ofSchemas, with_it, without, addNew_known known]

theorem noted_eq : l.whole.noted = l.rest.noted := by
  funext x
  unfold View.noted
  rw [merged_classes_eq]

theorem slots_whole : l.whole.merged.slots =
    (addNew Slot.name [] (l.earlier ++ (l.lost.attributes ++ l.later))).map l.whole.noted := by
  unfold whole
  rw [View.slots_ofSchemas, order_whole]
  simp only [earlier, later, Schema.slotDefinitions, l.defines, List.flatMap_append,
    List.flatMap_cons, List.append_assoc]

theorem slots_rest : l.rest.merged.slots =
    (addNew Slot.name [] (l.earlier ++ l.later)).map l.whole.noted := by
  rw [noted_eq]
  unfold rest
  rw [View.slots_ofSchemas, order_rest]
  simp only [earlier, later, lighter, Schema.slotDefinitions, List.flatMap_append,
    List.flatMap_cons, List.append_assoc]

/-- **The slots stay the same** exactly when all that is reached with the class comes first without
    it. -/
theorem slots_eq_iff : l.whole.merged.slots = l.rest.merged.slots ↔
    l.reached <+: l.rest.merged.slots := by
  have keeps : ∀ x, (l.whole.noted x).name = x.name := fun _ => rfl
  rw [slots_whole, slots_rest]
  unfold reached
  simp only [addNew_append _ l.earlier, map_addNew keeps, List.map_append]
  exact addNew_append_eq_iff

/-- The elements stay the same when the slots do. -/
theorem merged_eq_of_slots (h : l.whole.merged.slots = l.rest.merged.slots) :
    l.whole.merged = l.rest.merged := by
  have parts : ∀ {α : Type} (f : Schema → List α), f l.lighter = f l.schema →
      (l.root :: (l.older ++ l.schema :: l.newer).reverse).flatMap f =
        (l.root :: (l.older ++ l.lighter :: l.newer).reverse).flatMap f := by
    intro α f same
    simp [same]
  refine Elements.ext l.merged_classes_eq h ?_ ?_ ?_
  · show (View.ofSchemas _ _).merged.types = (View.ofSchemas _ _).merged.types
    rw [View.types_ofSchemas, View.types_ofSchemas, parts Schema.types rfl]
  · show (View.ofSchemas _ _).merged.enums = (View.ofSchemas _ _).merged.enums
    rw [View.enums_ofSchemas, View.enums_ofSchemas, parts Schema.enums rfl]
  · show (View.ofSchemas _ _).merged.subsets = (View.ofSchemas _ _).merged.subsets
    rw [View.subsets_ofSchemas, View.subsets_ofSchemas, parts Schema.subsets rfl]

/-- Every attribute of the class is a slot of the view, with classes noted on it as far as classes of
    the view declare it. -/
theorem exists_slot_of_attribute {a : Slot} (ha : a ∈ l.lost.attributes) :
    ∃ x ∈ l.whole.merged.slots, x.name = a.name ∧
      (x.domainOf = [] ↔ ∀ c ∈ l.whole.merged.classes, ¬ c.Declares a.name) := by
  have mem : l.schema ∈ l.whole.schemas := by
    show l.schema ∈ (l.older ++ l.schema :: l.newer) ++ [l.root]
    simp
  have defined : l.lost ∈ l.schema.classes := by
    rw [l.defines]
    exact List.mem_append_right _ List.mem_cons_self
  obtain ⟨x, hx, same⟩ :=
    List.mem_map.mp ((View.covers_merged mem).attributes l.lost defined a ha)
  refine ⟨x, hx, same, ?_⟩
  rw [← same, List.eq_nil_iff_forall_not_mem]
  constructor
  · intro none_noted c hc declares
    exact none_noted c.name ((View.mem_domainOf_iff true hx).mpr ⟨c, hc, rfl, declares⟩)
  · intro undeclared n hn
    obtain ⟨c, hc, _, declares⟩ := (View.mem_domainOf_iff true hx).mp hn
    exact undeclared c hc declares

/-- Slots of one name know the same classes with the shadowed class and without it. -/
theorem domainOf_eq {x y : Slot} (hx : x ∈ l.whole.merged.slots) (hy : y ∈ l.rest.merged.slots)
    (same : x.name = y.name) : x.domainOf = y.domainOf := by
  rw [View.domainOf_of_mem (show x ∈ (l.whole.elements true).slots from hx),
    View.domainOf_of_mem (show y ∈ (l.rest.elements true).slots from hy), same, merged_classes_eq]

end Shadowing

theorem View.unaffected_of_akin {v w : View} (h : v.Akin w) : v.Unaffected w where
  slots := by
    unfold View.all View.elements
    rw [if_pos rfl, if_pos rfl, h.merged]
  slot? _ := by rw [View.slot?_congr h.merged]
  classSlots _ := by rw [View.classSlots_congr (congrArg Elements.classes h.merged)]
  inducedSlot _ _ := by rw [View.inducedSlot_congr h.merged h.root]
  plan _ := Site.plan_congr h

theorem View.merged_slots_of_unaffected {v w : View} (h : v.Unaffected w) :
    v.merged.slots = w.merged.slots :=
  List.map_injective_iff.mpr (fun _ _ same => Element.slot.inj same) h.slots

/-- **A shadowed class makes no difference** when each of its attributes has the name of a slot or
    attribute that is merged before. -/
theorem unaffected_of_known (l : Shadowing)
    (h : ∀ a ∈ l.lost.attributes, ∃ b ∈ l.earlier, b.name = a.name) :
    l.whole.Unaffected l.rest := by
  have slots : l.whole.merged.slots = l.rest.merged.slots := by
    rw [l.slots_whole, l.slots_rest, addNew_all_known h]
  exact View.unaffected_of_akin (l.akin_of_merged (l.merged_eq_of_slots slots))

/-- **When a shadowed class makes no difference**: exactly when the slots that the view has once the
    attributes of the class are merged come first without it too. Whether or not, classes have the
    same slots, and slots of one name know the same classes. Every attribute of the shadowed class is
    a slot of the view, also where no class of the view declares it. -/
theorem unaffected_iff (l : Shadowing) :
    (l.whole.Unaffected l.rest ↔ l.reached <+: l.rest.merged.slots) ∧
    (∀ n, l.whole.classSlots n = l.rest.classSlots n) ∧
    (∀ x ∈ l.whole.merged.slots, ∀ y ∈ l.rest.merged.slots, x.name = y.name →
      x.domainOf = y.domainOf) ∧
    ∀ a ∈ l.lost.attributes, ∃ x ∈ l.whole.merged.slots, x.name = a.name ∧
      (x.domainOf = [] ↔ ∀ c ∈ l.whole.merged.classes, ¬ c.Declares a.name) := by
  refine ⟨⟨fun h => ?_, fun h => ?_⟩, fun n => ?_, fun x hx y hy => l.domainOf_eq hx hy,
    fun a ha => l.exists_slot_of_attribute ha⟩
  · exact l.slots_eq_iff.mp (View.merged_slots_of_unaffected h)
  · exact View.unaffected_of_akin (l.akin_of_merged (l.merged_eq_of_slots (l.slots_eq_iff.mpr h)))
  · rw [View.classSlots_congr l.merged_classes_eq]

/-- A class of the root, and a class of that name in an imported schema with an attribute. The root
    may define slots of its own. -/
def strayAttribute (slots : List Slot) : Shadowing where
  root := { id := "r", name := "r", classes := [{ name := "C" }], slots }
  older := []
  schema := { id := "i", name := "i", classes := [{ name := "C", attributes := [{ name := "x" }] }] }
  newer := []
  before := []
  lost := { name := "C", attributes := [{ name := "x" }] }
  after := []
  defines := rfl
  shadowed := ⟨_, List.mem_cons_self, _, List.mem_cons_self, rfl⟩

theorem unaffected_iff_known :
    (strayAttribute [{ name := "x" }]).whole.Unaffected (strayAttribute [{ name := "x" }]).rest :=
  (unaffected_iff (strayAttribute [{ name := "x" }])).1.mpr (by decide +kernel)

/-- **A shadowed class may bring a slot into the view** that no class of the view has. -/
theorem affected_stray : ¬ (strayAttribute []).whole.Unaffected (strayAttribute []).rest := by
  intro h
  have slots := View.merged_slots_of_unaffected h
  revert slots
  decide +kernel

end SchemaPages
