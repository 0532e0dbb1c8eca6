import SchemaPages.Proofs.View.Domains
import SchemaPages.View.Uri
/-!
# Definitions by name

Several schemas may define one name. A view takes the definition of the last schema that has one,
and within a schema the first definition, where attributes come after slots. Prefixes are taken in
the same way.

* `Schema.definition?`: what a schema defines by a name;
* `View.elementOfKind?_eq_findSome?`, `View.expansion?_eq_findSome?`: what a view takes;
* `View.Consistent`, `View.consistent_ofSchemas`: what holds of every view.
-/

namespace SchemaPages

/-! ## 1. Definitions of schemas -/

/-- The definitions of a kind in a schema; attributes come after slots. -/
def Schema.definitions (t : Schema) : Kind → List Element
  | .cls => t.classes.map .cls
  | .slot => (t.slots ++ t.classes.flatMap Class.attributes).map .slot
  | .type => t.types.map .type
  | .enum => t.enums.map .enum
  | .subset => t.subsets.map .subset

/-- **What a schema defines** by a name. -/
def Schema.definition? (t : Schema) (k : Kind) (n : String) : Option Element :=
  (t.definitions k).find? (·.name == n)

/-- The first item of a name, or else the first one that is added. -/
theorem find?_addNew {α : Type} {name : α → String} (found items : List α) (n : String) :
    (addNew name found items).find? (name · == n) =
      (found.find? (name · == n)).or (items.find? (name · == n)) := by
  induction items generalizing found with
  | nil => simp [addNew]
  | cons a rest ih =>
      rw [addNew_cons, ih, List.find?_cons]
      by_cases same : name a = n
      · -- the item is what is looked for: either its name is there before, or it comes next
        split
        · rename_i there
          obtain ⟨b, hb, hbn⟩ := List.mem_map.mp (any_name_iff.mp there)
          have known : (found.find? (name · == n)).isSome :=
            List.find?_isSome.mpr ⟨b, hb, by simp [hbn, same]⟩
          obtain ⟨c, hc⟩ := Option.isSome_iff_exists.mp known
          rw [hc, Option.some_or, Option.some_or]
        · simp [List.find?_append, same]
      · have other : (name a == n) = false := by simpa using same
        rw [other]
        split
        · rfl
        · simp [List.find?_append, other]

namespace Elements

variable {k : Kind} {n : String}

/-- What is there comes before what a schema adds. -/
theorem find?_addSchema (e : Elements) (t : Schema) :
    ((e.addSchema t).ofKind k).find? (·.name == n) =
      ((e.ofKind k).find? (·.name == n)).or (t.definition? k n) := by
  unfold Schema.definition?
  cases k <;> simp only [ofKind, Schema.definitions, List.find?_map, ← Option.map_or]
  · exact congrArg (Option.map Element.cls) (find?_addNew e.classes t.classes n)
  · rw [slots_addSchema]
    exact congrArg (Option.map Element.slot) (find?_addNew e.slots _ n)
  · exact congrArg (Option.map Element.type) (find?_addNew e.types t.types n)
  · exact congrArg (Option.map Element.enum) (find?_addNew e.enums t.enums n)
  · exact congrArg (Option.map Element.subset) (find?_addNew e.subsets t.subsets n)

/-- **The first schema that defines a name** gives its definition. -/
theorem find?_ofSchemas (schemas : List Schema) :
    ((ofSchemas schemas).ofKind k).find? (·.name == n) =
      schemas.findSome? (·.definition? k n) := by
  have general : ∀ (schemas : List Schema) (e : Elements),
      ((schemas.foldl addSchema e).ofKind k).find? (·.name == n) =
        ((e.ofKind k).find? (·.name == n)).or (schemas.findSome? (·.definition? k n)) := by
    intro schemas
    induction schemas with
    | nil => simp
    | cons t rest ih =>
        intro e
        rw [List.foldl_cons, ih, find?_addSchema, List.findSome?_cons, Option.or_assoc]
        cases t.definition? k n <;> rfl
  have start : ((({} : Elements).ofKind k).find? (·.name == n)) = none := by
    cases k <;> rfl
  rw [ofSchemas, general, start, Option.none_or]

/-- An element with its declaring classes noted, if it is a slot. -/
def noteDomain (classes : List Class) : Element → Element
  | .slot x => .slot { x with domainOf := declaringClasses classes x.name }
  | e => e

theorem find?_withDomains (e : Elements) (classes : List Class) :
    ((e.withDomains classes).ofKind k).find? (·.name == n) =
      ((e.ofKind k).find? (·.name == n)).map (noteDomain classes) := by
  cases k <;> simp [ofKind, withDomains, List.find?_map, Function.comp_def, noteDomain,
    Element.name]

end Elements

/-! ## 2. Definitions of views -/

namespace View

variable {v : View} {k : Kind} {n : String}

/-- An element as the view shows it: a slot with the classes of the view that declare it. -/
def shown (v : View) (e : Element) : Element := Elements.noteDomain v.merged.classes e

/-- Showing an element does not change where it comes from. -/
theorem fromSchema_shown (v : View) (e : Element) : (v.shown e).fromSchema = e.fromSchema := by
  cases e <;> rfl

/-- **The last schema that defines a name** gives the definition of the view. -/
theorem elementOfKind?_eq_findSome? :
    v.elementOfKind? k n = (v.schemas.reverse.findSome? (·.definition? k n)).map v.shown := by
  have order : v.schemas.reverse = v.root :: v.imported.reverse := by simp [schemas]
  rw [elementOfKind?_eq, order]
  unfold all elements shown
  rw [if_pos rfl, v.merged_classes, v.merged_eq, Elements.find?_withDomains,
    Elements.find?_ofSchemas]

/-- **The last schema that declares a prefix** gives its expansion. -/
theorem expansion?_eq_findSome? (key : String) :
    v.expansion? key = v.schemas.reverse.findSome? (·.prefixes.lookup key) := by
  simp [expansion?, schemas]

/-- Every element of a view is a definition of one of its schemas. -/
theorem exists_definition {imports : Bool} {e : Element} (h : e ∈ v.all k imports) :
    ∃ t ∈ v.schemas, ∃ d ∈ t.definitions k, e = v.shown d := by
  have found := elementOfKind?_of_mem (v.mem_all_of_mem h)
  rw [elementOfKind?_eq_findSome?] at found
  obtain ⟨d, hd, rfl⟩ := Option.map_eq_some_iff.mp found
  obtain ⟨t, ht, defined⟩ := List.exists_of_findSome?_eq_some hd
  exact ⟨t, List.mem_reverse.mp ht, d, List.mem_of_find?_eq_some defined, rfl⟩

/-! ## 3. What holds of every view -/

theorem elementOfKind?_eq_some_iff {e : Element} :
    v.elementOfKind? k n = some e ↔ e ∈ v.all k true ∧ e.name = n := by
  constructor
  · exact mem_of_elementOfKind?
  · rintro ⟨he, rfl⟩
    exact elementOfKind?_of_mem he

theorem elementOfKind?_eq_none_iff :
    v.elementOfKind? k n = none ↔ ∀ e ∈ v.all k true, e.name ≠ n := by
  rw [elementOfKind?_eq, List.find?_eq_none]
  simp only [beq_iff_eq, ne_eq]

/-- **A view agrees with itself**: its lists of elements, its look-ups, the definitions of its
    schemas and the classes noted on its slots. -/
structure Consistent (v : View) : Prop where
  distinct : ∀ k imports, ((v.all k imports).map Element.name).Nodup
  own_first : ∀ k, v.all k false <+: v.all k true
  found : ∀ k n e, v.elementOfKind? k n = some e ↔ e ∈ v.all k true ∧ e.name = n
  unknown : ∀ k n, v.elementOfKind? k n = none ↔ ∀ e ∈ v.all k true, e.name ≠ n
  /-- Every definition has its name among the elements, attributes among the slots. -/
  covers : ∀ t ∈ v.schemas, v.merged.Covers t
  /-- Nothing else is an element. -/
  defined : ∀ k imports, ∀ e ∈ v.all k imports, ∃ t ∈ v.schemas, ∃ d ∈ t.definitions k,
    e = v.shown d
  /-- The classes on a slot stand in their order, each once. -/
  domain_order : ∀ imports, ∀ x ∈ (v.elements imports).slots,
    x.domainOf.Nodup ∧ x.domainOf.Sublist (v.merged.classes.map Class.name)
  /-- The classes on a slot are exactly those that declare it. -/
  domain_mem : ∀ imports, ∀ x ∈ (v.elements imports).slots, ∀ n,
    n ∈ x.domainOf ↔ ∃ c ∈ v.merged.classes, c.name = n ∧ c.Declares x.name

/-- The classes noted on a slot stand in the order of the classes, each once. -/
theorem domainOf_order {imports : Bool} {x : Slot} (h : x ∈ (v.elements imports).slots) :
    x.domainOf.Nodup ∧ x.domainOf.Sublist (v.merged.classes.map Class.name) := by
  have sub : x.domainOf.Sublist (v.merged.classes.map Class.name) := by
    rw [domainOf_of_mem h]
    exact declaringClasses_sublist _ _
  exact ⟨sub.nodup (v.distinct_elements true).classes, sub⟩

/-- **Whatever the schemas are, their view agrees with itself.** -/
theorem consistent_ofSchemas (root : Schema) (imported : List Schema) :
    (View.ofSchemas root imported).Consistent where
  distinct k imports := names_nodup _ k imports
  own_first k := own_prefix _ k
  found _ _ _ := elementOfKind?_eq_some_iff
  unknown _ _ := elementOfKind?_eq_none_iff
  covers _ ht := covers_merged ht
  defined _ _ _ he := exists_definition he
  domain_order _ _ hx := domainOf_order hx
  domain_mem imports _ hx _ := mem_domainOf_iff imports hx

end View

end SchemaPages
