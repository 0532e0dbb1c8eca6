import Mathlib.Data.List.Nodup
import SchemaPages.View.Basic
/-!
# Elements by name

The merged elements of schemas have distinct names kind by kind, and the elements of the root come
first among those of a view. So a name and a kind stand for one element at most.

* `nodup_addNew`, `prefix_addNew`: the first definition of a name wins;
* `FirstOccurrences`, `firstOccurrences_addNew`: names in the order in which they first occur;
* `Elements.Distinct`, `distinct_elements`: names are distinct in every view;
* `own_prefix`: the elements of the root are among all elements;
* `elementOfKind?_of_mem`, `mem_of_element?`: elements and look-ups by name.
-/

namespace SchemaPages

/-! ## 1. Adding what is new -/

section AddNew

variable {α : Type} {name : α → String}

theorem addNew_cons (found : List α) (a : α) (rest : List α) :
    addNew name found (a :: rest) =
      addNew name (if found.any (name · == name a) then found else found ++ [a]) rest := rfl

theorem any_name_iff {found : List α} {a : α} :
    found.any (name · == name a) = true ↔ name a ∈ found.map name := by
  simp only [List.any_eq_true, beq_iff_eq, List.mem_map]

/-- What is there stays in front. -/
theorem prefix_addNew (found items : List α) : found <+: addNew name found items := by
  induction items generalizing found with
  | nil => exact List.prefix_rfl
  | cons a rest ih =>
      rw [addNew_cons]
      split
      · exact ih found
      · exact (List.prefix_append found [a]).trans (ih _)

/-- **Adding keeps names distinct.** -/
theorem nodup_addNew {found : List α} (h : (found.map name).Nodup) (items : List α) :
    ((addNew name found items).map name).Nodup := by
  induction items generalizing found with
  | nil => exact h
  | cons a rest ih =>
      rw [addNew_cons]
      split
      · exact ih h
      · rename_i fresh
        refine ih ?_
        rw [List.map_append, List.map_singleton]
        refine List.nodup_append.mpr ⟨h, List.nodup_singleton _, ?_⟩
        intro n hn m hm e
        exact fresh (any_name_iff.mpr (List.mem_singleton.mp hm ▸ e ▸ hn))

/-- Nothing is added but the items. -/
theorem mem_of_mem_addNew {found items : List α} {a : α} (h : a ∈ addNew name found items) :
    a ∈ found ∨ a ∈ items := by
  induction items generalizing found with
  | nil => exact Or.inl h
  | cons b rest ih =>
      rw [addNew_cons] at h
      rcases ih h with hf | hr
      · split at hf
        · exact Or.inl hf
        · rcases List.mem_append.mp hf with hf | hb
          · exact Or.inl hf
          · exact Or.inr (List.mem_singleton.mp hb ▸ List.mem_cons_self)
      · exact Or.inr (List.mem_cons_of_mem _ hr)

/-- **Every name is there after adding.** -/
theorem name_mem_addNew (found : List α) {items : List α} {a : α} (h : a ∈ items) :
    name a ∈ (addNew name found items).map name := by
  induction items generalizing found with
  | nil => exact absurd h List.not_mem_nil
  | cons b rest ih =>
      rw [addNew_cons]
      rcases List.mem_cons.mp h with rfl | h
      · refine ((prefix_addNew _ rest).map name).subset ?_
        split
        · rename_i there
          exact any_name_iff.mp there
        · exact List.mem_map_of_mem (List.mem_append_right _ (List.mem_singleton_self a))
      · exact ih _ h

/-- A name that is new after some others comes behind all of them. -/
theorem idxOf_lt_of_fresh {before after : List String} {a n : String} (ha : a ∈ before)
    (hn : n ∉ before) : (before ++ n :: after).idxOf a < (before ++ n :: after).idxOf n := by
  calc (before ++ n :: after).idxOf a
      = before.idxOf a := List.idxOf_append_of_mem ha
    _ < before.length := List.idxOf_lt_length_of_mem ha
    _ ≤ (before ++ n :: after).idxOf n := by
        rw [List.idxOf_append_of_notMem hn]
        exact Nat.le_add_right _ _

/-- Adding names keeps the order of their first occurrences. What is found so far are the names of
    the part of the list that is already read. -/
theorem pairwise_idxOf_addNew {before found : List String} (rest : List String)
    (same : ∀ n, n ∈ found ↔ n ∈ before)
    (h : found.Pairwise fun a b => (before ++ rest).idxOf a < (before ++ rest).idxOf b) :
    (addNew id found rest).Pairwise fun a b =>
      (before ++ rest).idxOf a < (before ++ rest).idxOf b := by
  induction rest generalizing before found with
  | nil => exact h
  | cons n rest ih =>
      have split : before ++ n :: rest = (before ++ [n]) ++ rest := by simp
      rw [addNew_cons]
      by_cases old : n ∈ found
      · have seen : found.any (id · == id n) = true := by simpa using old
        rw [if_pos seen, split]
        refine ih (fun a => ?_) (split ▸ h)
        rw [same, List.mem_append, List.mem_singleton]
        constructor
        · exact Or.inl
        · rintro (ha | rfl)
          · exact ha
          · exact (same a).mp old
      · have fresh : ¬ found.any (id · == id n) = true := by simpa using old
        rw [if_neg fresh, split]
        refine ih (fun a => ?_) ?_
        · rw [List.mem_append, List.mem_append, same]
        · refine List.pairwise_append.mpr ⟨split ▸ h, List.pairwise_singleton _ _, ?_⟩
          rintro a ha m hm
          obtain rfl := List.mem_singleton.mp hm
          rw [← split]
          exact idxOf_lt_of_fresh ((same a).mp ha) (fun there => old ((same m).mpr there))

/-- **Names as they first occur in a list**: all of them, each once, in the order of their first
    occurrences. -/
structure FirstOccurrences (l names : List String) : Prop where
  distinct : names.Nodup
  mem : ∀ n, n ∈ names ↔ n ∈ l
  ordered : names.Pairwise fun a b => l.idxOf a < l.idxOf b

/-- **Names added one after the other stand as they first occur.** -/
theorem firstOccurrences_addNew (l : List String) : FirstOccurrences l (addNew id [] l) where
  distinct := by
    have none_twice : (([] : List String).map id).Nodup := List.nodup_nil
    have names := nodup_addNew none_twice l
    rwa [List.map_id] at names
  mem n := by
    constructor
    · exact fun h => (mem_of_mem_addNew h).resolve_left List.not_mem_nil
    · intro h
      have there : n ∈ (addNew id [] l).map id := name_mem_addNew [] h
      rwa [List.map_id] at there
  ordered := by
    have start : ∀ n, n ∈ ([] : List String) ↔ n ∈ ([] : List String) := fun _ => Iff.rfl
    exact pairwise_idxOf_addNew l start List.Pairwise.nil

end AddNew

/-! ## 2. Elements of schemas -/

namespace Elements

/-- **Names are distinct kind by kind.** -/
structure Distinct (e : Elements) : Prop where
  classes : (e.classes.map Class.name).Nodup
  slots : (e.slots.map Slot.name).Nodup
  types : (e.types.map DataType.name).Nodup
  enums : (e.enums.map Enumeration.name).Nodup
  subsets : (e.subsets.map Subset.name).Nodup

/-- One set of elements is, kind by kind, how another begins. -/
structure Begins (e f : Elements) : Prop where
  classes : e.classes <+: f.classes
  slots : e.slots <+: f.slots
  types : e.types <+: f.types
  enums : e.enums <+: f.enums
  subsets : e.subsets <+: f.subsets

theorem begins_refl (e : Elements) : e.Begins e :=
  ⟨List.prefix_rfl, List.prefix_rfl, List.prefix_rfl, List.prefix_rfl, List.prefix_rfl⟩

theorem begins_trans {e f g : Elements} (h : e.Begins f) (h' : f.Begins g) : e.Begins g where
  classes := h.classes.trans h'.classes
  slots := h.slots.trans h'.slots
  types := h.types.trans h'.types
  enums := h.enums.trans h'.enums
  subsets := h.subsets.trans h'.subsets

theorem distinct_empty : Distinct {} :=
  ⟨List.nodup_nil, List.nodup_nil, List.nodup_nil, List.nodup_nil, List.nodup_nil⟩

/-- Slots and then attributes are added, as if they were one list. -/
theorem slots_addSchema (e : Elements) (t : Schema) :
    (e.addSchema t).slots =
      addNew Slot.name e.slots (t.slots ++ t.classes.flatMap Class.attributes) := by
  have attributes : ∀ (classes : List Class) (slots : List Slot),
      classes.foldl (fun slots c => addNew Slot.name slots c.attributes) slots =
        addNew Slot.name slots (classes.flatMap Class.attributes) := by
    intro classes
    induction classes with
    | nil => exact fun _ => rfl
    | cons c rest ih =>
        intro slots
        rw [List.foldl_cons, ih, List.flatMap_cons]
        exact (List.foldl_append ..).symm
  exact (attributes t.classes _).trans (List.foldl_append ..).symm

theorem distinct_addSchema {e : Elements} (h : e.Distinct) (s : Schema) :
    (e.addSchema s).Distinct where
  classes := nodup_addNew h.classes s.classes
  slots := slots_addSchema e s ▸ nodup_addNew h.slots _
  types := nodup_addNew h.types s.types
  enums := nodup_addNew h.enums s.enums
  subsets := nodup_addNew h.subsets s.subsets

theorem begins_addSchema (e : Elements) (s : Schema) : e.Begins (e.addSchema s) where
  classes := prefix_addNew e.classes s.classes
  slots := slots_addSchema e s ▸ prefix_addNew e.slots _
  types := prefix_addNew e.types s.types
  enums := prefix_addNew e.enums s.enums
  subsets := prefix_addNew e.subsets s.subsets

theorem distinct_ofSchemas (schemas : List Schema) : (ofSchemas schemas).Distinct := by
  have general : ∀ (schemas : List Schema) (e : Elements), e.Distinct →
      (schemas.foldl addSchema e).Distinct := by
    intro schemas
    induction schemas with
    | nil => exact fun _ h => h
    | cons s rest ih => exact fun e h => ih _ (distinct_addSchema h s)
  exact general schemas {} distinct_empty

/-- Adding schemas keeps what is there in front. -/
theorem begins_foldl (schemas : List Schema) (e : Elements) : e.Begins (schemas.foldl addSchema e) := by
  induction schemas generalizing e with
  | nil => exact begins_refl e
  | cons s rest ih => exact begins_trans (begins_addSchema e s) (ih _)

/-- The elements of a schema stay in front of those of the schemas behind it. -/
theorem begins_ofSchemas (s : Schema) (rest : List Schema) :
    (ofSchemas [s]).Begins (ofSchemas (s :: rest)) :=
  begins_foldl rest _

theorem distinct_withDomains {e : Elements} (h : e.Distinct) (classes : List Class) :
    (e.withDomains classes).Distinct :=
  { h with slots := by simpa [withDomains, Function.comp_def] using h.slots }

theorem begins_withDomains {e f : Elements} (h : e.Begins f) (classes : List Class) :
    (e.withDomains classes).Begins (f.withDomains classes) :=
  { h with slots := h.slots.map _ }

theorem ofKind_prefix {e f : Elements} (h : e.Begins f) (k : Kind) : e.ofKind k <+: f.ofKind k := by
  cases k with
  | cls => exact h.classes.map _
  | slot => exact h.slots.map _
  | type => exact h.types.map _
  | enum => exact h.enums.map _
  | subset => exact h.subsets.map _

theorem names_nodup_ofKind {e : Elements} (h : e.Distinct) (k : Kind) :
    ((e.ofKind k).map Element.name).Nodup := by
  cases k <;> rw [ofKind, List.map_map]
  · exact h.classes
  · exact h.slots
  · exact h.types
  · exact h.enums
  · exact h.subsets

theorem kind_of_mem_ofKind {e : Elements} {k : Kind} {x : Element} (h : x ∈ e.ofKind k) :
    x.kind = k := by
  cases k <;>
  · obtain ⟨_, _, rfl⟩ := List.mem_map.mp h
    rfl

end Elements

/-! ## 3. Elements of views -/

namespace View

variable (v : View)

/-- **Names are distinct in every view**, with imports or without. -/
theorem distinct_elements (imports : Bool) : (v.elements imports).Distinct := by
  unfold elements
  split
  · rw [v.merged_eq]
    exact Elements.distinct_withDomains (Elements.distinct_ofSchemas _) _
  · rw [v.own_eq]
    exact Elements.distinct_withDomains (Elements.distinct_ofSchemas _) _

theorem names_nodup (k : Kind) (imports : Bool) : ((v.all k imports).map Element.name).Nodup :=
  Elements.names_nodup_ofKind (v.distinct_elements imports) k

theorem kind_of_mem {k : Kind} {imports : Bool} {e : Element} (h : e ∈ v.all k imports) :
    e.kind = k :=
  Elements.kind_of_mem_ofKind h

/-- **The elements of the root come first** among all elements of a kind. -/
theorem own_prefix (k : Kind) : v.all k false <+: v.all k true := by
  unfold all elements
  rw [if_pos rfl, if_neg Bool.false_ne_true, v.merged_eq, v.own_eq]
  exact Elements.ofKind_prefix
    (Elements.begins_withDomains (Elements.begins_ofSchemas v.root v.imported.reverse) _) k

theorem mem_all_of_mem {k : Kind} {imports : Bool} {e : Element} (h : e ∈ v.all k imports) :
    e ∈ v.all k true := by
  cases imports with
  | true => exact h
  | false => exact (v.own_prefix k).subset h

end View

/-- The first item of a name is the only one when names are distinct. -/
theorem find?_name_of_mem {α : Type} {name : α → String} {l : List α} (h : (l.map name).Nodup)
    {a : α} (ha : a ∈ l) : l.find? (name · == name a) = some a := by
  induction l with
  | nil => exact absurd ha List.not_mem_nil
  | cons b rest ih =>
      rw [List.map_cons, List.nodup_cons] at h
      rcases List.mem_cons.mp ha with rfl | hr
      · rw [List.find?_cons_of_pos (by simp)]
      · have other : name b ≠ name a := fun e => h.1 (e ▸ List.mem_map_of_mem hr)
        rw [List.find?_cons_of_neg (by simpa using other)]
        exact ih h.2 hr

namespace View

variable {v : View} {e : Element} {n : String}

/-- The elements of a kind, looked up by name. -/
theorem elementOfKind?_eq (k : Kind) : v.elementOfKind? k n = (v.all k true).find? (·.name == n) := by
  cases k <;>
    simp only [elementOfKind?, all, elements, Elements.ofKind, List.find?_map, Function.comp_def] <;>
    rfl

/-- **An element is what its kind and name stand for.** -/
theorem elementOfKind?_of_mem {k : Kind} (h : e ∈ v.all k true) :
    v.elementOfKind? k e.name = some e := by
  rw [elementOfKind?_eq]
  exact find?_name_of_mem (v.names_nodup k true) h

theorem mem_of_elementOfKind? {k : Kind} (h : v.elementOfKind? k n = some e) :
    e ∈ v.all k true ∧ e.name = n := by
  rw [elementOfKind?_eq] at h
  exact ⟨List.mem_of_find?_eq_some h, by simpa using List.find?_some h⟩

/-- **What a name stands for is one of the elements.** -/
theorem mem_of_element? (h : v.element? n = some e) : e ∈ v.all e.kind true ∧ e.name = n := by
  obtain ⟨k, _, hk⟩ := List.exists_of_findSome?_eq_some h
  obtain ⟨hm, hn⟩ := mem_of_elementOfKind? hk
  exact ⟨v.kind_of_mem hm ▸ hm, hn⟩

end View

end SchemaPages
