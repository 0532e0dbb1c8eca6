import SchemaPages.Proofs.View.Names
import SchemaPages.View.Induced
/-!
# What schemas define

A view has an element of the kind and name of every definition in its schemas, whichever of several
definitions has won. Induced slots keep their names, so they have an element of the view too.

* `Elements.Covers`, `covers_merged`: every name that a schema defines is in the view;
* `exists_schema_of_class`: every class of the view is a class of a schema;
* `slot_of_inducedSlot`: an induced slot keeps its name, and the view has a slot of that name.
-/

namespace SchemaPages

namespace Elements

/-! ## 1. Names of schemas -/

/-- **Every name that a schema defines is there**, kind by kind; attributes count as slots. -/
structure Covers (e : Elements) (t : Schema) : Prop where
  classes : ∀ c ∈ t.classes, c.name ∈ e.classes.map Class.name
  slots : ∀ x ∈ t.slots, x.name ∈ e.slots.map Slot.name
  attributes : ∀ c ∈ t.classes, ∀ x ∈ c.attributes, x.name ∈ e.slots.map Slot.name
  types : ∀ x ∈ t.types, x.name ∈ e.types.map DataType.name
  enums : ∀ x ∈ t.enums, x.name ∈ e.enums.map Enumeration.name
  subsets : ∀ x ∈ t.subsets, x.name ∈ e.subsets.map Subset.name

theorem covers_of_begins {e f : Elements} {t : Schema} (h : e.Covers t) (hf : e.Begins f) :
    f.Covers t where
  classes c hc := (hf.classes.map _).subset (h.classes c hc)
  slots x hx := (hf.slots.map _).subset (h.slots x hx)
  attributes c hc x hx := (hf.slots.map _).subset (h.attributes c hc x hx)
  types x hx := (hf.types.map _).subset (h.types x hx)
  enums x hx := (hf.enums.map _).subset (h.enums x hx)
  subsets x hx := (hf.subsets.map _).subset (h.subsets x hx)

theorem covers_addSchema (e : Elements) (t : Schema) : (e.addSchema t).Covers t where
  classes _ hc := name_mem_addNew e.classes hc
  slots _ hx := slots_addSchema e t ▸ name_mem_addNew e.slots (List.mem_append_left _ hx)
  attributes c hc _ hx := slots_addSchema e t ▸
    name_mem_addNew e.slots (List.mem_append_right _ (List.mem_flatMap.mpr ⟨c, hc, hx⟩))
  types _ hx := name_mem_addNew e.types hx
  enums _ hx := name_mem_addNew e.enums hx
  subsets _ hx := name_mem_addNew e.subsets hx

theorem covers_ofSchemas {schemas : List Schema} {t : Schema} (h : t ∈ schemas) :
    (ofSchemas schemas).Covers t := by
  have general : ∀ (schemas : List Schema) (e : Elements), t ∈ schemas →
      (schemas.foldl addSchema e).Covers t := by
    intro schemas
    induction schemas with
    | nil => exact fun _ h => absurd h List.not_mem_nil
    | cons s rest ih =>
        intro e h
        rcases List.mem_cons.mp h with rfl | hr
        · exact covers_of_begins (covers_addSchema e t) (begins_foldl rest _)
        · exact ih _ hr
  exact general schemas {} h

theorem covers_withDomains {e : Elements} {t : Schema} (h : e.Covers t) (classes : List Class) :
    (e.withDomains classes).Covers t := by
  have names : (e.withDomains classes).slots.map Slot.name = e.slots.map Slot.name := by
    simp [withDomains, Function.comp_def]
  exact { h with slots := names ▸ h.slots, attributes := names ▸ h.attributes }

/-- **Every class is one of a schema.** -/
theorem exists_schema_of_class {schemas : List Schema} {c : Class}
    (h : c ∈ (ofSchemas schemas).classes) : ∃ t ∈ schemas, c ∈ t.classes := by
  have general : ∀ (schemas : List Schema) (e : Elements),
      c ∈ (schemas.foldl addSchema e).classes → c ∈ e.classes ∨ ∃ t ∈ schemas, c ∈ t.classes := by
    intro schemas
    induction schemas with
    | nil => exact fun _ h => Or.inl h
    | cons s rest ih =>
        intro e h
        rcases ih _ h with hc | ⟨t, ht, hc⟩
        · rcases mem_of_mem_addNew hc with hc | hc
          · exact Or.inl hc
          · exact Or.inr ⟨s, List.mem_cons_self, hc⟩
        · exact Or.inr ⟨t, List.mem_cons_of_mem _ ht, hc⟩
  rcases general schemas {} h with hc | found
  · exact absurd hc List.not_mem_nil
  · exact found

end Elements

/-! ## 2. Names of views -/

namespace View

variable {v : View} {t : Schema}

theorem mem_schemas_iff : t ∈ v.root :: v.imported.reverse ↔ t ∈ v.schemas := by
  simp [schemas, or_comm]

/-- **A view has an element for every definition in its schemas.** -/
theorem covers_merged (h : t ∈ v.schemas) : v.merged.Covers t := by
  rw [v.merged_eq]
  exact Elements.covers_withDomains (Elements.covers_ofSchemas (mem_schemas_iff.mpr h)) _

theorem exists_schema_of_class {c : Class} (h : c ∈ v.merged.classes) :
    ∃ t ∈ v.schemas, c ∈ t.classes := by
  rw [v.merged_eq] at h
  obtain ⟨t, ht, hc⟩ := Elements.exists_schema_of_class h
  exact ⟨t, mem_schemas_iff.mp ht, hc⟩

/-! ## 3. Names of induced slots -/

/-- What every step keeps is kept by all of them. -/
theorem foldl_kept {α β γ : Type} (step : α → β → α) (part : α → γ)
    (kept : ∀ a b, part (step a b) = part a) (l : List β) (a : α) : part (l.foldl step a) = part a := by
  induction l generalizing a with
  | nil => rfl
  | cons b rest ih => rw [List.foldl_cons, ih, kept]

theorem name_foldl_inheritFrom (parents : List Slot) (s : Slot) :
    (parents.foldl Slot.inheritFrom s).name = s.name :=
  foldl_kept Slot.inheritFrom Slot.name (fun _ _ => rfl) parents s

theorem name_foldl_overlay (refinements : List Slot) (s : Slot) :
    (refinements.foldl Slot.overlay s).name = s.name :=
  foldl_kept Slot.overlay Slot.name (fun _ _ => rfl) refinements s

/-- What an induced slot starts from is an attribute of a class of the view or a slot of it. -/
theorem baseSlot?_cases {n : String} {ancestors : List String} {s : Slot}
    (h : v.baseSlot? n ancestors = some s) :
    (∃ c ∈ v.merged.classes, c.attribute? n = some s) ∨ v.slot? n = some s := by
  unfold baseSlot? at h
  cases ha : (ancestors.filterMap v.class?).findSome? (·.attribute? n) with
  | none =>
      rw [ha] at h
      exact Or.inr h
  | some x =>
      rw [ha] at h
      cases h
      obtain ⟨c, hc, found⟩ := List.exists_of_findSome?_eq_some ha
      obtain ⟨a, _, hv⟩ := List.mem_filterMap.mp hc
      exact Or.inl ⟨c, List.mem_of_find?_eq_some hv, found⟩

theorem inducedSlot_base {n : String} {cls : Option String} {s : Slot}
    (h : v.inducedSlot n cls = some s) :
    ∃ ancestors base, v.baseSlot? n ancestors = some base ∧ s.name = base.name := by
  unfold inducedSlot at h
  obtain ⟨base, hb, hs⟩ := Option.bind_eq_some_iff.mp h
  refine ⟨_, base, hb, ?_⟩
  cases hs
  show ((_ : List Slot).foldl Slot.overlay _).name = _
  rw [name_foldl_overlay, name_foldl_inheritFrom]

/-- **An induced slot keeps its name**, and the view has a slot of that name. -/
theorem slot_of_inducedSlot {n : String} {cls : Option String} {s : Slot}
    (h : v.inducedSlot n cls = some s) : s.name = n ∧ n ∈ v.merged.slots.map Slot.name := by
  obtain ⟨ancestors, base, hb, same⟩ := inducedSlot_base h
  rcases baseSlot?_cases hb with ⟨c, hc, found⟩ | found
  · have named : base.name = n := by simpa using List.find?_some found
    obtain ⟨t, ht, defined⟩ := exists_schema_of_class hc
    refine ⟨same.trans named, ?_⟩
    rw [← named]
    exact (covers_merged ht).attributes c defined base (List.mem_of_find?_eq_some found)
  · have named : base.name = n := by simpa using List.find?_some found
    refine ⟨same.trans named, ?_⟩
    rw [← named]
    exact List.mem_map_of_mem (List.mem_of_find?_eq_some found)

end View

end SchemaPages
