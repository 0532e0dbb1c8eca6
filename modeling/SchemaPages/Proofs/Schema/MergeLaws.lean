import SchemaPages.Proofs.Schema.Merging
/-!
# Laws of merging

A slot is merged step by step: refinements are laid over it and parents give it what it lacks, in any
order and any number. What a slot has set is never lost on the way, only replaced by refinements, and
two steps of one kind are one step with both of them merged.

* `SameOrigin`, `sameOrigin_mergeAll`: what no step changes;
* `Setting.isSome_value?_mergeAll`: what is set stays set;
* `ext_settings`: a slot is what it sets, with its name, its schema and the classes that declare it;
* `overlay_assoc`, `inheritFrom_assoc`, `merge_merge`: steps in a row as one step;
* `merging_lawful`: the laws together, after any steps.
-/

namespace SchemaPages.Slot

variable {α : Type} {s t : Slot}

/-! ## 1. What steps keep -/

/-- **What no step changes**: the name, the schema and the classes that declare the slot. -/
structure SameOrigin (s t : Slot) : Prop where
  name : s.name = t.name
  fromSchema : s.fromSchema = t.fromSchema
  domainOf : s.domainOf = t.domainOf

theorem sameOrigin_merge (s : Slot) (step : Step) : (s.merge step).SameOrigin s := by
  cases step <;> exact ⟨rfl, rfl, rfl⟩

/-- By induction on the steps: each begins where the ones before it end. -/
theorem sameOrigin_mergeAll (s : Slot) (steps : List Step) : (s.mergeAll steps).SameOrigin s := by
  induction steps generalizing s with
  | nil => exact ⟨rfl, rfl, rfl⟩
  | cons step rest ih =>
      have first := sameOrigin_merge s step
      have later := ih (s.merge step)
      exact ⟨later.name.trans first.name, later.fromSchema.trans first.fromSchema,
        later.domainOf.trans first.domainOf⟩

namespace Setting

/-- **What is set stays set.** -/
theorem isSome_value?_mergeAll (f : Setting α) (steps : List Step) (h : (f.value? s).isSome) :
    (f.value? (s.mergeAll steps)).isSome := by
  rw [value?_mergeAll, Option.isSome_or, Option.isSome_or, h, Bool.true_or, Bool.or_true]

end Setting

/-! ## 2. Steps in a row -/

theorem listed_injective {l m : List String} (h : listed l = listed m) : l = m := by
  unfold listed at h
  split at h <;> split at h
  · simp_all
  · cases h
  · cases h
  · exact Option.some.inj h

/-- **A slot is what it sets**, with its name, its schema and the classes that declare it. -/
theorem ext_settings (origin : s.SameOrigin t)
    (values : ∀ {α : Type} (f : Setting α), f.value? s = f.value? t) : s = t := by
  cases s
  cases t
  simp only [mk.injEq]
  exact ⟨origin.name, values .title, values .description, listed_injective (values .aliases),
    listed_injective (values .comments), values .isA, listed_injective (values .mixins), values .uri,
    values .range, values .domain, values .required, values .recommended, values .multivalued,
    values .identifier, values .key, values .inlined, values .minimumCardinality,
    values .maximumCardinality, values .exactCardinality, values .minimumValue, values .maximumValue,
    values .pattern, values .rank, listed_injective (values .inSubset), values .deprecated,
    origin.fromSchema, origin.domainOf⟩

/-- **Two refinements are one**: the first with the second laid over it. -/
theorem overlay_assoc (s b c : Slot) : (s.overlay b).overlay c = s.overlay (b.overlay c) := by
  refine ext_settings ⟨rfl, rfl, rfl⟩ fun f => ?_
  simp only [Setting.value?_overlay, Option.or_assoc]

/-- **Two parents are one**: the first with what the second gives it. -/
theorem inheritFrom_assoc (s b c : Slot) :
    (s.inheritFrom b).inheritFrom c = s.inheritFrom (b.inheritFrom c) := by
  refine ext_settings ⟨rfl, rfl, rfl⟩ fun f => ?_
  simp only [Setting.value?_inheritFrom]
  split
  · exact Option.or_assoc
  · rfl

theorem overlay_self (s : Slot) : s.overlay s = s := by
  refine ext_settings ⟨rfl, rfl, rfl⟩ fun f => ?_
  rw [Setting.value?_overlay, Option.or_self]

theorem inheritFrom_self (s : Slot) : s.inheritFrom s = s := by
  refine ext_settings ⟨rfl, rfl, rfl⟩ fun f => ?_
  rw [Setting.value?_inheritFrom, Option.or_self, ite_self]

/-- **A step that is repeated changes nothing.** -/
theorem merge_merge (s : Slot) (step : Step) : (s.merge step).merge step = s.merge step := by
  cases step with
  | overlay r => exact (overlay_assoc s r r).trans (congrArg s.overlay (overlay_self r))
  | inherit p => exact (inheritFrom_assoc s p p).trans (congrArg s.inheritFrom (inheritFrom_self p))

/-! ## 3. The laws together -/

/-- **Merging is lawful**, after any steps: name, schema and declaring classes are those of the slot
    that was begun with, and what is set stays set whatever comes next; two refinements in a row are
    one, the second laid over the first, and two parents in a row are one, the first filled from the
    second; the last step may be repeated; and a parent changes nothing that is not inheritable. -/
theorem merging_lawful (s : Slot) (steps : List Step) :
    (s.mergeAll steps).SameOrigin s ∧
      (∀ (more : List Step) {α : Type} (f : Setting α), (f.value? (s.mergeAll steps)).isSome →
        (f.value? (s.mergeAll (steps ++ more))).isSome) ∧
      (∀ b c, s.mergeAll (steps ++ [.overlay b, .overlay c]) =
        s.mergeAll (steps ++ [.overlay (b.overlay c)])) ∧
      (∀ b c, s.mergeAll (steps ++ [.inherit b, .inherit c]) =
        s.mergeAll (steps ++ [.inherit (b.inheritFrom c)])) ∧
      (∀ step, s.mergeAll (steps ++ [step, step]) = s.mergeAll (steps ++ [step])) ∧
      (∀ (p : Slot) {α : Type} (f : Setting α), f.inheritable = false →
        f.value? (s.mergeAll (steps ++ [.inherit p])) = f.value? (s.mergeAll steps)) := by
  refine ⟨sameOrigin_mergeAll s steps, fun more _ f set => ?kept, fun b c => ?overlays,
    fun b c => ?parents, fun step => ?repeated, fun p _ f outside => ?others⟩
  case kept =>
    rw [mergeAll_append]
    exact f.isSome_value?_mergeAll more set
  case overlays =>
    rw [mergeAll_append, mergeAll_append]
    exact overlay_assoc (s.mergeAll steps) b c
  case parents =>
    rw [mergeAll_append, mergeAll_append]
    exact inheritFrom_assoc (s.mergeAll steps) b c
  case repeated =>
    rw [mergeAll_append, mergeAll_append]
    exact merge_merge (s.mergeAll steps) step
  case others =>
    rw [mergeAll_append]
    have kept := f.value?_inheritFrom (s.mergeAll steps) p
    rw [outside, if_neg Bool.false_ne_true] at kept
    exact kept

end SchemaPages.Slot
