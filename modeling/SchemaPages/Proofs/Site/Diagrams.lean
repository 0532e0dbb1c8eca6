import SchemaPages.Proofs.View.Domains
import SchemaPages.Site.Diagram
/-!
# What diagrams say

The three notations put what they say of a diagram in different orders and different places, yet each
says the same of the same classes: which there are, what attributes they have, and to which of one
another their slots lead. What a notation has to say is said here apart from its text.

* `Diagram.Statement`, `Diagram.statements`: what a notation says, one thing after another;
* `Diagram.drawnNames`, `mem_drawnNames_iff`, `drawnNames_in_order`: the classes of a diagram;
* `Diagram.Shows`: what has to be said about these classes, `shows_statements`: every notation says it.
-/

namespace SchemaPages

namespace Diagram

/-! ## 1. Statements -/

/-- Something that a diagram says. -/
inductive Statement where
  /-- There is a class, with these attributes in a block of its own. -/
  | declares (name : String) (fields : List Slot)
  /-- A class leads somewhere. -/
  | leads (name target : String)
  | inherits (child parent : String)
  | mixesIn (child mixin : String)
  | associates (source : String) (slot : Slot) (target : String)
  | has (owner : String) (slot : Slot)
  deriving DecidableEq, Repr

/-- The class that a statement declares. -/
def Statement.declared : Statement → List String
  | .declares name _ => [name]
  | _ => []

/-- The attributes that a statement shows, each with its owner. -/
def Statement.attributes : Statement → List (String × Slot)
  | .declares name fields => fields.map (name, ·)
  | .has owner s => [(owner, s)]
  | _ => []

/-- The association that a statement shows, from one class through a slot to another. -/
def Statement.associations : Statement → List (String × Slot × String)
  | .associates source s target => [(source, s, target)]
  | _ => []

/-- The ends of the edge that a statement draws. -/
def Statement.ends : Statement → List String
  | .inherits child parent => [child, parent]
  | .mixesIn child mixin => [child, mixin]
  | .associates source _ target => [source, target]
  | _ => []

/-- The class of a diagram that a slot leads to. -/
def target? (drawn : List String) (s : Slot) : Option String := s.range.filter (· ∈ drawn)

section OneClass

variable (drawn : List String) (c : DrawnClass)

/-- The attributes of a class: its slots that lead to no class of the diagram. -/
def fields : List Slot := c.slots.filter fun s => (target? drawn s).isNone

/-- The parent and mixins of a class that are drawn too. -/
def parentStatements : List Statement :=
  (c.isA.filter (· ∈ drawn)).toList.map (.inherits c.name)
    ++ (c.mixins.filter (· ∈ drawn)).map (.mixesIn c.name)

/-- What is said of a slot where attributes stand one by one. -/
def slotStatement (s : Slot) : Statement :=
  match target? drawn s with
  | some r => .associates c.name s r
  | none => .has c.name s

/-- The associations of a class. -/
def associations : List Statement :=
  c.slots.filterMap fun s => (target? drawn s).map (.associates c.name s)

/-- The attributes that the declaration of a class shows. In class diagrams of Mermaid they follow
    one by one. -/
def declaredFields : DiagramType → List Slot
  | .mermaidClass => []
  | _ => fields drawn c

/-- What is said of the slots of a class apart from its declaration. -/
def slotStatements : DiagramType → List Statement
  | .mermaidClass => c.slots.map (slotStatement drawn c)
  | _ => associations drawn c

end OneClass

/-- **What a notation says of a diagram**, in the order in which it says it. Where classes lead to
    shows in class diagrams of Mermaid alone, and entity relationship diagrams do not show what is
    above a class. -/
def statements (d : Diagram) (links : String → Option String) (t : DiagramType) : List Statement :=
  match t with
  | .mermaidClass =>
    d.flatMap (fun c => .declares c.name [] :: (links c.name).toList.map (.leads c.name))
      ++ d.flatMap fun c => parentStatements d.present c ++ slotStatements d.present c t
  | .er =>
    d.map (fun c => .declares c.name (declaredFields d.present c t))
      ++ d.flatMap fun c => slotStatements d.present c t
  | .plantUmlClass =>
    d.map (fun c => .declares c.name (declaredFields d.present c t))
      ++ d.flatMap fun c => parentStatements d.present c ++ slotStatements d.present c t

/-! ## 2. The classes of a diagram -/

/-- Names stand in the order in which they first occur in a list. -/
def InOrderOf (l names : List String) : Prop := names.Pairwise fun a b => l.idxOf a < l.idxOf b

variable {v : View} {names : List String} {n : String}

/-- The names of the classes of a diagram. -/
def drawnNames (v : View) (names : List String) : List String :=
  (classesOf v (subjects v names)).map Class.name

/-- What the diagram of some names is about are those of them that name a class. -/
theorem drawnNames_eq :
    drawnNames v names =
      (addNew id [] (subjects v names)).filter fun n => (v.class? n).isSome := by
  unfold drawnNames classesOf
  induction addNew id [] (subjects v names) with
  | nil => rfl
  | cons n rest ih =>
      cases found : v.class? n with
      | none => rw [List.filterMap_cons_none found, ih, List.filter_cons_of_neg (by simp [found])]
      | some c =>
          rw [List.filterMap_cons_some found, List.map_cons, ih,
            List.filter_cons_of_pos (by simp [found]), (View.mem_of_class? found).2]

/-- **A diagram has the classes that its names stand for.** -/
theorem mem_drawnNames_iff :
    n ∈ drawnNames v names ↔ n ∈ subjects v names ∧ (v.class? n).isSome := by
  rw [drawnNames_eq, List.mem_filter]
  exact and_congr_left fun _ => (firstOccurrences_addNew _).mem n

/-- **It has them in the order of the names.** -/
theorem drawnNames_in_order : InOrderOf (subjects v names) (drawnNames v names) := by
  rw [drawnNames_eq]
  exact (firstOccurrences_addNew (subjects v names)).ordered.filter _

/-! ## 3. The same of all classes -/

section Slots

variable {drawn : List String} {c : DrawnClass} {x : Statement} (t : DiagramType)

theorem eq_of_mem_associations (hx : x ∈ associations drawn c) :
    ∃ s r, target? drawn s = some r ∧ x = .associates c.name s r := by
  obtain ⟨s, _, found⟩ := List.mem_filterMap.mp hx
  obtain ⟨r, leads, rfl⟩ := Option.map_eq_some_iff.mp found
  exact ⟨s, r, leads, rfl⟩

/-- What is said of slots: where one leads to, or that it is an attribute. -/
theorem eq_of_mem_slotStatements (hx : x ∈ slotStatements drawn c t) :
    (∃ s r, target? drawn s = some r ∧ x = .associates c.name s r) ∨ ∃ s, x = .has c.name s := by
  cases t with
  | mermaidClass =>
      obtain ⟨s, _, rfl⟩ := List.mem_map.mp hx
      unfold slotStatement
      cases leads : target? drawn s with
      | some r => exact Or.inl ⟨s, r, leads, rfl⟩
      | none => exact Or.inr ⟨s, rfl⟩
  | er => exact Or.inl (eq_of_mem_associations hx)
  | plantUmlClass => exact Or.inl (eq_of_mem_associations hx)

/-- What is said of what is above a class. -/
theorem eq_of_mem_parentStatements (hx : x ∈ parentStatements drawn c) :
    ∃ p ∈ drawn, x = .inherits c.name p ∨ x = .mixesIn c.name p := by
  rcases List.mem_append.mp hx with hx | hx
  · obtain ⟨p, hp, rfl⟩ := List.mem_map.mp hx
    have there := (Option.mem_filter_iff.mp (Option.mem_toList.mp hp)).2
    exact ⟨p, by simpa using there, Or.inl rfl⟩
  · obtain ⟨m, hm, rfl⟩ := List.mem_map.mp hx
    exact ⟨m, by simpa using (List.mem_filter.mp hm).2, Or.inr rfl⟩

/-- The slots of a class declare nothing. -/
theorem slotStatements_declared (drawn : List String) (c : DrawnClass) :
    (slotStatements drawn c t).flatMap Statement.declared = [] := by
  refine List.flatMap_eq_nil_iff.mpr fun x hx => ?_
  obtain ⟨_, _, _, rfl⟩ | ⟨_, rfl⟩ := eq_of_mem_slotStatements t hx <;> rfl

/-- Associations are no attributes. -/
theorem attributes_associations (drawn : List String) (c : DrawnClass) :
    (associations drawn c).flatMap Statement.attributes = [] := by
  refine List.flatMap_eq_nil_iff.mpr fun x hx => ?_
  obtain ⟨_, _, _, rfl⟩ := eq_of_mem_associations hx
  rfl

/-- One by one, slots have the attributes that a declaration would have. -/
theorem attributes_slotStatement (drawn : List String) (c : DrawnClass) :
    (c.slots.map (slotStatement drawn c)).flatMap Statement.attributes =
      (fields drawn c).map (c.name, ·) := by
  unfold fields
  rw [List.flatMap_map, ← List.filterMap_eq_filter, List.map_filterMap,
    List.filterMap_eq_flatMap_toList]
  refine List.flatMap_congr fun s _ => ?_
  unfold slotStatement
  cases leads : target? drawn s <;> simp [Statement.attributes, Option.guard, leads]

/-- Its associations are the same in every notation. -/
theorem associations_of_class (drawn : List String) (c : DrawnClass) :
    (slotStatements drawn c t).flatMap Statement.associations =
      c.slots.filterMap fun s => (target? drawn s).map fun r => (c.name, s, r) := by
  have alone : (associations drawn c).flatMap Statement.associations =
      c.slots.filterMap fun s => (target? drawn s).map fun r => (c.name, s, r) := by
    unfold associations
    rw [List.filterMap_eq_flatMap_toList, List.flatMap_assoc, List.filterMap_eq_flatMap_toList]
    refine List.flatMap_congr fun s _ => ?_
    cases target? drawn s <;> simp [Statement.associations]
  have one_by_one : (c.slots.map (slotStatement drawn c)).flatMap Statement.associations =
      c.slots.filterMap fun s => (target? drawn s).map fun r => (c.name, s, r) := by
    rw [List.flatMap_map, List.filterMap_eq_flatMap_toList]
    refine List.flatMap_congr fun s _ => ?_
    unfold slotStatement
    cases target? drawn s <;> simp [Statement.associations]
  cases t with
  | mermaidClass => exact one_by_one
  | er => exact alone
  | plantUmlClass => exact alone

end Slots

section Statements

variable (d : Diagram) (links : String → Option String) (t : DiagramType)

/-- What is read off declarations and slots: first what the declarations give and then what the slots
    give, class by class. -/
theorem flatMap_statements {β : Type} {f : Statement → List β} (leads : ∀ a b, f (.leads a b) = [])
    (inherits : ∀ a b, f (.inherits a b) = []) (mixesIn : ∀ a b, f (.mixesIn a b) = []) :
    (d.statements links t).flatMap f =
      (d.flatMap fun c => f (.declares c.name (declaredFields d.present c t)))
        ++ d.flatMap fun c => (slotStatements d.present c t).flatMap f := by
  have above : ∀ c, (parentStatements d.present c).flatMap f = [] := by
    intro c
    simp [parentStatements, List.flatMap_append, List.flatMap_map, inherits, mixesIn]
  have linked : ∀ c : DrawnClass, ((links c.name).toList.map (.leads c.name)).flatMap f = [] := by
    intro c
    cases links c.name <;> simp [leads]
  unfold statements
  cases t with
  | mermaidClass =>
      simp only [List.flatMap_append, List.flatMap_assoc, List.flatMap_cons, linked, above,
        List.append_nil, List.nil_append, declaredFields]
  | er => simp only [List.flatMap_append, List.flatMap_map, List.flatMap_assoc]
  | plantUmlClass =>
      simp only [List.flatMap_append, List.flatMap_map, List.flatMap_assoc, above,
        List.nil_append]

/-- **What a notation says of a diagram** is said of one of its classes: that there is one, where it
    leads, what is above it, or what slots it has. -/
theorem mem_statements {x : Statement} (h : x ∈ d.statements links t) :
    ∃ c ∈ d, (∃ fields, x = .declares c.name fields) ∨ (∃ target, x = .leads c.name target) ∨
      x ∈ parentStatements d.present c ∨ x ∈ slotStatements d.present c t := by
  unfold statements at h
  cases t with
  | mermaidClass =>
      rcases List.mem_append.mp h with h | h
      · obtain ⟨c, hc, h⟩ := List.mem_flatMap.mp h
        rcases List.mem_cons.mp h with rfl | h
        · exact ⟨c, hc, Or.inl ⟨_, rfl⟩⟩
        · obtain ⟨target, _, rfl⟩ := List.mem_map.mp h
          exact ⟨c, hc, Or.inr (Or.inl ⟨target, rfl⟩)⟩
      · obtain ⟨c, hc, h⟩ := List.mem_flatMap.mp h
        exact ⟨c, hc, Or.inr (Or.inr (List.mem_append.mp h))⟩
  | er =>
      rcases List.mem_append.mp h with h | h
      · obtain ⟨c, hc, rfl⟩ := List.mem_map.mp h
        exact ⟨c, hc, Or.inl ⟨_, rfl⟩⟩
      · obtain ⟨c, hc, h⟩ := List.mem_flatMap.mp h
        exact ⟨c, hc, Or.inr (Or.inr (Or.inr h))⟩
  | plantUmlClass =>
      rcases List.mem_append.mp h with h | h
      · obtain ⟨c, hc, rfl⟩ := List.mem_map.mp h
        exact ⟨c, hc, Or.inl ⟨_, rfl⟩⟩
      · obtain ⟨c, hc, h⟩ := List.mem_flatMap.mp h
        exact ⟨c, hc, Or.inr (Or.inr (List.mem_append.mp h))⟩

/-- **Every notation declares the classes of a diagram**, in their order. -/
theorem declared_statements : (d.statements links t).flatMap Statement.declared = d.present := by
  rw [flatMap_statements d links t (fun _ _ => rfl) (fun _ _ => rfl) (fun _ _ => rfl)]
  simp only [slotStatements_declared, Statement.declared, ← List.map_eq_flatMap]
  simp [present]

/-- **Every notation shows the same attributes**, in declarations or one by one. -/
theorem attributes_statements :
    (d.statements links t).flatMap Statement.attributes =
      d.flatMap fun c => (fields d.present c).map (c.name, ·) := by
  rw [flatMap_statements d links t (fun _ _ => rfl) (fun _ _ => rfl) (fun _ _ => rfl)]
  cases t with
  | mermaidClass =>
      simp [declaredFields, slotStatements, Statement.attributes, attributes_slotStatement]
  | er => simp [declaredFields, slotStatements, Statement.attributes, attributes_associations]
  | plantUmlClass =>
      simp [declaredFields, slotStatements, Statement.attributes, attributes_associations]

/-- **Every notation shows the same associations.** -/
theorem associations_statements :
    (d.statements links t).flatMap Statement.associations =
      d.flatMap fun c => c.slots.filterMap fun s =>
        (target? d.present s).map fun r => (c.name, s, r) := by
  rw [flatMap_statements d links t (fun _ _ => rfl) (fun _ _ => rfl) (fun _ _ => rfl)]
  simp [associations_of_class, Statement.associations]

/-- **No edge leaves a diagram**: it leads from one of its classes to one of them. -/
theorem ends_statements {x : Statement} {n : String} (hx : x ∈ d.statements links t)
    (hn : n ∈ x.ends) : n ∈ d.present := by
  obtain ⟨c, hc, ⟨_, rfl⟩ | ⟨_, rfl⟩ | hx | hx⟩ := mem_statements d links t hx
  · exact absurd hn List.not_mem_nil
  · exact absurd hn List.not_mem_nil
  · obtain ⟨p, hp, rfl | rfl⟩ := eq_of_mem_parentStatements hx
    all_goals
      rcases List.mem_pair.mp hn with rfl | rfl
      · exact List.mem_map_of_mem hc
      · exact hp
  · obtain ⟨s, r, leads, rfl⟩ | ⟨s, rfl⟩ := eq_of_mem_slotStatements t hx
    · rcases List.mem_pair.mp hn with rfl | rfl
      · exact List.mem_map_of_mem hc
      · simpa using (Option.mem_filter_iff.mp leads).2
    · exact absurd hn List.not_mem_nil

end Statements

/-! ## 4. Diagrams of classes -/

/-- The slots that a class lists or has as attributes, in the form that they have in it. -/
def directSlots (v : View) (c : Class) : List Slot :=
  c.directSlotNames.filterMap fun s => v.inducedSlot s (some c.name)

/-- What the notations have to say of some classes of a view: **each class once, and every entry of
    its direct slots once**, as an association if the slot leads to one of these classes and as an
    attribute if it does not. No edge leads anywhere else. -/
structure Shows (v : View) (drawn : List String) (said : List Statement) : Prop where
  declared : said.flatMap Statement.declared = drawn
  attributes : said.flatMap Statement.attributes =
    (drawn.filterMap v.class?).flatMap fun c =>
      ((directSlots v c).filter fun s => (target? drawn s).isNone).map (c.name, ·)
  associations : said.flatMap Statement.associations =
    (drawn.filterMap v.class?).flatMap fun c =>
      (directSlots v c).filterMap fun s => (target? drawn s).map fun r => (c.name, s, r)
  closed : ∀ x ∈ said, ∀ n ∈ x.ends, n ∈ drawn

/-- The classes of a diagram, looked up by their names again. -/
theorem filterMap_drawnNames (v : View) (names : List String) :
    (drawnNames v names).filterMap v.class? = classesOf v (subjects v names) := by
  rw [drawnNames, List.filterMap_map]
  have known : ∀ c ∈ classesOf v (subjects v names), (v.class? ∘ Class.name) c = some c := by
    intro c hc
    obtain ⟨n, _, found⟩ := List.mem_filterMap.mp hc
    exact View.class?_of_mem (View.mem_of_class? found).1
  rw [List.filterMap_congr known, List.filterMap_some]

/-- The classes of a diagram are those that its names stand for. -/
theorem present_ofClasses (v : View) (names : List String) :
    (ofClasses v names).present = drawnNames v names := by
  unfold present ofClasses drawnNames
  rw [List.map_map]
  rfl

/-- **Every notation shows the diagram of its classes.** -/
theorem shows_statements (v : View) (names : List String) (links : String → Option String)
    (t : DiagramType) : Shows v (drawnNames v names) ((ofClasses v names).statements links t) := by
  have drawn := present_ofClasses v names
  constructor
  · rw [declared_statements, drawn]
  · rw [attributes_statements, filterMap_drawnNames, drawn, ofClasses, List.flatMap_map]
    rfl
  · rw [associations_statements, filterMap_drawnNames, drawn, ofClasses, List.flatMap_map]
    rfl
  · intro x hx n hn
    rw [← drawn]
    exact ends_statements _ links t hx hn

end Diagram

end SchemaPages
