import Mathlib.Data.List.Perm.Basic
import SchemaPages.Proofs.Preorder
import SchemaPages.Proofs.View.Ancestors
import SchemaPages.Proofs.View.Domains
import SchemaPages.Site.PageContent
/-!
# The tree of classes

The index lists its classes one by one or as a tree. The tree is walked from the classes without a
parent, so it has every class from which going from parent to parent comes to an end, once. A class
that inherits from itself, directly or through others, is below no such class and is missing.

* `ends_of_acyclic`: among finitely many things without a cycle, every way up ends;
* `Site.Parent`, `Site.Rooted`, `rooted_of_mem`, `mem_of_rooted`: the classes of the tree;
* `Site.Rows`, `rows_treeRows`, `rows_indexRows`: the classes that rows show;
* `tree_complete_iff`: when the tree shows the classes that the plain list shows.
-/

namespace SchemaPages

/-! ## 1. Ways that end -/

section Ends

variable {α : Type} {r : α → α → Prop}

/-- A way that ends somewhere: nothing is next to its end. -/
def Ends (r : α → α → Prop) (a : α) : Prop :=
  ∃ b, Relation.ReflTransGen r a b ∧ ∀ c, ¬ r b c

theorem ends_of_step {a b : α} (step : r a b) (h : Ends r b) : Ends r a := by
  obtain ⟨c, way, last⟩ := h
  exact ⟨c, .head step way, last⟩

/-- Where there is one way, a way that leads back to its start does not end. -/
theorem not_ends_of_cycle (unique : Relator.RightUnique r) {a : α}
    (cycle : Relation.TransGen r a a) : ¬ Ends r a := by
  rintro ⟨b, way, last⟩
  induction way using Relation.ReflTransGen.head_induction_on with
  | refl =>
      obtain ⟨c, step, _⟩ := Relation.TransGen.head'_iff.mp cycle
      exact last c step
  | head step _ ih =>
      -- The cycle goes through the next thing too, since there is no other.
      obtain ⟨c, first, back⟩ := Relation.TransGen.head'_iff.mp cycle
      cases unique step first
      exact ih (.tail' back step)

/-- **Among finitely many things without a cycle every way ends.** -/
theorem ends_of_acyclic {l : List α} (inside : ∀ {a b}, r a b → b ∈ l)
    (acyclic : ∀ a ∈ l, ¬ Relation.TransGen r a a) {a : α} (ha : a ∈ l) : Ends r a := by
  have cycleless : ∀ a ∈ l, ¬ Relation.TransGen (fun b a => r a b) a a :=
    fun a ha cycle => acyclic a ha (Relation.transGen_swap.mp cycle)
  have all : ∀ x : {a // a ∈ l}, Ends r x.1 := by
    intro x
    induction x using (DepthFirst.wellFounded_of_acyclic cycleless).induction with
    | _ x ih =>
        by_cases h : ∃ b, r x.1 b
        · obtain ⟨b, step⟩ := h
          exact ends_of_step step (ih ⟨b, inside step⟩ step)
        · exact ⟨x.1, .refl, fun c step => h ⟨c, step⟩⟩
  exact all ⟨a, ha⟩

end Ends

namespace Site

variable {s : Site} {c p : Class}

/-! ## 2. Classes of the tree -/

/-- The classes that the index lists. -/
def indexClasses (s : Site) : List Class := (s.view.elements s.config.listImports).classes

/-- A class names another one that the index lists as its parent. -/
def Parent (s : Site) (c p : Class) : Prop := p ∈ s.indexClasses ∧ c.isA = some p.name

/-- **Going from parent to parent comes to an end** at a class without a parent. -/
abbrev Rooted (s : Site) (c : Class) : Prop := Ends s.Parent c

theorem nodup_indexClasses (s : Site) : (s.indexClasses.map Class.name).Nodup :=
  (s.view.distinct_elements _).classes

theorem mem_merged_of_mem (h : c ∈ s.indexClasses) : c ∈ s.view.merged.classes := by
  have listed : Element.cls c ∈ s.view.all .cls s.config.listImports := List.mem_map_of_mem h
  obtain ⟨d, hd, same⟩ := List.mem_map.mp (s.view.mem_all_of_mem listed)
  exact Element.cls.inj same ▸ hd

theorem class?_of_mem_index (h : c ∈ s.indexClasses) : s.view.class? c.name = some c :=
  View.class?_of_mem (mem_merged_of_mem h)

/-- A class has one parent at most. -/
theorem parent_unique (s : Site) : Relator.RightUnique s.Parent := by
  intro c p q hp hq
  have same : p.name = q.name := Option.some.inj (hp.2.symm.trans hq.2)
  exact View.eq_of_class_name (mem_merged_of_mem hp.1) (mem_merged_of_mem hq.1) same

/-- The classes below a class are those that name it as their parent. -/
theorem mem_classChildren_iff {n m : String} :
    m ∈ s.view.classChildren n false s.config.listImports ↔
      ∃ c ∈ s.indexClasses, c.name = m ∧ c.isA = some n := by
  unfold View.classChildren indexClasses
  simp only [List.mem_map, List.mem_filter, Bool.false_and, Bool.or_false, beq_iff_eq]
  constructor
  · rintro ⟨c, ⟨hc, isA⟩, name⟩
    exact ⟨c, hc, name, isA⟩
  · rintro ⟨c, hc, name, isA⟩
    exact ⟨c, ⟨hc, isA⟩, name⟩

/-- **The tree begins with the classes that have no parent** among those listed. -/
theorem mem_classRoots_iff {n : String} :
    n ∈ s.view.classRoots false s.config.listImports ↔
      ∃ c ∈ s.indexClasses, c.name = n ∧ ∀ p, ¬ s.Parent c p := by
  have parents : ∀ c ∈ s.indexClasses,
      s.view.classParents c.name false true = c.isA.toList := by
    intro c hc
    unfold View.classParents
    rw [class?_of_mem_index hc]
    simp
  unfold View.classRoots
  simp only [List.mem_filter, List.all_eq_true, Bool.not_eq_true', List.contains_eq_mem,
    decide_eq_false_iff_not]
  constructor
  · rintro ⟨named, orphan⟩
    obtain ⟨c, hc, rfl⟩ := List.mem_map.mp named
    refine ⟨c, hc, rfl, fun p hp => orphan p.name ?_ (List.mem_map_of_mem hp.1)⟩
    rw [parents c hc, hp.2]
    exact List.mem_singleton_self _
  · rintro ⟨c, hc, rfl, orphan⟩
    refine ⟨List.mem_map_of_mem hc, fun n hn listed => ?_⟩
    rw [parents c hc, Option.mem_toList] at hn
    obtain ⟨p, hp, rfl⟩ := List.mem_map.mp listed
    exact orphan p ⟨hp, hn⟩

theorem mem_sortedSiblings {names : List String} {n : String} :
    n ∈ sortedSiblings names ↔ n ∈ names := by
  unfold sortedSiblings
  rw [mem_sortBy, List.mem_reverse]

/-- **The tree has no other classes than those from which the way up ends**: by induction on what
    leads to them from the top. -/
theorem rooted_of_mem {x : Nat × String} (h : x ∈ s.classTree) :
    ∃ c ∈ s.indexClasses, c.name = x.2 ∧ s.Rooted c := by
  obtain ⟨top, first, led⟩ := Walk.leads_of_mem h
  clear h
  induction led with
  | refl =>
      obtain ⟨n, mem, rfl⟩ := List.mem_map.mp first
      obtain ⟨c, hc, name, orphan⟩ := mem_classRoots_iff.mp (mem_sortedSiblings.mp mem)
      exact ⟨c, hc, name, c, .refl, orphan⟩
  | @tail y x _ step ih =>
      obtain ⟨p, hp, above, rooted⟩ := ih
      obtain ⟨n, mem, rfl⟩ := List.mem_map.mp step.2
      obtain ⟨c, hc, name, isA⟩ := mem_classChildren_iff.mp (mem_sortedSiblings.mp mem)
      exact ⟨c, hc, name, ends_of_step ⟨hp, above ▸ isA⟩ rooted⟩

/-- **The tree has all classes from which the way up ends**: by induction on this way, from its end. -/
theorem mem_of_rooted (hc : c ∈ s.indexClasses) (h : s.Rooted c) :
    c.name ∈ s.classTree.map Prod.snd := by
  obtain ⟨top, way, orphan⟩ := h
  induction way using Relation.ReflTransGen.head_induction_on with
  | refl =>
      have root := mem_sortedSiblings.mpr (mem_classRoots_iff.mpr ⟨top, hc, rfl, orphan⟩)
      exact Walk.todo_visited (List.mem_map_of_mem root) List.not_mem_nil
  | @head c p step _ ih =>
      obtain ⟨⟨depth, n⟩, visited, rfl⟩ := List.mem_map.mp (ih step.1)
      have child := mem_sortedSiblings.mpr (mem_classChildren_iff.mpr ⟨c, hc, rfl, step.2⟩)
      exact Walk.next_visited visited (List.mem_map_of_mem step.1) (List.mem_map_of_mem child)
        List.not_mem_nil

/-! ## 3. Rows -/

/-- **Rows show classes**: one for each, in their order and at some depth. -/
def Rows (s : Site) (rows : List ElementRow) (classes : List Class) : Prop :=
  List.Forall₂ (fun r c => ∃ depth, r = s.elementRow true depth (.cls c)) rows classes

/-- The rows of visited names show the classes of these names. -/
theorem rows_filterMap {visited : List (Nat × String)}
    (h : ∀ x ∈ visited, ∃ c ∈ s.indexClasses, c.name = x.2) :
    ∃ classes, s.Rows (visited.filterMap fun (depth, name) =>
        (s.view.class? name).map fun c => s.elementRow true depth (.cls c)) classes ∧
      classes.map Class.name = visited.map Prod.snd ∧ ∀ c ∈ classes, c ∈ s.indexClasses := by
  induction visited with
  | nil => exact ⟨[], .nil, rfl, fun c hc => absurd hc List.not_mem_nil⟩
  | cons x rest ih =>
      obtain ⟨classes, rows, names, listed⟩ := ih fun y hy => h y (List.mem_cons_of_mem _ hy)
      obtain ⟨depth, n⟩ := x
      obtain ⟨c, hc, rfl⟩ : ∃ c ∈ s.indexClasses, c.name = n := h (depth, n) List.mem_cons_self
      refine ⟨c :: classes, ?_, by rw [List.map_cons, List.map_cons, names], ?_⟩
      · rw [List.filterMap_cons_some (b := s.elementRow true depth (.cls c)) (by
          dsimp only
          rw [class?_of_mem_index hc]
          rfl)]
        exact .cons ⟨depth, rfl⟩ rows
      · intro d hd
        rcases List.mem_cons.mp hd with rfl | hd
        · exact hc
        · exact listed d hd

/-- **The tree shows the classes from which the way up ends, each once.** -/
theorem rows_treeRows (s : Site) :
    ∃ classes, s.Rows s.treeRows classes ∧ (classes.map Class.name).Nodup ∧
      ∀ c, c ∈ classes ↔ c ∈ s.indexClasses ∧ s.Rooted c := by
  obtain ⟨classes, rows, names, listed⟩ := rows_filterMap fun x hx => by
    obtain ⟨c, hc, name, _⟩ := rooted_of_mem (s := s) hx
    exact ⟨c, hc, name⟩
  have same : ∀ c ∈ s.indexClasses, ∀ d ∈ s.indexClasses, c.name = d.name → c = d :=
    fun c hc d hd => View.eq_of_class_name (mem_merged_of_mem hc) (mem_merged_of_mem hd)
  refine ⟨classes, rows, ?_, fun c => ⟨fun hc => ?_, fun ⟨hc, rooted⟩ => ?_⟩⟩
  · rw [names]
    exact Walk.nodup_preorder _ _ _ _ _
  · have visited : c.name ∈ s.classTree.map Prod.snd := names ▸ List.mem_map_of_mem hc
    obtain ⟨x, hx, at_x⟩ := List.mem_map.mp visited
    obtain ⟨d, hd, name, rooted⟩ := rooted_of_mem hx
    exact ⟨listed c hc, same c (listed c hc) d hd (at_x.symm.trans name.symm) ▸ rooted⟩
  · have visited := mem_of_rooted hc rooted
    rw [← names] at visited
    obtain ⟨d, hd, name⟩ := List.mem_map.mp visited
    exact same c hc d (listed d hd) name.symm ▸ hd

theorem perm_sortElements (s : Site) (elements : List Element) :
    (s.sortElements elements).Perm elements := by
  unfold sortElements
  split <;> exact perm_sortBy _ _

/-- **The plain list shows all classes of the index, each once.** -/
theorem rows_indexRows (s : Site) :
    ∃ classes, s.Rows (s.indexRows .cls) classes ∧ classes.Perm s.indexClasses := by
  have sorted := s.perm_sortElements (s.indexClasses.map Element.cls)
  obtain ⟨classes, shown, perm⟩ : ∃ classes : List Class,
      s.sortElements (s.indexClasses.map Element.cls) = classes.map Element.cls ∧
        classes.Perm s.indexClasses :=
    (congrFun₂ (List.eq_map_comp_perm Element.cls) _ _).mpr sorted
  refine ⟨classes, ?_, perm⟩
  have rows : s.indexRows .cls = classes.map fun c => s.elementRow true 0 (.cls c) := by
    show (s.sortElements (s.indexClasses.map Element.cls)).map (s.elementRow true 0) = _
    rw [shown, List.map_map]
    rfl
  rw [rows]
  unfold Rows
  rw [List.forall₂_map_left_iff]
  exact List.forall₂_same.mpr fun c _ => ⟨0, rfl⟩

/-! ## 4. Both listings -/

/-- A site with the tree of classes or with the plain list. -/
def withTree (s : Site) (tree : Bool) : Site := { s with config := { s.config with classTree := tree } }

/-- **The tree shows the classes of the plain list exactly if none of them inherits from itself**,
    directly or through others. In any case it shows no class twice and misses just those from which
    going from parent to parent never ends. -/
theorem tree_complete_iff (s : Site) :
    ∃ tree flat, s.Rows (s.withTree true).indexPage.classes tree ∧
      s.Rows (s.withTree false).indexPage.classes flat ∧
      flat.Perm s.indexClasses ∧ (flat.map Class.name).Nodup ∧ (tree.map Class.name).Nodup ∧
      (∀ c, c ∈ tree ↔ c ∈ flat ∧ s.Rooted c) ∧
      (tree.Perm flat ↔ ∀ c ∈ s.indexClasses, ¬ Relation.TransGen s.Parent c c) := by
  obtain ⟨tree, treeRows, treeNodup, mem⟩ := s.rows_treeRows
  obtain ⟨flat, flatRows, perm⟩ := s.rows_indexRows
  have flatNodup : (flat.map Class.name).Nodup :=
    (perm.map Class.name).nodup_iff.mpr s.nodup_indexClasses
  have shown : ∀ c, c ∈ tree ↔ c ∈ flat ∧ s.Rooted c := fun c => by rw [mem, perm.mem_iff]
  refine ⟨tree, flat, treeRows, flatRows, perm, flatNodup, treeNodup, shown, ?_, ?_⟩
  · intro complete c hc cycle
    have listed : c ∈ tree := complete.mem_iff.mpr (perm.mem_iff.mpr hc)
    exact not_ends_of_cycle s.parent_unique cycle ((mem c).mp listed).2
  · intro acyclic
    refine (List.perm_ext_iff_of_nodup treeNodup.of_map flatNodup.of_map).mpr fun c => ?_
    rw [shown]
    exact ⟨fun h => h.1, fun h => ⟨h, ends_of_acyclic (fun step => step.1) acyclic (perm.mem_iff.mp h)⟩⟩

/-- A class that is its own parent. -/
def ownParent : Class := { name := "A", isA := some "A" }

/-- A site of one class, which is its own parent. -/
def ownParentSite : Site where
  view := View.ofSchemas { id := "p", name := "p", classes := [ownParent] } []
  config := {}

/-- The plain list shows a class that is its own parent, and the tree is empty: it has no top. -/
theorem tree_incomplete_ownParent :
    (ownParentSite.withTree false).indexPage.classes =
        [ownParentSite.elementRow true 0 (.cls ownParent)] ∧
      (ownParentSite.withTree true).indexPage.classes = [] := by
  have no_top : ownParentSite.view.classRoots false false = [] := by decide +kernel
  have tree : ownParentSite.classTree = [] := by
    show Walk.preorder _ _ _ [] ((sortedSiblings (ownParentSite.view.classRoots false false)).map _) = []
    rw [no_top]
    exact Walk.preorder.eq_1 _ _ _ _
  refine ⟨by rfl, ?_⟩
  show ownParentSite.treeRows = []
  unfold treeRows
  rw [tree]
  rfl

end Site

end SchemaPages
