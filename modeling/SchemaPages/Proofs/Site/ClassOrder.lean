import SchemaPages.Proofs.Preorder
import SchemaPages.Proofs.Site.ClassTree
/-!
# The order of the tree of classes

Where no class inherits from itself, the classes that the index lists are a forest: every class has
one parent among them at most. The tree of classes is the pre-order of this forest, with siblings in
alphabetical order.

* `belowNames`, `topNames`: the forest by names;
* `listed_classTree`: the tree is its pre-order;
* `StepsUp`, `Siblings`, `SortedPreorder`: what a list of classes with depths has to be;
* `classTree_preorder`: the tree is such a list.
-/

namespace SchemaPages.Site

open DepthFirst

variable {s : Site} {c p : Class} {n m : String}

/-- **The steps from a class to its top**: from parent to parent among the classes that are listed,
    to one that has no parent there. -/
inductive StepsUp (s : Site) : Nat → Class → Prop where
  | top {c : Class} (orphan : ∀ p, ¬ s.Parent c p) : StepsUp s 0 c
  | up {k : Nat} {c p : Class} (step : s.Parent c p) (rest : StepsUp s k p) : StepsUp s (k + 1) c

/-- Two classes have the same parent, or neither has one. -/
def Siblings (s : Site) (c d : Class) : Prop := ∀ p, s.Parent c p ↔ s.Parent d p

/-- **A list of classes with their depths is the pre-order of their forest**, with siblings sorted. -/
structure SortedPreorder (s : Site) (l : List (Nat × Class)) : Prop where
  /-- Every class that the index lists stands there once. -/
  all : (l.map Prod.snd).Perm s.indexClasses
  once : (l.map fun x => x.2.name).Nodup
  depth : ∀ x ∈ l, s.StepsUp x.1 x.2
  /-- The parent is the nearest class before that stands one level above. -/
  parent : ∀ before d c after, l = before ++ (d + 1, c) :: after →
    ∃ p, before.reverse.find? (·.1 == d) = some (d, p) ∧ s.Parent c p
  sorted : l.Pairwise fun x y =>
    s.Siblings x.2 y.2 → Text.lowerText x.2.name ≤ Text.lowerText y.2.name

/-! ## 1. The forest -/

/-- The names of the classes below a class, in alphabetical order. -/
def belowNames (s : Site) (n : String) : List String :=
  sortedSiblings (s.view.classChildren n false s.config.listImports)

/-- The names of the classes without a parent, in alphabetical order. -/
def topNames (s : Site) : List String :=
  sortedSiblings (s.view.classRoots false s.config.listImports)

theorem mem_belowNames_iff :
    m ∈ s.belowNames n ↔ ∃ c ∈ s.indexClasses, c.name = m ∧ c.isA = some n :=
  mem_sortedSiblings.trans mem_classChildren_iff

theorem mem_topNames_iff :
    n ∈ s.topNames ↔ ∃ c ∈ s.indexClasses, c.name = n ∧ ∀ p, ¬ s.Parent c p :=
  mem_sortedSiblings.trans mem_classRoots_iff

theorem sorted_sortedSiblings (names : List String) :
    (sortedSiblings names).Pairwise fun a b => Text.lowerText a ≤ Text.lowerText b :=
  pairwise_sortBy _ _

theorem nodup_sortedSiblings {names : List String} (h : names.Nodup) :
    (sortedSiblings names).Nodup :=
  (perm_sortBy _ _).nodup_iff.mpr (List.nodup_reverse.mpr h)

theorem nodup_belowNames (s : Site) (n : String) : (s.belowNames n).Nodup :=
  nodup_sortedSiblings (s.nodup_indexClasses.sublist (List.filter_sublist.map Class.name))

theorem nodup_topNames (s : Site) : s.topNames.Nodup :=
  nodup_sortedSiblings (s.nodup_indexClasses.sublist List.filter_sublist)

/-- A class that is listed is known by its name. -/
theorem eq_of_index_name {d : Class} (hc : c ∈ s.indexClasses) (hd : d ∈ s.indexClasses)
    (same : c.name = d.name) : c = d :=
  View.eq_of_class_name (mem_merged_of_mem hc) (mem_merged_of_mem hd) same

/-- A class stands below one name alone. -/
theorem belowNames_unique {q r : String} (hq : m ∈ s.belowNames q) (hr : m ∈ s.belowNames r) :
    q = r := by
  obtain ⟨c, hc, name, isA⟩ := mem_belowNames_iff.mp hq
  obtain ⟨d, hd, name', isA'⟩ := mem_belowNames_iff.mp hr
  cases eq_of_index_name hc hd (name.trans name'.symm)
  exact Option.some.inj (isA.symm.trans isA')

/-- What stands below the name of a class that is listed has this class for its parent. -/
theorem parent_of_mem_belowNames (hp : p ∈ s.indexClasses) (h : m ∈ s.belowNames p.name) :
    ∃ c ∈ s.indexClasses, c.name = m ∧ s.Parent c p := by
  obtain ⟨c, hc, name, isA⟩ := mem_belowNames_iff.mp h
  exact ⟨c, hc, name, hp, isA⟩

/-- A way down through names is a way up through classes. -/
theorem transGen_of_leads (hp : p ∈ s.indexClasses) (h : Leads s.belowNames p.name m) :
    ∃ c ∈ s.indexClasses, c.name = m ∧ Relation.TransGen s.Parent c p := by
  induction h with
  | single step =>
      obtain ⟨c, hc, name, up⟩ := parent_of_mem_belowNames hp step
      exact ⟨c, hc, name, .single up⟩
  | tail _ step ih =>
      obtain ⟨d, hd, rfl, ups⟩ := ih
      obtain ⟨c, hc, name, up⟩ := parent_of_mem_belowNames hd step
      exact ⟨c, hc, name, .head up ups⟩

/-- Nothing leads to a class without a parent. -/
theorem not_leads_top (hp : p ∈ s.indexClasses) (hn : n ∈ s.topNames) :
    ¬ Leads s.belowNames p.name n := by
  intro led
  obtain ⟨c, hc, name, ups⟩ := transGen_of_leads hp led
  obtain ⟨d, hd, name', orphan⟩ := mem_topNames_iff.mp hn
  cases eq_of_index_name hc hd (name.trans name'.symm)
  obtain ⟨q, up, _⟩ := Relation.TransGen.head'_iff.mp ups
  exact orphan q up

/-! ## 2. The tree -/

/-- The classes that names stand for, each with its depth. -/
theorem exists_classes {names : List (Nat × String)}
    (h : ∀ x ∈ names, ∃ c ∈ s.indexClasses, c.name = x.2) :
    ∃ l : List (Nat × Class), names = l.map (fun x => (x.1, x.2.name)) ∧
      ∀ x ∈ l, x.2 ∈ s.indexClasses := by
  induction names with
  | nil => exact ⟨[], rfl, fun x hx => absurd hx List.not_mem_nil⟩
  | cons x rest ih =>
      obtain ⟨c, hc, name⟩ := h x List.mem_cons_self
      obtain ⟨l, rfl, listed⟩ := ih fun y hy => h y (List.mem_cons_of_mem _ hy)
      refine ⟨(x.1, c) :: l, by rw [List.map_cons, name], fun y hy => ?_⟩
      rcases List.mem_cons.mp hy with rfl | hy
      · exact hc
      · exact listed y hy

section Acyclic

variable (acyclic : ∀ c ∈ s.indexClasses, ¬ Relation.TransGen s.Parent c c)
include acyclic

theorem acyclic_belowNames (n : String) : ¬ Leads s.belowNames n n := by
  intro cycle
  obtain ⟨_, _, last⟩ := Relation.TransGen.tail'_iff.mp cycle
  obtain ⟨p, hp, rfl, _⟩ := mem_belowNames_iff.mp last
  obtain ⟨c, hc, same, ups⟩ := transGen_of_leads hp cycle
  cases eq_of_index_name hc hp same
  exact acyclic p hp ups

/-- **The tree of classes is the pre-order of their forest.** -/
theorem listed_classTree : Listed s.belowNames 0 s.topNames s.classTree := by
  have inside : ∀ n, ∀ m ∈ s.belowNames n, m ∈ s.indexClasses.map Class.name := by
    intro n m hm
    obtain ⟨c, hc, rfl, _⟩ := mem_belowNames_iff.mp hm
    exact List.mem_map_of_mem hc
  have tops : ∀ n ∈ s.topNames, n ∈ s.indexClasses.map Class.name := by
    intro n hn
    obtain ⟨c, hc, rfl, _⟩ := mem_topNames_iff.mp hn
    exact List.mem_map_of_mem hc
  obtain ⟨l, listed⟩ := exists_listed inside (acyclic_belowNames acyclic) 0 s.topNames
  have known : ∀ x ∈ l, x.2 ∈ s.indexClasses.map Class.name :=
    of_listed (P := fun _ n => n ∈ s.indexClasses.map Class.name) listed
      (fun _ p _ c hc => inside p c hc) tops
  have apart : ∀ a ∈ s.topNames, ∀ b ∈ s.topNames, ¬ Leads s.belowNames a b := by
    intro a ha b hb
    obtain ⟨c, hc, rfl⟩ := List.mem_map.mp (tops a ha)
    exact not_leads_top hc hb
  have nodup : (l.map Prod.snd).Nodup := nodup_of_listed belowNames_unique
    (acyclic_belowNames acyclic) s.nodup_belowNames listed s.nodup_topNames apart
  have walk : s.classTree = l := by
    have whole := preorder_of_listed listed [] [] known
      (fun _ _ => List.not_mem_nil) nodup
    rw [List.append_nil, Walk.preorder.eq_1, List.append_nil] at whole
    exact whole
  exact walk ▸ listed

/-- Each name of the tree stands for a class that is as many steps below its top as the tree says. -/
theorem exists_class_of_mem {x : Nat × String} (hx : x ∈ s.classTree) :
    ∃ c ∈ s.indexClasses, c.name = x.2 ∧ s.StepsUp x.1 c := by
  refine of_listed (P := fun k n => ∃ c ∈ s.indexClasses, c.name = n ∧ s.StepsUp k c)
    (listed_classTree acyclic) ?_ ?_ x hx
  · rintro k _ ⟨p, hp, rfl, steps⟩ m hm
    obtain ⟨c, hc, name, up⟩ := parent_of_mem_belowNames hp hm
    exact ⟨c, hc, name, .up up steps⟩
  · intro n hn
    obtain ⟨c, hc, name, orphan⟩ := mem_topNames_iff.mp hn
    exact ⟨c, hc, name, .top orphan⟩

/-- Siblings stand in the tree in one sorted row. -/
theorem part_of_siblings {d : Class} (hc : c ∈ s.indexClasses) (hd : d ∈ s.indexClasses)
    (siblings : s.Siblings c d) :
    ∃ part : List String, part.Sublist (s.classTree.map Prod.snd) ∧
      (part.Pairwise fun a b => Text.lowerText a ≤ Text.lowerText b) ∧
      c.name ∈ part ∧ d.name ∈ part := by
  have tree : Listed s.belowNames 0 s.topNames s.classTree := listed_classTree acyclic
  by_cases h : ∃ p, s.Parent c p
  · obtain ⟨p, up⟩ := h
    have up' : s.Parent d p := (siblings p).mp up
    have there : p.name ∈ s.classTree.map Prod.snd :=
      mem_of_rooted up.1 (ends_of_acyclic (fun step => step.1) acyclic up.1)
    exact ⟨s.belowNames p.name, children_sublist tree there, sorted_sortedSiblings _,
      mem_belowNames_iff.mpr ⟨c, hc, rfl, up.2⟩, mem_belowNames_iff.mpr ⟨d, hd, rfl, up'.2⟩⟩
  · have orphan : ∀ p, ¬ s.Parent c p := fun p up => h ⟨p, up⟩
    have orphan' : ∀ p, ¬ s.Parent d p := fun p up => h ⟨p, (siblings p).mpr up⟩
    exact ⟨s.topNames, siblings_sublist tree, sorted_sortedSiblings _,
      mem_topNames_iff.mpr ⟨c, hc, rfl, orphan⟩, mem_topNames_iff.mpr ⟨d, hd, rfl, orphan'⟩⟩

end Acyclic

/-! ## 3. The classes in the tree -/

/-- What is sorted in part of a list without repetitions is sorted there. -/
theorem pairwise_of_sublist {α : Type} {r : α → α → Prop} {part l : List α} (h : part.Sublist l)
    (nodup : l.Nodup) (sorted : part.Pairwise r) :
    l.Pairwise fun a b => a ∈ part → b ∈ part → r a b := by
  induction h with
  | slnil => exact .nil
  | @cons part l a _ ih =>
      obtain ⟨fresh, others⟩ := List.nodup_cons.mp nodup
      refine List.pairwise_cons.mpr ⟨fun b _ ha => ?_, ih others sorted⟩
      exact absurd (List.Sublist.subset ‹_› ha) fresh
  | @cons_cons part l a _ ih =>
      obtain ⟨fresh, others⟩ := List.nodup_cons.mp nodup
      obtain ⟨first, rest⟩ := List.pairwise_cons.mp sorted
      refine List.pairwise_cons.mpr ⟨fun b hb _ hpart => ?_, ?_⟩
      · rcases List.mem_cons.mp hpart with rfl | hpart
        · exact absurd hb fresh
        · exact first b hpart
      · refine (ih others rest).imp_of_mem fun {x y} hx hy less hx' hy' => ?_
        have ne_head : ∀ z ∈ l, z ∈ a :: part → z ∈ part := fun z hz hm =>
          (List.mem_cons.mp hm).resolve_left fun e => fresh (e ▸ hz)
        exact less (ne_head x hx hx') (ne_head y hy hy')

section Rows

variable {l : List (Nat × Class)} (names : s.classTree = l.map fun x => (x.1, x.2.name))
  (listed : ∀ x ∈ l, x.2 ∈ s.indexClasses)

include names in
theorem map_snd_classTree : s.classTree.map Prod.snd = l.map fun x => x.2.name := by
  rw [names, List.map_map]
  rfl

include names in
theorem nodup_row_names : (l.map fun x => x.2.name).Nodup :=
  map_snd_classTree names ▸ Walk.nodup_preorder _ _ _ _ _

variable (acyclic : ∀ c ∈ s.indexClasses, ¬ Relation.TransGen s.Parent c c)
include names listed acyclic

/-- The classes in the tree are those that the index lists. -/
theorem perm_rows : (l.map Prod.snd).Perm s.indexClasses := by
  have distinct : (l.map Prod.snd).Nodup := by
    refine List.Nodup.of_map Class.name ?_
    rw [List.map_map]
    exact nodup_row_names names
  refine (List.perm_ext_iff_of_nodup distinct s.nodup_indexClasses.of_map).mpr fun c => ?_
  constructor
  · intro hc
    obtain ⟨x, hx, rfl⟩ := List.mem_map.mp hc
    exact listed x hx
  · intro hc
    have there := mem_of_rooted hc (ends_of_acyclic (fun step => step.1) acyclic hc)
    rw [map_snd_classTree names] at there
    obtain ⟨x, hx, name⟩ := List.mem_map.mp there
    exact eq_of_index_name (listed x hx) hc name ▸ List.mem_map_of_mem hx

/-- Depths are numbers of steps. -/
theorem stepsUp_of_row {x : Nat × Class} (hx : x ∈ l) : s.StepsUp x.1 x.2 := by
  have there : (x.1, x.2.name) ∈ s.classTree := names ▸ List.mem_map_of_mem hx
  obtain ⟨c, hc, name, steps⟩ := exists_class_of_mem acyclic there
  exact eq_of_index_name hc (listed x hx) name ▸ steps

/-- The parent of a class stands where the depths say. -/
theorem parent_of_row {before after : List (Nat × Class)} {d : Nat}
    (e : l = before ++ (d + 1, c) :: after) :
    ∃ p, before.reverse.find? (·.1 == d) = some (d, p) ∧ s.Parent c p := by
  subst e
  have hc : c ∈ s.indexClasses := listed (d + 1, c) (by simp)
  rw [List.map_append, List.map_cons] at names
  obtain ⟨n, found, below⟩ := parent_before (listed_classTree acyclic) (Nat.zero_le d) names
  rw [← List.map_reverse, List.find?_map, Option.map_eq_some_iff] at found
  obtain ⟨⟨k, p⟩, found, same⟩ := found
  cases same
  have hp : p ∈ s.indexClasses :=
    listed (k, p) (List.mem_append_left _ (List.mem_reverse.mp (List.mem_of_find?_eq_some found)))
  obtain ⟨c', hc', name, up⟩ := parent_of_mem_belowNames hp below
  exact ⟨p, found, eq_of_index_name hc' hc name ▸ up⟩

/-- Siblings are sorted. -/
theorem sorted_rows : l.Pairwise fun x y =>
    s.Siblings x.2 y.2 → Text.lowerText x.2.name ≤ Text.lowerText y.2.name := by
  refine List.pairwise_iff_forall_sublist.mpr fun {x y} both siblings => ?_
  have hx : x ∈ l := both.subset List.mem_cons_self
  have hy : y ∈ l := both.subset (List.mem_cons_of_mem _ List.mem_cons_self)
  obtain ⟨part, kept, sorted, mem⟩ := part_of_siblings acyclic (listed x hx) (listed y hy) siblings
  rw [map_snd_classTree names] at kept
  have order := List.pairwise_map.mp (pairwise_of_sublist kept (nodup_row_names names) sorted)
  exact List.pairwise_iff_forall_sublist.mp order both mem.1 mem.2

end Rows

/-- **The tree of classes is sorted and in pre-order**, if no class that is listed inherits from
    itself, directly or through others. It has each class once, with the number of steps from parent
    to parent up to a class without a parent among those listed; the parent of a class is the nearest
    class before it that stands one level above; and classes with one parent, as well as those without
    a parent, come in alphabetical order, whatever the case of their letters. -/
theorem classTree_preorder (s : Site)
    (acyclic : ∀ c ∈ s.indexClasses, ¬ Relation.TransGen s.Parent c c) :
    ∃ l : List (Nat × Class),
      s.classTree = l.map (fun x => (x.1, x.2.name)) ∧ s.SortedPreorder l := by
  have classes : ∀ x ∈ s.classTree, ∃ c ∈ s.indexClasses, c.name = x.2 := by
    intro x hx
    obtain ⟨c, hc, name, _⟩ := exists_class_of_mem acyclic hx
    exact ⟨c, hc, name⟩
  obtain ⟨l, names, listed⟩ := exists_classes classes
  refine ⟨l, names, ?_⟩
  exact
    { all := perm_rows names listed acyclic
      once := nodup_row_names names
      depth := fun x hx => stepsUp_of_row names listed acyclic hx
      parent := fun before d c after e => parent_of_row names listed acyclic e
      sorted := sorted_rows names listed acyclic }

/-- Animals and a stone. What animals are is not said. -/
def zoo : Site where
  view := View.ofSchemas
    { id := "zoo", name := "zoo", classes := [
        { name := "Stone" }, { name := "dog", isA := some "Animal" },
        { name := "Puppy", isA := some "dog" }, { name := "Cat", isA := some "Animal" },
        { name := "Animal", isA := some "Thing" }] } []
  config := {}

theorem acyclic_zoo : ∀ c ∈ zoo.indexClasses, ¬ Relation.TransGen zoo.Parent c c := by
  let rank (n : String) : Nat := if n = "Puppy" then 2 else if n = "Animal" then 0 else 1
  have step : ∀ c ∈ zoo.indexClasses, ∀ p ∈ zoo.indexClasses, c.isA = some p.name →
      rank p.name < rank c.name := by decide +kernel
  have lower : ∀ c ∈ zoo.indexClasses, ∀ d, Relation.TransGen zoo.Parent c d →
      d ∈ zoo.indexClasses ∧ rank d.name < rank c.name := by
    intro c hc d way
    induction way with
    | single up => exact ⟨up.1, step c hc _ up.1 up.2⟩
    | tail _ up ih => exact ⟨up.1, (step _ ih.1 _ up.1 up.2).trans ih.2⟩
  exact fun c hc cycle => Nat.lt_irrefl _ (lower c hc c cycle).2

theorem classTree_zoo :
    zoo.classTree = [(0, "Animal"), (1, "Cat"), (1, "dog"), (2, "Puppy"), (0, "Stone")] := by
  have tops : zoo.topNames = ["Animal", "Stone"] := by decide +kernel
  have animals : zoo.belowNames "Animal" = ["Cat", "dog"] := by decide +kernel
  have cats : zoo.belowNames "Cat" = [] := by decide +kernel
  have dogs : zoo.belowNames "dog" = ["Puppy"] := by decide +kernel
  have puppies : zoo.belowNames "Puppy" = [] := by decide +kernel
  have stones : zoo.belowNames "Stone" = [] := by decide +kernel
  have names : (zoo.view.elements zoo.config.listImports).classes.map Class.name =
      ["Stone", "dog", "Puppy", "Cat", "Animal"] := by decide +kernel
  show Walk.preorder Prod.snd (deeper zoo.belowNames) _ [] (zoo.topNames.map (0, ·)) = _
  rw [tops, names]
  simp [Walk.preorder, deeper, animals, cats, dogs, puppies, stones]

/-- In the tree of the zoo the case of letters does not count, and the animals have no parent since
    what they are is no class. -/
theorem classTree_preorder_zoo :
    (∀ c ∈ zoo.indexClasses, ¬ Relation.TransGen zoo.Parent c c) ∧
      zoo.classTree = [(0, "Animal"), (1, "Cat"), (1, "dog"), (2, "Puppy"), (0, "Stone")] ∧
      ∃ l : List (Nat × Class),
        zoo.classTree = l.map (fun x => (x.1, x.2.name)) ∧ zoo.SortedPreorder l :=
  ⟨acyclic_zoo, classTree_zoo, classTree_preorder zoo acyclic_zoo⟩

end SchemaPages.Site
