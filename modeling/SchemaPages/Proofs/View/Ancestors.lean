import Mathlib.Data.List.Nodup
import Mathlib.Logic.Relation
import SchemaPages.View.Ancestry
/-!
# Ancestors

A walk visits whatever its names lead to, each name once, also where names run in a circle or stand
for nothing. So the ancestors of a class are exactly what its parents lead to.

* `Walk.Leads`: what an element leads to over any number of steps;
* `Walk.nodup_preorder`, `Walk.leads_of_mem`, `Walk.todo_visited`, `Walk.next_visited`: what a walk
  visits; `Walk.todo_or_next_of_split`: what it has visited before;
* `View.mem_walk_iff`: everything above a name, whatever its parents are;
* `View.Inherits`, `View.mem_classAncestors_iff`: the ancestors of a class.
-/

namespace SchemaPages

namespace Walk

/-! ## 1. Walks -/

/-- One element leads to another, over any number of steps from nodes. -/
def Leads {α : Type} (name : α → String) (next : α → List α) (nodes : List String) : α → α → Prop :=
  Relation.ReflTransGen fun a b => name a ∈ nodes ∧ b ∈ next a

section Preorder

variable {α : Type} {name : α → String} {next : α → List α} {nodes seen : List String}
  {todo : List α} {a b : α}

/-- A walk visits no name that it has seen before. -/
theorem not_seen_of_mem (h : a ∈ preorder name next nodes seen todo) : name a ∉ seen := by
  fun_induction preorder name next nodes seen todo with
  | case1 => exact absurd h List.not_mem_nil
  | case2 seen c rest hs ih => exact ih h
  | case3 seen c rest hs hn ih =>
      rcases List.mem_cons.mp h with rfl | h
      · exact hs
      · exact fun hm => ih h (List.mem_cons_of_mem _ hm)
  | case4 seen c rest hs hn ih =>
      rcases List.mem_cons.mp h with rfl | h
      · exact hs
      · exact fun hm => ih h (List.mem_cons_of_mem _ hm)

/-- **A walk visits each name once.** -/
theorem nodup_preorder (name : α → String) (next : α → List α) (nodes seen : List String)
    (todo : List α) : ((preorder name next nodes seen todo).map name).Nodup := by
  have fresh : ∀ (c : α) (seen : List String) (todo : List α),
      name c ∉ (preorder name next nodes (name c :: seen) todo).map name := by
    intro c seen todo hm
    obtain ⟨d, hd, same⟩ := List.mem_map.mp hm
    exact not_seen_of_mem hd (same ▸ List.mem_cons_self)
  fun_induction preorder name next nodes seen todo with
  | case1 => exact List.nodup_nil
  | case2 seen c rest hs ih => exact ih
  | case3 seen c rest hs hn ih => exact List.nodup_cons.mpr ⟨fresh c _ _, ih⟩
  | case4 seen c rest hs hn ih => exact List.nodup_cons.mpr ⟨fresh c _ _, ih⟩

/-- **A walk visits nothing else than what it is led to.** -/
theorem leads_of_mem (h : a ∈ preorder name next nodes seen todo) :
    ∃ b ∈ todo, Leads name next nodes b a := by
  fun_induction preorder name next nodes seen todo with
  | case1 => exact absurd h List.not_mem_nil
  | case2 seen c rest hs ih =>
      obtain ⟨b, hb, led⟩ := ih h
      exact ⟨b, List.mem_cons_of_mem _ hb, led⟩
  | case3 seen c rest hs hn ih =>
      rcases List.mem_cons.mp h with rfl | h
      · exact ⟨a, List.mem_cons_self, .refl⟩
      · obtain ⟨b, hb, led⟩ := ih h
        rcases List.mem_append.mp hb with hb | hb
        · exact ⟨c, List.mem_cons_self, .head ⟨hn, hb⟩ led⟩
        · exact ⟨b, List.mem_cons_of_mem _ hb, led⟩
  | case4 seen c rest hs hn ih =>
      rcases List.mem_cons.mp h with rfl | h
      · exact ⟨a, List.mem_cons_self, .refl⟩
      · obtain ⟨b, hb, led⟩ := ih h
        exact ⟨b, List.mem_cons_of_mem _ hb, led⟩

/-- A name is visited that is not the first one's and is visited after the first one. -/
theorem mem_names_cons {n : String} {c : α} {visited : List α}
    (h : n ∉ name c :: seen → n ∈ visited.map name) (hn : n ∉ seen) :
    n ∈ (c :: visited).map name := by
  rw [List.map_cons, List.mem_cons]
  by_cases same : n = name c
  · exact Or.inl same
  · exact Or.inr (h fun hm => (List.mem_cons.mp hm).elim same hn)

/-- **A walk visits all that there is to do**, unless its name has been seen. -/
theorem todo_visited (ha : a ∈ todo) (hs : name a ∉ seen) :
    name a ∈ (preorder name next nodes seen todo).map name := by
  fun_induction preorder name next nodes seen todo with
  | case1 => exact absurd ha List.not_mem_nil
  | case2 seen c rest seenBefore ih =>
      rcases List.mem_cons.mp ha with rfl | ha
      · exact absurd seenBefore hs
      · exact ih ha hs
  | case3 seen c rest _ hn ih =>
      rcases List.mem_cons.mp ha with rfl | ha
      · exact List.mem_cons_self
      · exact mem_names_cons (ih (List.mem_append_right _ ha)) hs
  | case4 seen c rest _ hn ih =>
      rcases List.mem_cons.mp ha with rfl | ha
      · exact List.mem_cons_self
      · exact mem_names_cons (ih ha) hs

/-- **A walk visits what stands next to a node that it visits**, unless its name has been seen. -/
theorem next_visited (ha : a ∈ preorder name next nodes seen todo) (hn : name a ∈ nodes)
    (hb : b ∈ next a) (hs : name b ∉ seen) :
    name b ∈ (preorder name next nodes seen todo).map name := by
  fun_induction preorder name next nodes seen todo with
  | case1 => exact absurd ha List.not_mem_nil
  | case2 seen c rest _ ih => exact ih ha hs
  | case3 seen c rest _ hc ih =>
      rcases List.mem_cons.mp ha with rfl | ha
      · exact mem_names_cons (todo_visited (List.mem_append_left _ hb)) hs
      · exact mem_names_cons (ih ha) hs
  | case4 seen c rest _ hc ih =>
      rcases List.mem_cons.mp ha with rfl | ha
      · exact absurd hn hc
      · exact mem_names_cons (ih ha) hs

/-- **Whatever a walk visits was to do or stands next to something visited before it.** -/
theorem todo_or_next_of_split {before after : List α}
    (h : preorder name next nodes seen todo = before ++ b :: after) :
    b ∈ todo ∨ ∃ a ∈ before, b ∈ next a := by
  fun_induction preorder name next nodes seen todo generalizing before with
  | case1 => exact absurd h.symm (by simp)
  | case2 seen c rest _ ih => exact (ih h).imp_left (List.mem_cons_of_mem _)
  | case3 seen c rest _ hc ih =>
      rcases List.append_eq_cons_iff.mp h.symm with ⟨rfl, e⟩ | ⟨init, rfl, e⟩
      · cases e
        exact Or.inl List.mem_cons_self
      · rcases ih e with hb | ⟨a, ha, hb⟩
        · rcases List.mem_append.mp hb with hb | hb
          · exact Or.inr ⟨c, List.mem_cons_self, hb⟩
          · exact Or.inl (List.mem_cons_of_mem _ hb)
        · exact Or.inr ⟨a, List.mem_cons_of_mem _ ha, hb⟩
  | case4 seen c rest _ hc ih =>
      rcases List.append_eq_cons_iff.mp h.symm with ⟨rfl, e⟩ | ⟨init, rfl, e⟩
      · cases e
        exact Or.inl List.mem_cons_self
      · rcases ih e with hb | ⟨a, ha, hb⟩
        · exact Or.inl (List.mem_cons_of_mem _ hb)
        · exact Or.inr ⟨a, List.mem_cons_of_mem _ ha, hb⟩

end Preorder

end Walk

namespace View

/-! ## 2. Names above a name -/

/-- One name is another or stands above it, over any number of parents. -/
abbrev Above (parents : String → List String) : String → String → Prop :=
  Relation.ReflTransGen fun a b => b ∈ parents a

section Above

variable {parents : String → List String} {nodes : List String} {start a : String}

/-- **The walk from the parents of a name meets exactly what stands above it**, but for the name
    itself. -/
theorem mem_walk_iff (h : ∀ n ∉ nodes, parents n = []) :
    a ∈ Walk.preorder id parents nodes [start] (parents start) ↔
      a ≠ start ∧ Above parents start a := by
  constructor
  · intro ha
    obtain ⟨b, hb, led⟩ := Walk.leads_of_mem ha
    exact ⟨fun e => Walk.not_seen_of_mem ha (List.mem_singleton.mpr e),
      .head hb (led.lift id fun _ _ step => step.2)⟩
  · rintro ⟨hne, above⟩
    induction above with
    | refl => exact absurd rfl hne
    | @tail b a led step ih =>
        have fresh : id a ∉ [start] := fun hm => hne (List.mem_singleton.mp hm)
        have node : b ∈ nodes := Classical.byContradiction fun hn =>
          absurd step (h b hn ▸ List.not_mem_nil)
        by_cases first : b = start
        · simpa using Walk.todo_visited (first ▸ step) fresh
        · simpa using Walk.next_visited (ih first) node step fresh

theorem mem_ancestorsBy_iff (h : ∀ n ∉ nodes, parents n = []) :
    a ∈ ancestorsBy parents nodes start false ↔ a ≠ start ∧ Above parents start a := by
  rw [← mem_walk_iff h]
  rfl

theorem mem_ancestorsBy_self_iff (h : ∀ n ∉ nodes, parents n = []) :
    a ∈ ancestorsBy parents nodes start true ↔ Above parents start a := by
  show a ∈ [start] ++ _ ↔ _
  rw [List.mem_append, List.mem_singleton, mem_walk_iff h]
  constructor
  · rintro (rfl | ⟨_, above⟩)
    · exact .refl
    · exact above
  · intro above
    by_cases e : a = start
    · exact Or.inl e
    · exact Or.inr ⟨e, above⟩

theorem nodup_ancestorsBy (parents : String → List String) (nodes : List String) (start : String) :
    (ancestorsBy parents nodes start false).Nodup := by
  have nodup := Walk.nodup_preorder id parents nodes [start] (parents start)
  rwa [List.map_id] at nodup

end Above

/-! ## 3. Ancestors of classes -/

section Classes

variable {v : View} {n a : String} {mixins : Bool}

/-- A name that stands for no class has no parents. -/
theorem classParents_eq_nil (h : n ∉ v.merged.classes.map Class.name) (mixins isA : Bool) :
    v.classParents n mixins isA = [] := by
  have unknown : v.class? n = none := by
    refine List.find?_eq_none.mpr fun c hc => ?_
    simpa using fun e : c.name = n => h (e ▸ List.mem_map_of_mem hc)
  unfold classParents
  rw [unknown]

/-- What has a parent is a class. -/
theorem known_of_classParents {isA : Bool} (h : a ∈ v.classParents n mixins isA) :
    n ∈ v.merged.classes.map Class.name := by
  by_contra unknown
  rw [classParents_eq_nil unknown] at h
  cases h

/-- **A class inherits from another**, over any number of parents and mixins, or is the same. -/
abbrev Inherits (v : View) : String → String → Prop := Above fun n => v.classParents n true true

/-- **The ancestors of a class are exactly what its parents lead to**, with mixins or without. -/
theorem mem_classAncestors_iff :
    a ∈ v.classAncestors n mixins false ↔ a ≠ n ∧ Above (v.classParents · mixins true) n a :=
  mem_ancestorsBy_iff fun _ hn => classParents_eq_nil hn mixins true

theorem mem_classAncestors_self_iff :
    a ∈ v.classAncestors n mixins true ↔ Above (v.classParents · mixins true) n a :=
  mem_ancestorsBy_self_iff fun _ hn => classParents_eq_nil hn mixins true

theorem nodup_classAncestors (v : View) (n : String) (mixins : Bool) :
    (v.classAncestors n mixins false).Nodup :=
  nodup_ancestorsBy _ _ n

end Classes

end View

end SchemaPages
