import SchemaPages.Proofs.DepthFirst
import SchemaPages.Proofs.View.Domains
/-!
# What the ancestors of a name are

The ancestors of a name are walked depth first. The parents of a name are gone through before its
next sibling, and a name that has been met is passed over, so the walk ends on every graph of
parents: on cycles, on names that are their own parents and on names that stand for nothing. What is
passed over is not lost, since whatever stands above it is met as well.

* `visits_of_walk`: a walk is a tour of the graph of parents;
* `Exhausts`, `exhausts_walk`: what a walk from the parents of a name finds;
* `ancestors_exhaust`: the ancestors of classes and slots, and the slots of a class.
-/

namespace SchemaPages.View

open DepthFirst

/-- **A list of names is all that stands above a name**, in the order of a depth-first tour. -/
structure Exhausts (parents : String → List String) (n : String) (above : List String) : Prop where
  /-- The tour from the parents of the name comes to its end, and has met the name and the list. -/
  ends : ∃ t, Visits parents (parents n) ⟨[n], []⟩ t ∧ t.met.reverse = n :: above
  nodup : above.Nodup
  /-- The list has whatever one or more steps lead to, but for the name itself. -/
  mem : ∀ a, a ∈ above ↔ a ≠ n ∧ Leads parents n a

/-! ## 1. Walks are tours -/

section Walks

variable {parents : String → List String} {nodes : List String}

/-- **A walk is a tour**: it has the names that the tour meets, the first one first. The walk keeps
    what it has to do in one list, so each visit is cut where the parents of a name are done. -/
theorem visits_of_walk (h : ∀ n ∉ nodes, parents n = []) (seen todo : List String)
    (t : Tour String) (same : t.met = seen) :
    ∃ t', Visits parents todo t t' ∧
      t'.met = (Walk.preorder id parents nodes seen todo).reverse ++ seen := by
  fun_induction Walk.preorder id parents nodes seen todo generalizing t with
  | case1 seen => exact ⟨t, .stop t, same⟩
  | case2 seen a rest met ih =>
      obtain ⟨t', after, names⟩ := ih t same
      exact ⟨t', .pass (same ▸ met) after, names⟩
  | case3 seen a rest fresh node ih =>
      obtain ⟨last, visits, names⟩ := ih (t.enter a) (congrArg (a :: ·) same)
      obtain ⟨inside, below, after⟩ := exists_of_visits_append visits
      obtain ⟨t', after, met⟩ := visits_of_met_eq after (u := inside.leave a) rfl
      refine ⟨t', .enter (same ▸ fresh) below after, ?_⟩
      rw [met, names]
      simp
  | case4 seen a rest fresh unknown ih =>
      obtain ⟨last, visits, names⟩ := ih (t.enter a) (congrArg (a :: ·) same)
      obtain ⟨t', after, met⟩ := visits_of_met_eq visits (u := (t.enter a).leave a) rfl
      have nothing : parents a = [] := h a unknown
      refine ⟨t', .enter (same ▸ fresh) (nothing ▸ .stop _) after, ?_⟩
      rw [met, names]
      simp

/-- **The walk from the parents of a name finds all that stands above it.** -/
theorem exhausts_walk (h : ∀ n ∉ nodes, parents n = []) (n : String) :
    Exhausts parents n (Walk.preorder id parents nodes [n] (parents n)) where
  ends := by
    obtain ⟨t, visits, names⟩ := visits_of_walk h [n] (parents n) ⟨[n], []⟩ rfl
    exact ⟨t, visits, by rw [names]; simp⟩
  nodup := nodup_ancestorsBy parents nodes n
  mem a := by
    rw [mem_walk_iff h]
    refine and_congr_right fun other => ?_
    rw [Above, Relation.reflTransGen_iff_eq_or_transGen]
    exact or_iff_right other

/-- The name itself comes first if it is wanted, and nowhere else. -/
theorem ancestorsBy_eq (parents : String → List String) (nodes : List String) (n : String)
    (reflexive : Bool) :
    ancestorsBy parents nodes n reflexive =
      if reflexive then n :: Walk.preorder id parents nodes [n] (parents n)
      else Walk.preorder id parents nodes [n] (parents n) := by
  cases reflexive <;> rfl

end Walks

/-! ## 2. Ancestors of a view -/

/-- A name that stands for no slot has no parents. -/
theorem slotParents_eq_nil {v : View} {n : String} (h : n ∉ v.merged.slots.map Slot.name)
    (mixins : Bool) : v.slotParents n mixins = [] := by
  have unknown : v.slot? n = none := by
    refine List.find?_eq_none.mpr fun s hs => ?_
    simpa using fun e : s.name = n => h (e ▸ List.mem_map_of_mem hs)
  unfold slotParents
  rw [unknown]

/-- **Ancestors are exactly what is reachable.** Whatever the parents of classes and slots are, the
    walk to their ancestors ends and meets just the names that one or more steps from parent to
    parent lead to, each once; the name itself is no entry but the first one, where it is wanted. The
    slots of a class are those that the classes among its ancestors and the class itself list, where
    they first occur. -/
theorem ancestors_exhaust (v : View) (n : String) (mixins : Bool) :
    (∃ above, Exhausts (v.classParents · mixins true) n above ∧
      ∀ reflexive, v.classAncestors n mixins reflexive = if reflexive then n :: above else above) ∧
    (∃ above, Exhausts (v.slotParents · mixins) n above ∧
      ∀ reflexive, v.slotAncestors n mixins reflexive = if reflexive then n :: above else above) ∧
    FirstOccurrences
      (((v.classAncestors n true true).filterMap v.class?).flatMap Class.directSlotNames)
      (v.classSlots n) := by
  refine ⟨⟨_, exhausts_walk (fun _ unknown => classParents_eq_nil unknown mixins true) n, ?_⟩,
    ⟨_, exhausts_walk (fun _ unknown => slotParents_eq_nil unknown mixins) n, ?_⟩,
    v.firstOccurrences_classSlots n⟩
  · exact ancestorsBy_eq _ _ n
  · exact ancestorsBy_eq _ _ n

end SchemaPages.View
