import Mathlib.Data.Set.Finite.Basic
import SchemaPages.Proofs.DepthFirst
import SchemaPages.View.Walk
/-!
# Forests in pre-order

A forest is listed in pre-order when each node comes before the nodes below it and these before its
next sibling. Here each node is listed with its depth, so the list tells the forest.

* `Listed`: the pre-order of a forest;
* `of_listed`: what passes from nodes to their children holds of all that is listed;
* `parent_before`: the parent of a node is the last one before it that is one level above it;
* `siblings_sublist`, `children_sublist`: siblings keep their order;
* `nodup_of_listed`, `exists_listed`: without cycles a forest has a list, and no node stands in it
  twice;
* `preorder_of_listed`: a walk through a forest lists it.
-/

namespace SchemaPages.DepthFirst

variable {α : Type}

/-- **The pre-order of a forest** whose roots are siblings at some depth. -/
inductive Listed (children : α → List α) : Nat → List α → List (Nat × α) → Prop where
  | nil (d : Nat) : Listed children d [] []
  | cons {d : Nat} {a : α} {siblings : List α} {below after : List (Nat × α)}
      (down : Listed children (d + 1) (children a) below)
      (next : Listed children d siblings after) :
      Listed children d (a :: siblings) ((d, a) :: (below ++ after))

/-! ## 1. What a list tells -/

section Listed

variable {children : α → List α} {d k : Nat} {siblings : List α} {l : List (Nat × α)}

/-- **What holds of the roots and passes from each node to its children holds of all that is
    listed**, at its depth. -/
theorem of_listed {P : Nat → α → Prop} (h : Listed children d siblings l)
    (step : ∀ k p, P k p → ∀ c ∈ children p, P (k + 1) c) (top : ∀ a ∈ siblings, P d a) :
    ∀ x ∈ l, P x.1 x.2 := by
  induction h with
  | nil => exact fun x hx => absurd hx List.not_mem_nil
  | @cons d a siblings below after _ _ ihDown ihNext =>
      have first : P d a := top a List.mem_cons_self
      intro x hx
      rcases List.mem_cons.mp hx with rfl | hx
      · exact first
      · rcases List.mem_append.mp hx with hx | hx
        · exact ihDown (step d a first) x hx
        · exact ihNext (fun b hb => top b (List.mem_cons_of_mem _ hb)) x hx

/-- Nothing stands above the roots. -/
theorem le_depth_of_listed (h : Listed children d siblings l) : ∀ x ∈ l, d ≤ x.1 :=
  of_listed (P := fun k _ => d ≤ k) h (fun _ _ deep _ _ => Nat.le_succ_of_le deep)
    fun _ _ => Nat.le_refl d

/-- The roots lead to all that is listed. -/
theorem reaches_of_listed (h : Listed children d siblings l) :
    ∀ x ∈ l, ∃ a ∈ siblings, Reaches children a x.2 :=
  of_listed (P := fun _ n => ∃ a ∈ siblings, Reaches children a n) h
    (fun _ _ ⟨a, ha, led⟩ _ hc => ⟨a, ha, led.tail hc⟩) fun a ha => ⟨a, ha, .refl⟩

theorem reaches_of_name (h : Listed children d siblings l) {n : α} (hn : n ∈ l.map Prod.snd) :
    ∃ a ∈ siblings, Reaches children a n := by
  obtain ⟨x, hx, rfl⟩ := List.mem_map.mp hn
  exact reaches_of_listed h x hx

/-- What stands at the depth of the roots is one of them. -/
theorem mem_siblings_of_listed (h : Listed children d siblings l) {a : α} (ha : (d, a) ∈ l) :
    a ∈ siblings := by
  induction h with
  | nil => exact absurd ha List.not_mem_nil
  | @cons d b siblings below after down _ _ ihNext =>
      rcases List.mem_cons.mp ha with same | ha
      · cases same
        exact List.mem_cons_self
      · rcases List.mem_append.mp ha with ha | ha
        · exact absurd (le_depth_of_listed down _ ha) (Nat.not_succ_le_self d)
        · exact List.mem_cons_of_mem _ (ihNext ha)

/-- **The parent of a node is the nearest one before it that is one level above it.** -/
theorem parent_before (h : Listed children d siblings l) {before after : List (Nat × α)} {c : α}
    (deep : d ≤ k) (e : l = before ++ (k + 1, c) :: after) :
    ∃ p, before.reverse.find? (·.1 == k) = some (k, p) ∧ c ∈ children p := by
  induction h generalizing before after with
  | nil => exact absurd e (by simp)
  | @cons d a siblings below rest down _ ihDown ihNext =>
      rcases List.cons_eq_append_iff.mp e with ⟨_, same⟩ | ⟨init, rfl, cut⟩
      · -- a root has no node above it
        cases same
        exact absurd deep (Nat.not_succ_le_self k)
      rcases List.append_eq_append_iff.mp cut with ⟨between, rfl, later⟩ | ⟨between, rfl, inside⟩
      · obtain ⟨p, found, child⟩ := ihNext deep later
        refine ⟨p, ?_, child⟩
        rw [List.reverse_cons, List.reverse_append, List.append_assoc, List.find?_append, found]
        rfl
      · rcases List.cons_eq_append_iff.mp inside with ⟨rfl, same⟩ | ⟨between, rfl, _⟩
        · -- the node is the first one of the next root's list
          have first : rest = [] ++ (k + 1, c) :: after := same
          obtain ⟨p, found, _⟩ := ihNext deep first
          exact absurd found (by simp)
        · by_cases next_level : k = d
          · subst next_level
            have child : c ∈ children a := mem_siblings_of_listed down (by simp)
            refine ⟨a, ?_, child⟩
            have deeper : init.reverse.find? (·.1 == k) = none := by
              refine List.find?_eq_none.mpr fun x hx => ?_
              have low : k + 1 ≤ x.1 := le_depth_of_listed down x (by simp [List.mem_reverse.mp hx])
              simpa using (by omega : x.1 ≠ k)
            rw [List.reverse_cons, List.find?_append, deeper]
            simp
          · have lower : d + 1 ≤ k := by omega
            obtain ⟨p, found, child⟩ := ihDown lower rfl
            refine ⟨p, ?_, child⟩
            rw [List.reverse_cons, List.find?_append, found]
            rfl

/-- **Siblings keep their order.** -/
theorem siblings_sublist (h : Listed children d siblings l) :
    siblings.Sublist (l.map Prod.snd) := by
  induction h with
  | nil => exact .refl _
  | @cons d a siblings below after _ _ _ ihNext =>
      rw [List.map_cons, List.map_append]
      exact (ihNext.trans (List.sublist_append_right _ _)).cons_cons a

/-- **So do the children of every node that is listed.** -/
theorem children_sublist (h : Listed children d siblings l) {a : α} (ha : a ∈ l.map Prod.snd) :
    (children a).Sublist (l.map Prod.snd) := by
  induction h with
  | nil => exact absurd ha List.not_mem_nil
  | @cons d b siblings below after down _ ihDown ihNext =>
      rw [List.map_cons, List.map_append] at ha ⊢
      refine .cons _ ?_
      rcases List.mem_cons.mp ha with rfl | ha
      · exact (siblings_sublist down).trans (List.sublist_append_left _ _)
      · rcases List.mem_append.mp ha with ha | ha
        · exact (ihDown ha).trans (List.sublist_append_left _ _)
        · exact (ihNext ha).trans (List.sublist_append_right _ _)

end Listed

/-! ## 2. Forests without cycles -/

/-- Where nothing among finitely many things leads back to itself, ways among them end. -/
theorem wellFounded_of_acyclic {r : α → α → Prop} {l : List α}
    (acyclic : ∀ a ∈ l, ¬ Relation.TransGen r a a) :
    WellFounded fun a b : {a // a ∈ l} => r a.1 b.1 := by
  have : Finite {a // a ∈ l} := l.finite_toSet
  let along : {a // a ∈ l} → {a // a ∈ l} → Prop := Relation.TransGen fun a b => r a.1 b.1
  have irrefl : Std.Irrefl along :=
    ⟨fun a cycle => acyclic a a.2 (cycle.lift Subtype.val fun _ _ step => step)⟩
  have ends : WellFounded along := Finite.wellFounded_of_trans_of_irrefl along
  exact Subrelation.wf (fun step => .single step) ends

section Acyclic

variable {children : α → List α} {d : Nat} {siblings : List α} {l : List (Nat × α)}

/-- A forest has a list if each of its trees has one. -/
theorem exists_listed_of_each
    (each : ∀ a ∈ siblings, ∃ below, Listed children (d + 1) (children a) below) :
    ∃ l, Listed children d siblings l := by
  induction siblings with
  | nil => exact ⟨[], .nil d⟩
  | cons a rest ih =>
      obtain ⟨below, down⟩ := each a List.mem_cons_self
      obtain ⟨after, next⟩ := ih fun b hb => each b (List.mem_cons_of_mem _ hb)
      exact ⟨_, .cons down next⟩

/-- **A forest without cycles has a list**, when only finitely many things are children: by
    induction from the leaves. -/
theorem exists_listed {nodes : List α} (inside : ∀ a, ∀ c ∈ children a, c ∈ nodes)
    (acyclic : ∀ a, ¬ Leads children a a) (d : Nat) (siblings : List α) :
    ∃ l, Listed children d siblings l := by
  have cycleless : ∀ a ∈ nodes, ¬ Relation.TransGen (fun c p => c ∈ children p) a a :=
    fun a _ cycle => acyclic a (Relation.transGen_swap.mp cycle)
  have trees : ∀ (x : {a // a ∈ nodes}) (d : Nat), ∃ below, Listed children d (children x) below := by
    intro x
    induction x using (wellFounded_of_acyclic cycleless).induction with
    | _ x ih =>
        intro d
        exact exists_listed_of_each fun c hc => ih ⟨c, inside x c hc⟩ hc (d + 1)
  have below : ∀ a (d : Nat), ∃ below, Listed children d (children a) below := fun a d =>
    exists_listed_of_each fun c hc => trees ⟨c, inside a c hc⟩ (d + 1)
  exact exists_listed_of_each fun a _ => below a (d + 1)

variable (unique : ∀ {c p q}, c ∈ children p → c ∈ children q → p = q)
  (acyclic : ∀ a, ¬ Leads children a a)

include unique in
/-- Of two things that lead to a third one, one leads to the other: there is one way up. -/
theorem comparable_of_unique {a b c : α} (ha : Reaches children a c) (hb : Reaches children b c) :
    Reaches children a b ∨ Reaches children b a := by
  have up : Relator.RightUnique (Function.swap fun p c => c ∈ children p) :=
    fun _ _ _ first second => unique first second
  have ways := (Relation.reflTransGen_swap.mpr ha).total_of_right_unique up
    (Relation.reflTransGen_swap.mpr hb)
  exact ways.symm.imp Relation.reflTransGen_swap.mp Relation.reflTransGen_swap.mp

include unique acyclic in
/-- Siblings do not lead to one another. -/
theorem not_leads_sibling {a b c : α} (hb : b ∈ children a) (hc : c ∈ children a) :
    ¬ Leads children b c := by
  intro led
  obtain ⟨p, way, last⟩ := Relation.TransGen.tail'_iff.mp led
  have same : p = a := unique last hc
  exact acyclic a (.head' hb (same ▸ way))

/-- Of things apart, none is reached from the other. -/
theorem not_reaches_of_apart {a b : α} (other : a ≠ b) (apart : ¬ Leads children a b) :
    ¬ Reaches children a b := fun way =>
  (Relation.reflTransGen_iff_eq_or_transGen.mp way).elim (fun same => other same.symm) apart

include unique acyclic in
/-- **Nothing stands twice in the list of a forest without cycles**, in which nothing has two
    parents: trees beside one another have nothing in common. -/
theorem nodup_of_listed (each : ∀ a, (children a).Nodup) (h : Listed children d siblings l)
    (nodup : siblings.Nodup) (apart : ∀ a ∈ siblings, ∀ b ∈ siblings, ¬ Leads children a b) :
    (l.map Prod.snd).Nodup := by
  induction h with
  | nil => exact List.nodup_nil
  | @cons d a siblings below after down next ihDown ihNext =>
      obtain ⟨fresh, others⟩ := List.nodup_cons.mp nodup
      have mem_below : ∀ n ∈ below.map Prod.snd, Leads children a n := by
        intro n hn
        obtain ⟨b, hb, way⟩ := reaches_of_name down hn
        exact .head' hb way
      -- no root of the rest stands below the first one, nor the other way round
      have unrelated : ∀ b ∈ siblings, ¬ Reaches children a b ∧ ¬ Reaches children b a := by
        intro b hb
        have there : b ∈ a :: siblings := List.mem_cons_of_mem _ hb
        have other : a ≠ b := fun same => fresh (same ▸ hb)
        exact ⟨not_reaches_of_apart other (apart a List.mem_cons_self b there),
          not_reaches_of_apart other.symm (apart b there a List.mem_cons_self)⟩
      have restNodup : (after.map Prod.snd).Nodup := ihNext others fun b hb c hc =>
        apart b (List.mem_cons_of_mem _ hb) c (List.mem_cons_of_mem _ hc)
      have belowNodup : (below.map Prod.snd).Nodup := ihDown (each a) fun b hb c hc =>
        not_leads_sibling unique acyclic hb hc
      rw [List.map_cons, List.map_append, List.nodup_cons, List.nodup_append]
      refine ⟨fun hm => ?_, belowNodup, restNodup, ?_⟩
      · rcases List.mem_append.mp hm with hm | hm
        · exact acyclic a (mem_below a hm)
        · obtain ⟨b, hb, way⟩ := reaches_of_name next hm
          exact (unrelated b hb).2 way
      · rintro n hn m hm rfl
        obtain ⟨b, hb, way⟩ := reaches_of_name next hm
        have both := comparable_of_unique unique (mem_below n hn).to_reflTransGen way
        exact both.elim (unrelated b hb).1 (unrelated b hb).2

end Acyclic

/-! ## 3. Walks through forests -/

/-- The children of a node, one level below it. -/
def deeper (children : α → List α) (x : Nat × α) : List (Nat × α) :=
  (children x.2).map (x.1 + 1, ·)

/-- **A walk through a forest lists it.** What the walk has still to do is a forest at the depth
    where it is, in front of the rest; this forest comes out as its list. -/
theorem preorder_of_listed {children : String → List String} {nodes : List String} {d : Nat}
    {siblings : List String} {l : List (Nat × String)} (h : Listed children d siblings l)
    (seen : List String) (rest : List (Nat × String)) (known : ∀ x ∈ l, x.2 ∈ nodes)
    (fresh : ∀ x ∈ l, x.2 ∉ seen) (nodup : (l.map Prod.snd).Nodup) :
    Walk.preorder Prod.snd (deeper children) nodes seen (siblings.map (d, ·) ++ rest) =
      l ++ Walk.preorder Prod.snd (deeper children) nodes
        ((l.map Prod.snd).reverse ++ seen) rest := by
  induction h generalizing seen rest with
  | nil => rfl
  | @cons d a siblings below after _ _ ihDown ihNext =>
      rw [List.map_cons, List.map_append, List.nodup_cons, List.nodup_append] at nodup
      obtain ⟨new, belowNodup, afterNodup, disjoint⟩ := nodup
      have node : a ∈ nodes := known (d, a) List.mem_cons_self
      have unseen : a ∉ seen := fresh (d, a) List.mem_cons_self
      have inBelow : ∀ x ∈ below, x.2 ∈ nodes ∧ x.2 ∉ a :: seen := by
        intro x hx
        have there : x ∈ (d, a) :: (below ++ after) :=
          List.mem_cons_of_mem _ (List.mem_append_left _ hx)
        have named : x.2 ∈ below.map Prod.snd := List.mem_map_of_mem hx
        refine ⟨known x there, fun hm => ?_⟩
        rcases List.mem_cons.mp hm with same | hm
        · exact new (List.mem_append_left _ (same ▸ named))
        · exact fresh x there hm
      have inAfter : ∀ x ∈ after, x.2 ∈ nodes ∧ x.2 ∉ (below.map Prod.snd).reverse ++ a :: seen := by
        intro x hx
        have there : x ∈ (d, a) :: (below ++ after) :=
          List.mem_cons_of_mem _ (List.mem_append_right _ hx)
        have named : x.2 ∈ after.map Prod.snd := List.mem_map_of_mem hx
        refine ⟨known x there, fun hm => ?_⟩
        rcases List.mem_append.mp hm with hm | hm
        · exact disjoint x.2 (List.mem_reverse.mp hm) x.2 named rfl
        · rcases List.mem_cons.mp hm with same | hm
          · exact new (List.mem_append_right _ (same ▸ named))
          · exact fresh x there hm
      have down := ihDown (a :: seen) (siblings.map (d, ·) ++ rest) (fun x hx => (inBelow x hx).1)
        (fun x hx => (inBelow x hx).2) belowNodup
      have onward := ihNext ((below.map Prod.snd).reverse ++ a :: seen) rest
        (fun x hx => (inAfter x hx).1) (fun x hx => (inAfter x hx).2) afterNodup
      have onto : deeper children (d, a) = (children a).map (d + 1, ·) := rfl
      rw [List.map_cons, List.cons_append, Walk.preorder, if_neg unseen, if_pos node, onto, down,
        onward]
      simp

end SchemaPages.DepthFirst
