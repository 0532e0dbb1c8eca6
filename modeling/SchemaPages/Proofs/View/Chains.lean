import Mathlib.Data.List.Chain
import Mathlib.Data.List.Nodup
import SchemaPages.View.Walk
/-!
# Ways up

Going from parent to parent ends where there is no parent, where a name stands for nothing, or where
a name has been met before.

* `Climbs`, `climbs_chain`: a chain is a way up that ends;
* `fresh_of_climbs`, `nodup_of_climbs`, `find_of_climbs`: the names on the way, and what they stand
  for;
* `isChain_of_climbs`, `top_of_climbs`: each name is the parent of the one before; why the last one
  is the last.
-/

namespace SchemaPages.Walk

variable {α : Type}

/-- **A way up from a name**, if there is one, past names that have not been met. -/
inductive Climbs (find : String → Option α) (parent : α → Option String) :
    List String → Option String → List (String × Option α) → Prop where
  | top (seen : List String) : Climbs find parent seen none []
  | again {seen : List String} {n : String} (met : n ∈ seen) : Climbs find parent seen (some n) []
  | missing {seen : List String} {n : String} (fresh : n ∉ seen) (unknown : find n = none) :
      Climbs find parent seen (some n) [(n, none)]
  | up {seen : List String} {n : String} {a : α} {above : List (String × Option α)}
      (fresh : n ∉ seen) (found : find n = some a)
      (rest : Climbs find parent (n :: seen) (parent a) above) :
      Climbs find parent seen (some n) ((n, some a) :: above)

variable {find : String → Option α} {parent : α → Option String}

/-- **A chain is a way up that ends**, when whatever stands for something is a node. -/
theorem climbs_chain {nodes : List String} (known : ∀ n a, find n = some a → n ∈ nodes)
    (seen : List String) (start : Option String) :
    Climbs find parent seen start (chain find parent nodes seen start) := by
  induction seen, start using chain.induct find parent nodes with
  | case1 seen =>
      rw [chain]
      exact .top seen
  | case2 seen n met =>
      rw [chain, if_pos met]
      exact .again met
  | case3 seen n fresh missing =>
      rw [chain, if_neg fresh, missing]
      exact .missing fresh missing
  | case4 seen n fresh a found node ih =>
      rw [chain, if_neg fresh, found]
      simp only [if_pos node]
      exact .up fresh found ih
  | case5 seen n fresh a found leaf => exact absurd (known n a found) leaf

section Climbs

variable {seen : List String} {start : Option String} {above : List (String × Option α)}
  (h : Climbs find parent seen start above)
include h

theorem fresh_of_climbs : ∀ x ∈ above, x.1 ∉ seen := by
  induction h with
  | top => exact fun x hx => absurd hx List.not_mem_nil
  | again => exact fun x hx => absurd hx List.not_mem_nil
  | missing fresh => exact fun x hx => List.mem_singleton.mp hx ▸ fresh
  | up fresh _ _ ih =>
      intro x hx
      rcases List.mem_cons.mp hx with rfl | hx
      · exact fresh
      · exact fun met => ih x hx (List.mem_cons_of_mem _ met)

/-- **No name is met twice.** -/
theorem nodup_of_climbs : (above.map Prod.fst).Nodup := by
  induction h with
  | top => exact List.nodup_nil
  | again => exact List.nodup_nil
  | missing => exact List.nodup_singleton _
  | up _ _ rest ih =>
      refine List.nodup_cons.mpr ⟨fun there => ?_, ih⟩
      obtain ⟨x, hx, same⟩ := List.mem_map.mp there
      exact fresh_of_climbs rest x hx (same ▸ List.mem_cons_self)

/-- A way up has what its names stand for. -/
theorem find_of_climbs : ∀ x ∈ above, find x.1 = x.2 := by
  induction h with
  | top => exact fun x hx => absurd hx List.not_mem_nil
  | again => exact fun x hx => absurd hx List.not_mem_nil
  | missing _ unknown =>
      intro x hx
      cases List.mem_singleton.mp hx
      exact unknown
  | up _ found _ ih =>
      intro x hx
      rcases List.mem_cons.mp hx with rfl | hx
      · exact found
      · exact ih x hx

/-- **Each name is the parent of the one before it**, also where the way begins. -/
theorem isChain_of_climbs (first : String × Option α) (begins : first.2.bind parent = start) :
    (first :: above).IsChain fun below above => below.2.bind parent = some above.1 := by
  induction h generalizing first with
  | top => exact .singleton _
  | again => exact .singleton _
  | missing => exact .cons_cons begins (.singleton _)
  | up _ _ _ ih => exact .cons_cons begins (ih _ rfl)

/-- **Why the way ends**: the last name stands for nothing, has no parent, or has one that has been
    met. -/
theorem top_of_climbs (first : String × Option α) (begins : first.2.bind parent = start) :
    ∀ x, (first :: above).getLast? = some x →
      x.2.bind parent = none ∨ ∃ p, x.2.bind parent = some p ∧ (p ∈ seen ∨ p ∈ above.map Prod.fst) := by
  induction h generalizing first with
  | top =>
      rintro x ⟨⟩
      exact Or.inl begins
  | @again seen n met =>
      rintro x ⟨⟩
      exact Or.inr ⟨n, begins, Or.inl met⟩
  | missing =>
      rintro x ⟨⟩
      exact Or.inl rfl
  | @up seen n a above _ _ _ ih =>
      intro x hx
      rw [List.getLast?_cons_cons] at hx
      refine (ih _ rfl x hx).imp_right fun ⟨p, up, met⟩ => ⟨p, up, ?_⟩
      rcases met with met | met
      · rcases List.mem_cons.mp met with rfl | met
        · exact Or.inr List.mem_cons_self
        · exact Or.inl met
      · exact Or.inr (List.mem_cons_of_mem _ met)

end Climbs

end SchemaPages.Walk
