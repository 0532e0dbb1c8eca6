import Mathlib.Data.List.Chain
import SchemaPages.Proofs.DepthFirst
/-!
# First routes

A depth-first tour comes to a node on one route of several. It is the route that comes first, when
routes are compared where they part, by the order of the edges there.

* `Route`, `Before`: routes without repetitions, and their order;
* `before_asymm`, `before_total`: of two routes to one node, exactly one comes before the other;
* `FirstRoute`, `firstRoute_unique`: the first of all routes to a node;
* `Stands`, `stands_start`, `stands_of_visits`, `stands_enter`: where a tour stands, and how it goes
  on;
* `firstRoute_enter`: a tour goes into a node at the end of the first route to it.
-/

namespace SchemaPages.DepthFirst

variable {α : Type}

/-! ## 1. Routes and their order -/

/-- **A route from a root**: each node has an edge to the next one, and none is met twice. -/
structure Route (next : α → List α) (root : α) (route : List α) : Prop where
  first : route.head? = some root
  nodup : route.Nodup
  edges : route.IsChain fun a b => b ∈ next a

section Routes

variable {next : α → List α} {root here a : α} {route : List α}

theorem route_root : Route next root [root] where
  first := rfl
  nodup := List.nodup_singleton root
  edges := List.isChain_singleton root

/-- A route goes on over an edge to a node that it has not met. -/
theorem route_snoc (h : Route next root route) (last : route.getLast? = some here) (ha : a ∉ route)
    (edge : a ∈ next here) : Route next root (route ++ [a]) where
  first := by rw [List.head?_append, h.first]; rfl
  nodup := List.nodup_append.mpr ⟨h.nodup, List.nodup_singleton a,
    fun _ hb _ hc e => ha (List.mem_singleton.mp hc ▸ e ▸ hb)⟩
  edges := by
    refine List.isChain_append.mpr ⟨h.edges, List.isChain_singleton a, ?_⟩
    intro b hb c hc
    rw [last] at hb
    cases hb
    cases hc
    exact edge

/-- All nodes of a chain of edges lead to the last one. -/
theorem reaches_last {l : List α} (edges : l.IsChain fun a b => b ∈ next a)
    (last : l.getLast? = some here) (ha : a ∈ l) : Reaches next a here := by
  induction l generalizing a with
  | nil => exact absurd ha List.not_mem_nil
  | cons b rest ih =>
      cases rest with
      | nil =>
          cases last
          exact List.mem_singleton.mp ha ▸ .refl
      | cons c rest =>
          obtain ⟨edge, below⟩ := List.isChain_cons_cons.mp edges
          rw [List.getLast?_cons_cons] at last
          rcases List.mem_cons.mp ha with rfl | ha
          · exact .head edge (ih below last List.mem_cons_self)
          · exact ih below last ha

/-- The root leads to the end of a route. -/
theorem reaches_of_route (h : Route next root route) (last : route.getLast? = some here) :
    Reaches next root here :=
  reaches_last h.edges last (List.mem_of_head? h.first)

/-- A route is one in every graph that has the edges from what the root leads to. -/
theorem route_congr {next' : α → List α} (h : Route next root route)
    (same : ∀ a, Reaches next root a → ∀ b ∈ next a, b ∈ next' a) : Route next' root route where
  first := h.first
  nodup := h.nodup
  edges := by
    obtain ⟨rest, rfl⟩ := List.head?_eq_some_iff.mp h.first
    have edges := h.edges
    clear h
    -- the chain is followed from any node that the root leads to
    generalize reached : root = a at edges ⊢
    replace reached : Reaches next root a := reached ▸ .refl
    induction rest generalizing a with
    | nil => exact List.isChain_singleton a
    | cons b rest ih =>
        obtain ⟨edge, below⟩ := List.isChain_cons_cons.mp edges
        exact List.isChain_cons_cons.mpr ⟨same a reached b edge, ih b below (reached.tail edge)⟩

/-- The only route from the root to itself. -/
theorem eq_of_route_root (h : Route next root route) (last : route.getLast? = some root) :
    route = [root] := by
  cases route with
  | nil => cases last
  | cons b rest =>
      obtain rfl : b = root := Option.some.inj h.first
      cases rest with
      | nil => rfl
      | cons c rest =>
          rw [List.getLast?_cons_cons] at last
          exact absurd (List.mem_of_getLast? last) (List.nodup_cons.mp h.nodup).1

end Routes

variable [DecidableEq α]

/-- **One route comes before another**: where the two part, it goes over an earlier edge. -/
inductive Before (next : α → List α) : List α → List α → Prop where
  | part {x a b : α} {p q : List α} (earlier : (next x).idxOf a < (next x).idxOf b) :
      Before next (x :: a :: p) (x :: b :: q)
  | along {x : α} {p q : List α} (rest : Before next p q) : Before next (x :: p) (x :: q)

/-- **The first route to a node**, of all routes from the root. -/
structure FirstRoute (next : α → List α) (root : α) (route : List α) : Prop extends
    Route next root route where
  least : ∀ q, Route next root q → q.getLast? = route.getLast? → q ≠ route → Before next route q

section Order

variable {next : α → List α} {root : α} {p q : List α}

theorem before_asymm (h : Before next p q) : ¬ Before next q p := by
  induction h with
  | part earlier =>
      intro back
      cases back with
      | part later => exact Nat.lt_asymm earlier later
      | along rest =>
          cases rest with
          | part => exact Nat.lt_irrefl _ earlier
          | along => exact Nat.lt_irrefl _ earlier
  | along rest ih =>
      intro back
      cases back with
      | part later =>
          cases rest with
          | part => exact Nat.lt_irrefl _ later
          | along => exact Nat.lt_irrefl _ later
      | along rest => exact ih rest

/-- **Two routes to one node are comparable.** -/
theorem before_total (hp : Route next root p) (hq : Route next root q)
    (last : p.getLast? = q.getLast?) (other : p ≠ q) : Before next p q ∨ Before next q p := by
  induction p generalizing q root with
  | nil => exact absurd hp.first (by simp)
  | cons x p ih =>
      obtain rfl : x = root := Option.some.inj hp.first
      cases q with
      | nil => exact absurd hq.first (by simp)
      | cons y q =>
          obtain rfl : y = x := Option.some.inj hq.first
          cases p with
          | nil => exact absurd (eq_of_route_root hq last.symm).symm other
          | cons a p =>
              cases q with
              | nil => exact absurd (eq_of_route_root hp last) other
              | cons b q =>
                  obtain ⟨edge, edges⟩ := List.isChain_cons_cons.mp hp.edges
                  obtain ⟨edge', edges'⟩ := List.isChain_cons_cons.mp hq.edges
                  by_cases same : a = b
                  · subst same
                    rw [List.getLast?_cons_cons, List.getLast?_cons_cons] at last
                    have rest := ih ⟨rfl, (List.nodup_cons.mp hp.nodup).2, edges⟩
                      ⟨rfl, (List.nodup_cons.mp hq.nodup).2, edges'⟩ last
                      fun e => other (congrArg (y :: ·) e)
                    exact rest.imp .along .along
                  · have apart : (next y).idxOf a ≠ (next y).idxOf b := fun e =>
                      same ((List.idxOf_inj edge).mp e)
                    exact (Nat.lt_or_gt_of_ne apart).imp .part .part

/-- **There is one first route to a node at most.** -/
theorem firstRoute_unique (hp : FirstRoute next root p) (hq : FirstRoute next root q)
    (last : p.getLast? = q.getLast?) : p = q := by
  by_contra other
  exact before_asymm (hp.least q hq.toRoute last.symm fun e => other e.symm)
    (hq.least p hp.toRoute last other)

theorem firstRoute_root : FirstRoute next root [root] where
  toRoute := route_root
  least _ hq last other := absurd (eq_of_route_root hq last) other

/-- What comes before a longer route comes before the route, or parts from it at its end. -/
theorem before_snoc {here s : α} (last : p.getLast? = some here) (h : Before next q (p ++ [s])) :
    Before next q p ∨ ∃ b rest, q = p ++ b :: rest ∧ (next here).idxOf b < (next here).idxOf s := by
  induction p generalizing q with
  | nil => cases last
  | cons x p ih =>
      cases p with
      | nil =>
          cases last
          cases h with
          | part earlier => exact Or.inr ⟨_, _, rfl, earlier⟩
          | along rest => cases rest with | along none_left => cases none_left
      | cons y p =>
          rw [List.getLast?_cons_cons] at last
          cases h with
          | part earlier => exact Or.inl (.part earlier)
          | along rest =>
              rcases ih last rest with before | ⟨b, tail, rfl, earlier⟩
              · exact Or.inl (.along before)
              · exact Or.inr ⟨b, tail, rfl, earlier⟩

end Order

/-! ## 2. Where a tour stands -/

/-- **Where a tour stands**: it has followed the edges to `gone` from the node at the end of a route,
    and has met whatever any route leads to that comes before this one. -/
structure Stands (next : α → List α) (root : α) (t : Tour α) (route : List α) (here : α)
    (gone : List α) : Prop extends Route next root route where
  sound : Sound next root t
  last : route.getLast? = some here
  opens : ∀ a, t.Open a ↔ a ∈ route
  passed : ∀ a ∈ gone, a ∈ t.met
  before : ∀ q, Route next root q → Before next q route → ∀ a, q.getLast? = some a → a ∈ t.met

section Standing

variable {next : α → List α} {root here s : α} {t t' : Tour α} {route gone todo rest : List α}

theorem stands_start (root : α) : Stands next root ⟨[root], []⟩ [root] root [] where
  toRoute := route_root
  sound := sound_start root
  last := rfl
  opens a := by simp [Tour.Open]
  passed _ ha := absurd ha List.not_mem_nil
  before _ _ early := by cases early with | along none_left => cases none_left

theorem open_leads (h : Stands next root t route here gone) {a : α} (ha : t.Open a) :
    Reaches next a here :=
  reaches_last h.edges h.last ((h.opens a).mp ha)

/-- **A tour that goes on stands at the same node**, further along its edges. -/
theorem stands_of_visits (h : Stands next root t route here gone)
    (edges : next here = gone ++ (todo ++ rest)) (tour : Visits next todo t t') :
    Stands next root t' route here (gone ++ todo) := by
  have from_here : ∀ a ∈ todo, a ∈ next here := fun a ha => by simp [edges, ha]
  obtain ⟨sound, same⟩ := sound_of_visits tour h.sound (reaches_of_route h.toRoute h.last) from_here
    fun a ha => open_leads h ha
  refine ⟨h.toRoute, sound, h.last, fun a => (same a).trans (h.opens a), fun a ha => ?_,
    fun q hq early a ha => met_of_visits tour (h.before q hq early a ha)⟩
  rcases List.mem_append.mp ha with ha | ha
  · exact met_of_visits tour (h.passed a ha)
  · exact todo_met_of_visits tour ha

/-- From a finished node, past nodes that are not open, all is finished. -/
theorem done_of_chain (h : Sound next root t) {b : α} {l : List α}
    (edges : (b :: l).IsChain fun a b => b ∈ next a) (hb : b ∈ t.done) (hl : ∀ a ∈ l, ¬ t.Open a) :
    ∀ a ∈ b :: l, a ∈ t.done := by
  induction l generalizing b with
  | nil => exact fun a ha => List.mem_singleton.mp ha ▸ hb
  | cons c l ih =>
      obtain ⟨edge, edges⟩ := List.isChain_cons_cons.mp edges
      have met : c ∈ t.met := h.closed b hb c edge
      have hc : c ∈ t.done := by
        by_contra unfinished
        exact hl c List.mem_cons_self ⟨met, unfinished⟩
      intro a ha
      rcases List.mem_cons.mp ha with rfl | ha
      · exact hb
      · exact ih edges hc (fun x hx => hl x (List.mem_cons_of_mem _ hx)) a ha

/-- **What comes before the next step has been met**: a route that parts from the one to the next
    node, be it at the last node or before. -/
theorem met_of_before_enter (h : Stands next root t route here gone)
    (edges : next here = gone ++ s :: rest) (hs : s ∉ t.met) {q : List α} (hq : Route next root q)
    (early : Before next q (route ++ [s])) {a : α} (ha : q.getLast? = some a) : a ∈ t.met := by
  rcases before_snoc h.last early with early | ⟨b, tail, rfl, earlier⟩
  · exact h.before q hq early a ha
  -- the route goes on over an edge that has been followed, to a node that is finished
  have fresh : s ∉ gone := fun there => hs (h.passed s there)
  rw [edges, List.idxOf_append_of_notMem fresh, List.idxOf_cons_self] at earlier
  have followed : b ∈ gone := by
    by_contra later
    rw [List.idxOf_append_of_notMem later] at earlier
    omega
  have apart : ∀ x ∈ b :: tail, ¬ t.Open x := fun x hx there =>
    (List.nodup_append.mp hq.nodup).2.2 x ((h.opens x).mp there) x hx rfl
  have finished : b ∈ t.done := by
    by_contra unfinished
    exact apart b List.mem_cons_self ⟨h.passed b followed, unfinished⟩
  have all := done_of_chain h.sound (List.isChain_append.mp hq.edges).2.1 finished
    fun x hx => apart x (List.mem_cons_of_mem _ hx)
  rw [List.getLast?_append_of_ne_nil _ (List.cons_ne_nil b tail)] at ha
  exact h.sound.done_met a (all a (List.mem_of_getLast? ha))

section Enter

variable (h : Stands next root t route here gone) (edges : next here = gone ++ s :: rest)
  (hs : s ∉ t.met)
include h edges hs

theorem route_enter : Route next root (route ++ [s]) :=
  route_snoc h.toRoute h.last (fun there => hs ((h.opens s).mpr there).1) (by simp [edges])

/-- **A tour goes into a node**, and stands there. -/
theorem stands_enter : Stands next root (t.enter s) (route ++ [s]) s [] where
  toRoute := route_enter h edges hs
  sound := by
    have step : s ∈ next here := by simp [edges]
    exact sound_enter h.sound hs ((reaches_of_route h.toRoute h.last).tail step)
      fun a ha => (open_leads h ha).tail step
  last := List.getLast?_concat
  opens a := by
    rw [open_enter h.sound.done_met hs, h.opens, List.mem_append, List.mem_singleton, or_comm]
  passed _ ha := absurd ha List.not_mem_nil
  before _ hq early _ ha := List.mem_cons_of_mem _ (met_of_before_enter h edges hs hq early ha)

/-- **A tour goes into a node at the end of the first route to it**: whatever a route leads to that
    comes before has been met. -/
theorem firstRoute_enter : FirstRoute next root (route ++ [s]) where
  toRoute := route_enter h edges hs
  least q hq last other := by
    have total := before_total (route_enter h edges hs) hq last.symm fun e => other e.symm
    refine total.resolve_right fun early => ?_
    exact hs (met_of_before_enter h edges hs hq early (last.trans List.getLast?_concat))

end Enter

end Standing

end SchemaPages.DepthFirst
