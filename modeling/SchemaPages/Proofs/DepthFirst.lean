import Mathlib.Data.List.Nodup
import Mathlib.Logic.Relation
/-!
# Depth-first tours

A tour of a graph enters every node that it meets for the first time, follows the edges of that
node, and then finishes it. The graph may have cycles, loops and repeated edges.

* `Tour`, `Visits`: what has been met and finished, and how a tour gets from there to there;
* `Ordered`: the order of finishing, in which the end of an edge comes first unless it leads back;
* `Nested`: of two nodes, the one met first leads to the other or is finished first;
* `Sound`: the invariant of tours that begin at a root (`sound_of_visits`);
* `ordered_of_visits_root`, `nested_of_visits_root`: what a whole tour from a root has finished;
* `visits_unique`: there is one such tour;
* `exists_of_visits_append`, `visits_of_met_eq`: tours through two lists; what they meet;
* `mem_before_of_leads`: without cycles, whatever a node leads to is finished before it;
* `not_leads_last`, `last_eq_first_iff`: which one of several nodes is finished last.
-/

namespace SchemaPages.DepthFirst

variable {α : Type}

/-- The nodes met so far, the last one first, and those that are finished, the first one first. -/
structure Tour (α : Type) where
  met : List α
  done : List α

/-- The tour goes into a node. -/
def Tour.enter (t : Tour α) (a : α) : Tour α := { t with met := a :: t.met }

/-- The tour comes out of a node. -/
def Tour.leave (t : Tour α) (a : α) : Tour α := { t with done := t.done ++ [a] }

/-- A node that the tour is still inside of. -/
def Tour.Open (t : Tour α) (a : α) : Prop := a ∈ t.met ∧ a ∉ t.done

/-- **The steps of a tour** through a list of nodes, given the ends of the edges from each node. -/
inductive Visits (next : α → List α) : List α → Tour α → Tour α → Prop where
  | stop (t : Tour α) : Visits next [] t t
  | pass {a : α} {rest : List α} {t t' : Tour α} (ha : a ∈ t.met)
      (after : Visits next rest t t') : Visits next (a :: rest) t t'
  | enter {a : α} {rest : List α} {t inside t' : Tour α} (ha : a ∉ t.met)
      (below : Visits next (next a) (t.enter a) inside)
      (after : Visits next rest (inside.leave a) t') : Visits next (a :: rest) t t'

/-- One node leads to another, over any number of edges. -/
abbrev Reaches (next : α → List α) : α → α → Prop :=
  Relation.ReflTransGen fun a b => b ∈ next a

/-- **The order of finishing**: the end of an edge stands before its start, unless it leads back to
    the start. -/
def Ordered (next : α → List α) (l : List α) : Prop :=
  ∀ before a after, l = before ++ a :: after → ∀ b ∈ next a, b ∈ before ∨ Reaches next b a

/-- The first node is finished, and before the second one if that one is finished too. -/
def FinishedFirst (l : List α) (a b : α) : Prop :=
  a ∈ l ∧ ∀ before after, l = before ++ b :: after → a ∈ before

/-- **Nodes nest**: of two nodes, the one met first leads to the other or is finished first. -/
def Nested (next : α → List α) (met done : List α) : Prop :=
  met.Pairwise fun later earlier => Reaches next earlier later ∨ FinishedFirst done earlier later

/-! ## 1. What a tour keeps -/

section Growth

variable {next : α → List α} {todo : List α} {t t' : Tour α}

/-- **There is one tour** through a list of nodes from where one begins. -/
theorem visits_unique {t₁ t₂ : Tour α} (h₁ : Visits next todo t t₁) (h₂ : Visits next todo t t₂) :
    t₁ = t₂ := by
  induction h₁ generalizing t₂ with
  | stop => cases h₂; rfl
  | pass ha _ ih =>
      cases h₂ with
      | pass _ after => exact ih after
      | enter hb _ _ => exact absurd ha hb
  | enter ha _ _ ihBelow ihAfter =>
      cases h₂ with
      | pass hb _ => exact absurd hb ha
      | enter _ below after =>
          cases ihBelow below
          exact ihAfter after

/-- What has been met stays met. -/
theorem met_of_visits (h : Visits next todo t t') {a : α} (ha : a ∈ t.met) : a ∈ t'.met := by
  induction h with
  | stop => exact ha
  | pass _ _ ih => exact ih ha
  | enter _ _ _ ihBelow ihAfter => exact ihAfter (ihBelow (List.mem_cons_of_mem _ ha))

/-- A tour meets all that it is asked to visit. -/
theorem todo_met_of_visits (h : Visits next todo t t') {a : α} (ha : a ∈ todo) : a ∈ t'.met := by
  induction h with
  | stop => exact absurd ha List.not_mem_nil
  | pass hb after ih =>
      rcases List.mem_cons.mp ha with rfl | h
      · exact met_of_visits after hb
      · exact ih h
  | enter _ below after _ ih =>
      rcases List.mem_cons.mp ha with rfl | h
      · exact met_of_visits after (met_of_visits below List.mem_cons_self)
      · exact ih h

/-- Visiting two lists of nodes is visiting the first one and then the second. -/
theorem exists_of_visits_append {first second : List α}
    (h : Visits next (first ++ second) t t') :
    ∃ inside, Visits next first t inside ∧ Visits next second inside t' := by
  induction first generalizing t with
  | nil => exact ⟨t, .stop t, h⟩
  | cons a rest ih =>
      cases h with
      | pass ha after =>
          obtain ⟨inside, front, back⟩ := ih after
          exact ⟨inside, .pass ha front, back⟩
      | enter ha below after =>
          obtain ⟨inside, front, back⟩ := ih after
          exact ⟨inside, .enter ha below front, back⟩

/-- **What a tour meets depends on what it has met**, and not on what is finished. -/
theorem visits_of_met_eq (h : Visits next todo t t') {u : Tour α} (same : u.met = t.met) :
    ∃ u', Visits next todo u u' ∧ u'.met = t'.met := by
  induction h generalizing u with
  | stop => exact ⟨u, .stop u, same⟩
  | pass ha _ ih =>
      obtain ⟨u', after, met⟩ := ih same
      exact ⟨u', .pass (same ▸ ha) after, met⟩
  | @enter a rest t inside t' ha _ _ ihBelow ihAfter =>
      have entered : (u.enter a).met = (t.enter a).met := congrArg (a :: ·) same
      obtain ⟨within, below, metBelow⟩ := ihBelow entered
      obtain ⟨u', after, met⟩ := ihAfter (u := within.leave a) metBelow
      exact ⟨u', .enter (same ▸ ha) below after, met⟩

end Growth

/-! ## 2. The order of finishing -/

theorem ordered_nil (next : α → List α) : Ordered next [] := by
  intro before a after h
  exact absurd h (by simp)

/-- A node may be finished when every edge from it ends at a finished node or leads back to it. -/
theorem ordered_snoc {next : α → List α} {l : List α} {a : α} (hl : Ordered next l)
    (ha : ∀ b ∈ next a, b ∈ l ∨ Reaches next b a) : Ordered next (l ++ [a]) := by
  intro before c after h b hb
  rcases List.eq_nil_or_concat after with rfl | ⟨init, last, rfl⟩
  · obtain ⟨rfl, rfl⟩ : l = before ∧ a = c := by simpa using List.append_inj' h rfl
    exact ha b hb
  · have e : l ++ [a] = (before ++ c :: init) ++ [last] := by simpa using h
    exact hl before c init (List.append_inj' e rfl).1 b hb

/-- A node that is finished next changes nothing about which of two nodes comes first. -/
theorem finishedFirst_snoc {l : List α} {a b c : α} (h : FinishedFirst l a b) :
    FinishedFirst (l ++ [c]) a b := by
  refine ⟨List.mem_append_left _ h.1, fun before after e => ?_⟩
  rcases List.eq_nil_or_concat after with rfl | ⟨init, last, rfl⟩
  · exact (List.append_inj' e rfl).1 ▸ h.1
  · have e' : l ++ [c] = (before ++ b :: init) ++ [last] := by simpa using e
    exact h.2 before init (List.append_inj' e' rfl).1

/-- A node that is met next comes from what is open and after what is finished. -/
theorem nested_cons {next : α → List α} {met done : List α} {a : α} (h : Nested next met done)
    (ha : a ∉ done) (hopen : ∀ b ∈ met, b ∉ done → Reaches next b a) :
    Nested next (a :: met) done := by
  refine List.pairwise_cons.mpr ⟨fun b hb => ?_, h⟩
  by_cases hd : b ∈ done
  · exact Or.inr ⟨hd, fun _ _ e => absurd (e ▸ List.mem_append_right _ List.mem_cons_self) ha⟩
  · exact Or.inl (hopen b hb hd)

/-! ## 3. The invariant -/

/-- **What holds throughout a tour from a root.** -/
structure Sound (next : α → List α) (root : α) (t : Tour α) : Prop where
  met_nodup : t.met.Nodup
  done_nodup : t.done.Nodup
  done_met : ∀ a ∈ t.done, a ∈ t.met
  closed : ∀ a ∈ t.done, ∀ b ∈ next a, b ∈ t.met
  ordered : Ordered next t.done
  nested : Nested next t.met t.done
  reached : ∀ a ∈ t.met, Reaches next root a

section Invariant

variable {next : α → List α} {root : α}

theorem sound_start (root : α) : Sound next root ⟨[root], []⟩ where
  met_nodup := List.nodup_singleton root
  done_nodup := List.nodup_nil
  done_met _ h := absurd h List.not_mem_nil
  closed _ h := absurd h List.not_mem_nil
  ordered := ordered_nil next
  nested := List.pairwise_singleton _ root
  reached a ha := by rw [List.mem_singleton.mp ha]

/-- A tour goes into a node that it has not met, to which whatever is open leads. -/
theorem sound_enter {t : Tour α} {a : α} (ht : Sound next root t) (ha : a ∉ t.met)
    (hr : Reaches next root a) (hopen : ∀ b, t.Open b → Reaches next b a) :
    Sound next root (t.enter a) where
  met_nodup := List.nodup_cons.mpr ⟨ha, ht.met_nodup⟩
  done_nodup := ht.done_nodup
  done_met b hb := List.mem_cons_of_mem _ (ht.done_met b hb)
  closed b hb c hc := List.mem_cons_of_mem _ (ht.closed b hb c hc)
  ordered := ht.ordered
  nested := nested_cons ht.nested (fun hd => ha (ht.done_met a hd)) fun b hb hd => hopen b ⟨hb, hd⟩
  reached b hb := by
    rcases List.mem_cons.mp hb with rfl | h
    · exact hr
    · exact ht.reached b h

/-- A tour comes out of a node once all edges from there have been followed; whatever is open then
    leads to the node. -/
theorem sound_leave {t : Tour α} {a : α} (ht : Sound next root t) (ha : t.Open a)
    (hnext : ∀ b ∈ next a, b ∈ t.met) (hopen : ∀ b, t.Open b → Reaches next b a) :
    Sound next root (t.leave a) where
  met_nodup := ht.met_nodup
  done_nodup := List.nodup_append.mpr ⟨ht.done_nodup, List.nodup_singleton a,
    fun b hb c hc e => ha.2 (List.mem_singleton.mp hc ▸ e ▸ hb)⟩
  done_met b hb := by
    rcases List.mem_append.mp hb with h | h
    · exact ht.done_met b h
    · exact List.mem_singleton.mp h ▸ ha.1
  closed b hb c hc := by
    rcases List.mem_append.mp hb with h | h
    · exact ht.closed b h c hc
    · exact hnext c (List.mem_singleton.mp h ▸ hc)
  ordered := ordered_snoc ht.ordered fun b hb => by
    by_cases hd : b ∈ t.done
    · exact Or.inl hd
    · exact Or.inr (hopen b ⟨hnext b hb, hd⟩)
  nested := ht.nested.imp fun h => h.imp id finishedFirst_snoc
  reached := ht.reached

theorem open_enter {t : Tour α} {a b : α} (ht : ∀ c ∈ t.done, c ∈ t.met) (ha : a ∉ t.met) :
    (t.enter a).Open b ↔ b = a ∨ t.Open b := by
  simp only [Tour.Open, Tour.enter, List.mem_cons]
  constructor
  · rintro ⟨rfl | h, hd⟩
    · exact Or.inl rfl
    · exact Or.inr ⟨h, hd⟩
  · rintro (rfl | ⟨h, hd⟩)
    · exact ⟨Or.inl rfl, fun h => ha (ht _ h)⟩
    · exact ⟨Or.inr h, hd⟩

theorem open_leave {t : Tour α} {a b : α} : (t.leave a).Open b ↔ t.Open b ∧ b ≠ a := by
  simp [Tour.Open, Tour.leave, and_assoc]

/-- **A tour keeps the invariant** and leaves open exactly what was open: `here` is the node whose
    edges are being followed, to which everything open leads. -/
theorem sound_of_visits {todo : List α} {t t' : Tour α} (h : Visits next todo t t') {here : α}
    (ht : Sound next root t) (hhere : Reaches next root here) (htodo : ∀ a ∈ todo, a ∈ next here)
    (hopen : ∀ a, t.Open a → Reaches next a here) :
    Sound next root t' ∧ ∀ a, t'.Open a ↔ t.Open a := by
  induction h generalizing here with
  | stop => exact ⟨ht, fun _ => Iff.rfl⟩
  | pass _ _ ih =>
      exact ih ht hhere (fun b hb => htodo b (List.mem_cons_of_mem _ hb)) hopen
  | @enter a rest t inside t' ha below _ ihBelow ihAfter =>
      have step : a ∈ next here := htodo a List.mem_cons_self
      have entered : ∀ b, (t.enter a).Open b ↔ b = a ∨ t.Open b := fun b =>
        open_enter ht.done_met ha
      have opens : ∀ b, (t.enter a).Open b → Reaches next b a := fun b hb => by
        rcases (entered b).mp hb with rfl | h
        · exact .refl
        · exact (hopen b h).tail step
      have inside_sound := sound_enter ht ha (hhere.tail step) fun b hb => (hopen b hb).tail step
      obtain ⟨hi, same⟩ := ihBelow inside_sound (hhere.tail step) (fun _ hb => hb) opens
      have left : Sound next root (inside.leave a) := by
        refine sound_leave hi ((same a).mpr ((entered a).mpr (Or.inl rfl))) ?_ ?_
        · exact fun b hb => todo_met_of_visits below hb
        · exact fun b hb => opens b ((same b).mp hb)
      have closedAgain : ∀ b, (inside.leave a).Open b ↔ t.Open b := fun b => by
        rw [open_leave, same b, entered b]
        constructor
        · rintro ⟨rfl | h, hne⟩
          · exact absurd rfl hne
          · exact h
        · exact fun h => ⟨Or.inr h, fun e => ha (e ▸ h.1)⟩
      obtain ⟨hs, after⟩ := ihAfter left hhere (fun b hb => htodo b (List.mem_cons_of_mem _ hb))
        (fun b hb => hopen b ((closedAgain b).mp hb))
      exact ⟨hs, fun b => (after b).trans (closedAgain b)⟩

end Invariant

/-! ## 4. Whole tours -/

section Whole

variable {next : α → List α} {root : α} {t : Tour α}

theorem sound_of_visits_root (h : Visits next (next root) ⟨[root], []⟩ t) :
    Sound next root t ∧ ∀ a, t.Open a ↔ a = root := by
  have start : ∀ a, (⟨[root], []⟩ : Tour α).Open a ↔ a = root := by simp [Tour.Open]
  obtain ⟨hs, same⟩ := sound_of_visits h (sound_start root) .refl (fun _ ha => ha)
    (fun a ha => by rw [(start a).mp ha])
  exact ⟨hs, fun a => (same a).trans (start a)⟩

/-- At last the tour comes out of the root. -/
theorem sound_leave_root (h : Visits next (next root) ⟨[root], []⟩ t) :
    Sound next root (t.leave root) := by
  obtain ⟨hs, hopen⟩ := sound_of_visits_root h
  refine sound_leave hs ((hopen root).mpr rfl) ?_ ?_
  · exact fun b hb => todo_met_of_visits h hb
  · intro b hb
    rw [(hopen b).mp hb]

/-- Whatever has been met is finished in the end. -/
theorem met_iff_finished (h : Visits next (next root) ⟨[root], []⟩ t) {a : α} :
    a ∈ t.met ↔ a ∈ t.done ++ [root] := by
  obtain ⟨hs, hopen⟩ := sound_of_visits_root h
  rw [List.mem_append, List.mem_singleton, ← hopen a]
  constructor
  · intro ha
    by_cases hd : a ∈ t.done
    · exact Or.inl hd
    · exact Or.inr ⟨ha, hd⟩
  · rintro (hd | ho)
    · exact hs.done_met a hd
    · exact ho.1

/-- **What a whole tour finishes**, the root last: exactly what the root leads to, each node once,
    in the order of finishing. -/
theorem ordered_of_visits_root (h : Visits next (next root) ⟨[root], []⟩ t) :
    (t.done ++ [root]).Nodup ∧ (∀ a, a ∈ t.done ++ [root] ↔ Reaches next root a) ∧
      Ordered next (t.done ++ [root]) := by
  have last := sound_leave_root h
  refine ⟨last.done_nodup,
    fun a => ⟨fun ha => last.reached a ((met_iff_finished h).mpr ha), fun ha => ?_⟩, last.ordered⟩
  induction ha with
  | refl => exact List.mem_append_right _ (List.mem_singleton_self root)
  | tail _ edge ih => exact (met_iff_finished h).mp (last.closed _ ih _ edge)

/-- **In a whole tour nodes nest**: what is met first leads to the rest or is finished first. -/
theorem nested_of_visits_root (h : Visits next (next root) ⟨[root], []⟩ t) :
    Nested next t.met (t.done ++ [root]) :=
  (sound_leave_root h).nested

end Whole

/-! ## 5. Graphs without cycles -/

/-- One node leads to another, over one edge at least. -/
abbrev Leads (next : α → List α) : α → α → Prop :=
  Relation.TransGen fun a b => b ∈ next a

/-- Nothing that the root leads to leads back to itself. -/
def Acyclic (next : α → List α) (root : α) : Prop := ∀ a, Reaches next root a → ¬ Leads next a a

section Acyclic

variable {next : α → List α} {root : α} {t : Tour α}

section Rank

variable (nodes : List α) (rank : α → Nat)
  (down : ∀ a ∈ nodes, ∀ b ∈ next a, b ∈ nodes ∧ rank b < rank a)
include down

/-- What a root leads to is among the nodes that no edge leaves. -/
theorem mem_of_reaches (hroot : root ∈ nodes) {a : α} (h : Reaches next root a) : a ∈ nodes := by
  induction h with
  | refl => exact hroot
  | tail _ edge ih => exact (down _ ih _ edge).1

/-- Where every edge goes down, so does whatever leads from one node to another. -/
theorem rank_lt_of_leads {a b : α} (h : Leads next a b) (ha : a ∈ nodes) :
    b ∈ nodes ∧ rank b < rank a := by
  induction h with
  | single edge => exact down a ha _ edge
  | tail _ edge ih =>
      obtain ⟨hb, less⟩ := down _ ih.1 _ edge
      exact ⟨hb, Nat.lt_trans less ih.2⟩

/-- There are no cycles where every edge goes down. -/
theorem acyclic_of_rank (hroot : root ∈ nodes) : Acyclic next root := by
  intro a reached cycle
  have ha := mem_of_reaches nodes rank down hroot reached
  exact Nat.lt_irrefl _ (rank_lt_of_leads nodes rank down cycle ha).2

end Rank

/-- **Without cycles, whatever a node leads to is finished before it.** -/
theorem mem_before_of_leads {l : List α} {a b : α} (hl : Ordered next l)
    (acyclic : ∀ c ∈ l, ¬ Leads next c c) (h : Leads next a b) :
    ∀ before after, l = before ++ a :: after → b ∈ before := by
  induction h using Relation.TransGen.head_induction_on with
  | @single a edge =>
      intro before after e
      rcases hl before a after e b edge with there | back
      · exact there
      · exact absurd (.head' edge back)
          (acyclic a (e ▸ List.mem_append_right _ List.mem_cons_self))
  | @head a c edge _ ih =>
      intro before after e
      rcases hl before a after e c edge with there | back
      · obtain ⟨init, rest, rfl⟩ := List.append_of_mem there
        exact List.mem_append_left _ (ih init (rest ++ a :: after) (by simpa using e))
      · exact absurd (.head' edge back)
          (acyclic a (e ▸ List.mem_append_right _ List.mem_cons_self))

/-- Where nothing stands twice, nothing stands before itself. -/
theorem not_mem_before {l before after : List α} {a : α} (hl : l.Nodup)
    (e : l = before ++ a :: after) : a ∉ before := by
  subst e
  exact fun hm => (List.nodup_append.mp hl).2.2 a hm a List.mem_cons_self rfl

/-- What is chosen stands before the last that is chosen, or is the same. -/
theorem mem_before_or_eq {l before after : List α} {chosen : α → Prop} {b u : α}
    (e : l = before ++ u :: after) (last : ∀ c ∈ after, ¬ chosen c) (hb : b ∈ l) (hc : chosen b) :
    b ∈ before ∨ b = u := by
  rw [e, List.mem_append, List.mem_cons] at hb
  exact hb.imp id fun hb => hb.resolve_right fun hb => last b hb hc

section Chosen

variable (chosen : α → Prop) {u : α} {before after : List α}

/-- **Nothing leads to what is finished last**, among some of the nodes of a whole tour without
    cycles. -/
theorem not_leads_last (h : Visits next (next root) ⟨[root], []⟩ t) (acyclic : Acyclic next root)
    (hdone : t.done ++ [root] = before ++ u :: after) (last : ∀ b ∈ after, ¬ chosen b) {b : α}
    (hr : Reaches next root b) (hb : chosen b) : ¬ Leads next b u := by
  intro leads
  obtain ⟨nodup, reached, ordered⟩ := ordered_of_visits_root h
  rcases mem_before_or_eq hdone last ((reached b).mpr hr) hb with there | rfl
  · obtain ⟨init, rest, split⟩ := List.append_of_mem there
    have first : u ∈ init := by
      refine mem_before_of_leads ordered (fun c hc => acyclic c ((reached c).mp hc)) leads init
        (rest ++ u :: after) ?_
      rw [hdone, split, List.append_assoc, List.cons_append]
    exact not_mem_before nodup hdone (split ▸ List.mem_append_left _ first)
  · exact acyclic b hr leads

/-- **Met first and finished last.** Among some of the nodes of a whole tour without cycles, the one
    that is met first is finished last exactly when it leads to all others of them. -/
theorem last_eq_first_iff (h : Visits next (next root) ⟨[root], []⟩ t) (acyclic : Acyclic next root)
    {a : α} {later earlier : List α} (hmet : t.met = later ++ a :: earlier)
    (first : ∀ b ∈ earlier, ¬ chosen b) (ha : chosen a)
    (hdone : t.done ++ [root] = before ++ u :: after) (last : ∀ b ∈ after, ¬ chosen b)
    (hu : chosen u) :
    u = a ↔ ∀ b, Reaches next root b → chosen b → b ≠ a → Leads next a b := by
  obtain ⟨nodup, reached, _⟩ := ordered_of_visits_root h
  constructor
  · rintro rfl b hr hb hne
    have there := (mem_before_or_eq hdone last ((reached b).mpr hr) hb).resolve_right hne
    obtain ⟨init, rest, split⟩ := List.append_of_mem there
    have hlater : b ∈ later := by
      have hm := (met_iff_finished h).mpr ((reached b).mpr hr)
      rw [hmet, List.mem_append, List.mem_cons] at hm
      exact hm.resolve_right fun hm => hm.elim hne fun hm => first b hm hb
    have nested := nested_of_visits_root h
    rw [hmet] at nested
    rcases (List.pairwise_append.mp nested).2.2 b hlater u List.mem_cons_self with leads | finished
    · exact (Relation.reflTransGen_iff_eq_or_transGen.mp leads).resolve_left hne
    · have there : u ∈ init := by
        refine finished.2 init (rest ++ u :: after) ?_
        rw [hdone, split, List.append_assoc, List.cons_append]
      exact absurd (split ▸ List.mem_append_left _ there) (not_mem_before nodup hdone)
  · intro leads
    by_contra hne
    have hra : Reaches next root a :=
      (reached a).mp ((met_iff_finished h).mp (hmet ▸ List.mem_append_right _ List.mem_cons_self))
    have hru : Reaches next root u :=
      (reached u).mp (hdone ▸ List.mem_append_right _ List.mem_cons_self)
    exact not_leads_last chosen h acyclic hdone last hra ha (leads u hru hu hne)

end Chosen

end Acyclic

end SchemaPages.DepthFirst
