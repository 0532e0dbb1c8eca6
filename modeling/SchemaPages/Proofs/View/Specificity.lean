import SchemaPages.Proofs.DepthFirst
import SchemaPages.Proofs.View.Induced
/-!
# Classes that refine slots

Several classes above a class may refine one slot or give it an attribute. The walk through the
ancestors goes into each branch to its end, so it may meet a class before one that inherits from it,
where this one stands in a later branch. The class that it meets first counts.

* `line`, `Overtakes`: the classes as the walk meets them, and who comes first;
* `MostSpecific`, `SpecificWins`: the rule that the class closest to the bottom counts;
* `findSome?_eq_iff`: when the first class agrees with another;
* `not_inherits_of_noDiamond`: no class overtakes another where no class is reached in two ways;
* `specificWins_iff`: when the rule holds.
-/

namespace SchemaPages.View

open Slot (Setting)

/-! ## 1. Who comes first -/

section Line

variable {β : Type} {v : View} {cls : String} {c x y : Class} {gives : Class → Option β}

/-- The class and the classes above it, in the order in which the walk meets them. -/
def line (v : View) (cls : String) : List Class := (v.classAncestors cls true true).filterMap v.class?

theorem mem_line_iff : c ∈ v.line cls ↔ c ∈ v.merged.classes ∧ v.Inherits cls c.name := by
  unfold line
  rw [List.mem_filterMap]
  constructor
  · rintro ⟨a, ha, found⟩
    obtain ⟨hc, rfl⟩ := mem_of_class? found
    exact ⟨hc, mem_classAncestors_self_iff.mp ha⟩
  · rintro ⟨hc, above⟩
    exact ⟨c.name, mem_classAncestors_self_iff.mpr above, class?_of_mem hc⟩

/-- **A class is met before another and gives a value first.** -/
def Overtakes (v : View) (cls : String) (gives : Class → Option β) (y x : Class) : Prop :=
  ∃ before between after, v.line cls = before ++ y :: (between ++ x :: after) ∧
    (gives y).isSome ∧ ∀ c ∈ before, gives c = none

/-- **The value of a class comes first exactly if no other value overtakes it.** -/
theorem findSome?_eq_iff (hx : x ∈ v.line cls) (given : (gives x).isSome) :
    (v.line cls).findSome? gives = gives x ↔ ∀ y, v.Overtakes cls gives y x → gives y = gives x := by
  constructor
  · rintro first y ⟨before, between, after, split, some, none⟩
    obtain ⟨w, hw⟩ := Option.isSome_iff_exists.mp some
    rw [← first, hw]
    exact (List.findSome?_eq_some_iff.mpr ⟨before, y, _, split, hw, none⟩).symm
  · intro overtaken
    obtain ⟨w, hw⟩ := Option.isSome_iff_exists.mp (List.findSome?_isSome_iff.mpr ⟨x, hx, given⟩)
    obtain ⟨before, y, rest, split, hy, none⟩ := List.findSome?_eq_some_iff.mp hw
    rw [hw, ← hy]
    rw [split, List.mem_append, List.mem_cons] at hx
    rcases hx with early | rfl | late
    · rw [none x early] at given
      cases given
    · rfl
    · obtain ⟨between, after, rfl⟩ := List.append_of_mem late
      exact overtaken y ⟨before, between, after, split, by rw [hy]; rfl, none⟩

end Line

/-! ## 2. Who should count -/

/-- **The most specific class that gives a value**: it is the class or above it, and every other such
    class is above this one. -/
structure MostSpecific {β : Type} (v : View) (cls : String) (gives : Class → Option β) (x : Class) :
    Prop where
  mem : x ∈ v.merged.classes
  above : v.Inherits cls x.name
  given : (gives x).isSome
  least : ∀ y ∈ v.merged.classes, v.Inherits cls y.name → (gives y).isSome → y ≠ x →
    v.Inherits x.name y.name

/-- What a class sets when it refines a slot. -/
def refinement {α : Type} (n : String) (f : Setting α) (c : Class) : Option α :=
  (c.usage? n).bind f.value?

/-- **The more specific class counts**: an induced slot has the values that the most specific class
    sets, and starts from the attribute that the most specific class declares. -/
structure SpecificWins (v : View) (cls n : String) : Prop where
  refinements : ∀ {α : Type} (f : Setting α) x, v.MostSpecific cls (refinement n f) x →
    ∃ i, v.inducedSlot n (some cls) = some i ∧ f.value? i = refinement n f x
  attributes : ∀ x, v.MostSpecific cls (·.attribute? n) x →
    v.baseSlot? n (v.lineage (some cls)) = x.attribute? n

/-- **Nothing overtakes the most specific class** with another value. -/
def Unovertaken {β : Type} (v : View) (cls : String) (gives : Class → Option β) : Prop :=
  ∀ x y, v.MostSpecific cls gives x → v.Overtakes cls gives y x → gives y = gives x

section Specific

variable {α β : Type} {v : View} {cls n : String} {x : Class} {gives : Class → Option β} {t : Slot}

theorem MostSpecific.mem_line (h : v.MostSpecific cls gives x) : x ∈ v.line cls :=
  mem_line_iff.mpr ⟨h.mem, h.above⟩

theorem unovertaken_iff : v.Unovertaken cls gives ↔
    ∀ x, v.MostSpecific cls gives x → (v.line cls).findSome? gives = gives x := by
  constructor
  · intro h x specific
    exact (findSome?_eq_iff specific.mem_line specific.given).mpr fun y => h x y specific
  · intro h x y specific overtakes
    exact (findSome?_eq_iff specific.mem_line specific.given).mp (h x specific) y overtakes

theorem findSome?_usages (f : Setting α) (v : View) (n cls : String) :
    (v.usages n (v.lineage (some cls))).findSome? f.value? =
      (v.line cls).findSome? (refinement n f) := by
  rw [← List.head?_filterMap, ← List.head?_filterMap, line, usages, List.filterMap_filterMap,
    List.filterMap_filterMap]
  congr 2
  funext a
  exact Option.bind_assoc ..

/-- What some class sets is set in the induced slot by the first class that sets it. -/
theorem value?_inducedSlot (ht : t ∈ v.merged.slots) (f : Setting α)
    (given : ((v.line cls).findSome? (refinement t.name f)).isSome) :
    ∃ i, v.inducedSlot t.name (some cls) = some i ∧
      f.value? i = (v.line cls).findSome? (refinement t.name f) := by
  obtain ⟨i, found, _⟩ := exists_inducedSlot ht (some cls)
  obtain ⟨base, _, made⟩ := exists_base_of_inducedSlot found
  refine ⟨i, found, ?_⟩
  obtain ⟨w, hw⟩ := Option.isSome_iff_exists.mp given
  rw [made.value, sources, List.findSome?_append, findSome?_usages, hw]
  rfl

theorem baseSlot?_eq (v : View) (n cls : String) :
    v.baseSlot? n (v.lineage (some cls)) =
      ((v.line cls).findSome? (·.attribute? n)).or (v.slot? n) := rfl

/-- **The more specific class counts exactly if nothing overtakes it.** -/
theorem specificWins_iff_unovertaken (ht : t ∈ v.merged.slots) :
    v.SpecificWins cls t.name ↔
      (∀ {α : Type} (f : Setting α), v.Unovertaken cls (refinement t.name f)) ∧
        v.Unovertaken cls (·.attribute? t.name) := by
  have first : ∀ {β : Type} {gives : Class → Option β} {x}, v.MostSpecific cls gives x →
      ((v.line cls).findSome? gives).isSome :=
    fun specific => List.findSome?_isSome_iff.mpr ⟨_, specific.mem_line, specific.given⟩
  constructor
  · intro wins
    refine ⟨fun f => unovertaken_iff.mpr fun x specific => ?_,
      unovertaken_iff.mpr fun x specific => ?_⟩
    · obtain ⟨i, found, value⟩ := wins.refinements f x specific
      obtain ⟨j, same, set⟩ := value?_inducedSlot ht f (first specific)
      rw [found] at same
      cases same
      exact set.symm.trans value
    · have start := wins.attributes x specific
      obtain ⟨a, ha⟩ := Option.isSome_iff_exists.mp (first specific)
      rw [baseSlot?_eq, ha] at start
      rw [ha]
      exact start
  · rintro ⟨refined, declared⟩
    constructor
    · intro α f x specific
      obtain ⟨i, found, set⟩ := value?_inducedSlot ht f (first specific)
      exact ⟨i, found, set.trans (unovertaken_iff.mp (refined f) x specific)⟩
    · intro x specific
      rw [baseSlot?_eq, unovertaken_iff.mp declared x specific]
      obtain ⟨a, ha⟩ := Option.isSome_iff_exists.mp specific.given
      rw [ha]
      rfl

end Specific

/-! ## 3. Hierarchies without diamonds -/

/-- No class inherits from itself, directly or through others. -/
def Acyclic (v : View) : Prop := ∀ n, DepthFirst.Acyclic (v.classParents · true true) n

/-- **Nothing is reached in two ways**: of the class and those above it, no two have a parent in
    common. -/
def NoDiamond (v : View) (cls : String) : Prop :=
  ∀ a b c, v.Inherits cls a → v.Inherits cls b → c ∈ v.classParents a true true →
    c ∈ v.classParents b true true → a = b

/-- There are no cycles where every parent of a class ranks below it. -/
theorem acyclic_of_rank {v : View} (rank : String → Nat)
    (down : ∀ c ∈ v.merged.classes, ∀ p ∈ v.classParents c.name true true, rank p < rank c.name) :
    v.Acyclic := by
  have less : ∀ {a b}, DepthFirst.Leads (v.classParents · true true) a b → rank b < rank a := by
    have step : ∀ {a b}, b ∈ v.classParents a true true → rank b < rank a := by
      intro a b parent
      obtain ⟨c, hc, rfl⟩ := List.mem_map.mp (known_of_classParents parent)
      exact down c hc b parent
    intro a b way
    induction way with
    | single parent => exact step parent
    | tail _ parent ih => exact Nat.lt_trans (step parent) ih
  exact fun _ a _ cycle => Nat.lt_irrefl _ (less cycle)

section NoDiamond

variable {v : View} {cls a b : String} {before after : List String}

theorem nodup_classAncestors_self (v : View) (cls : String) :
    (v.classAncestors cls true true).Nodup := by
  refine List.nodup_cons.mpr ⟨fun h => ?_, nodup_classAncestors v cls true⟩
  exact (mem_classAncestors_iff.mp h).1 rfl

/-- Whatever stands above the class is a parent of something that the walk has met before. -/
theorem child_before (h : v.classAncestors cls true true = before ++ a :: after) :
    a = cls ∨ ∃ c ∈ before, a ∈ v.classParents c true true := by
  rcases List.append_eq_cons_iff.mp h.symm with ⟨rfl, e⟩ | ⟨init, rfl, e⟩
  · cases e
    exact Or.inl rfl
  · rcases Walk.todo_or_next_of_split e with parent | ⟨c, hc, parent⟩
    · exact Or.inr ⟨cls, List.mem_cons_self, parent⟩
    · exact Or.inr ⟨c, List.mem_cons_of_mem _ hc, parent⟩

/-- **Without diamonds, no class is met before one that inherits from it.** By induction on the way
    from the later class up to the earlier one: the last step of this way comes from the one class
    that has the earlier one as its parent, and this class has been met still earlier. -/
theorem not_inherits_of_noDiamond (acyclic : v.Acyclic) (single : v.NoDiamond cls)
    (split : v.classAncestors cls true true = before ++ a :: after) (late : b ∈ after) :
    ¬ v.Inherits b a := by
  intro up
  have above : ∀ {n}, n ∈ v.classAncestors cls true true → v.Inherits cls n :=
    mem_classAncestors_self_iff.mp
  have hb : v.Inherits cls b :=
    above (split ▸ List.mem_append_right _ (List.mem_cons_of_mem _ late))
  induction up generalizing before after with
  | refl =>
      have nodup := split ▸ v.nodup_classAncestors_self cls
      exact (List.nodup_cons.mp nodup.of_append_right).1 late
  | @tail c a way step ih =>
      rcases child_before split with rfl | ⟨d, hd, parent⟩
      · exact acyclic a a .refl (.tail' (hb.trans way) step)
      · have known : v.Inherits cls d := above (split ▸ List.mem_append_left _ hd)
        obtain rfl := single c d a (hb.trans way) known step parent
        obtain ⟨front, between, rfl⟩ := List.append_of_mem hd
        rw [List.append_assoc, List.cons_append] at split
        exact ih split (List.mem_append_right _ (List.mem_cons_of_mem _ late))

theorem unovertaken_of_noDiamond {β : Type} {gives : Class → Option β} (acyclic : v.Acyclic)
    (single : v.NoDiamond cls) : v.Unovertaken cls gives := by
  rintro x y specific ⟨before, between, after, split, given, -⟩
  by_cases same : y = x
  · rw [same]
  · have hy : y ∈ v.line cls := split ▸ List.mem_append_right _ List.mem_cons_self
    obtain ⟨known, above⟩ := mem_line_iff.mp hy
    obtain ⟨front, rest, names, -, later⟩ := List.filterMap_eq_append_iff.mp split
    obtain ⟨skipped, n, tail, rfl, -, found, late⟩ := List.filterMap_eq_cons_iff.mp later
    obtain ⟨-, rfl⟩ := mem_of_class? found
    have hx : x.name ∈ tail := by
      have there : x ∈ tail.filterMap v.class? :=
        late ▸ List.mem_append_right _ List.mem_cons_self
      obtain ⟨m, hm, found⟩ := List.mem_filterMap.mp there
      exact (mem_of_class? found).2 ▸ hm
    rw [← List.append_assoc] at names
    exact absurd (specific.least y known above given same)
      (not_inherits_of_noDiamond acyclic single names hx)

end NoDiamond

/-- **When the more specific class counts**: exactly if the walk meets no other value before that of
    the most specific class. This is so wherever no two classes have a parent in common. -/
theorem specificWins_iff {v : View} (acyclic : v.Acyclic) {t : Slot} (ht : t ∈ v.merged.slots)
    (cls : String) :
    (v.SpecificWins cls t.name ↔
      (∀ {α : Type} (f : Setting α), v.Unovertaken cls (refinement t.name f)) ∧
        v.Unovertaken cls (·.attribute? t.name)) ∧
      (v.NoDiamond cls → v.SpecificWins cls t.name) := by
  have exactly : v.SpecificWins cls t.name ↔ _ := specificWins_iff_unovertaken ht
  refine ⟨exactly, fun single => exactly.mpr ⟨fun f => ?_, ?_⟩⟩
  · exact unovertaken_of_noDiamond acyclic single
  · exact unovertaken_of_noDiamond acyclic single

/-! ## 4. A diamond -/

/-- A class with a slot that it refines. -/
def agent : Class where
  name := "Agent"
  slots := ["label"]
  slotUsage := [{ name := "label", range := some "integer" }]

/-- A class below it. -/
def person : Class where
  name := "Person"
  isA := some "Agent"

/-- A class that refines the slot too, and may inherit from another one. -/
def member (parent : Option String) : Class where
  name := "Member"
  isA := parent
  slotUsage := [{ name := "label", range := some "string" }]

/-- A class below the last two. -/
def employee : Class where
  name := "Employee"
  isA := some "Person"
  mixins := ["Member"]

/-- The view of these classes. -/
def staff (parent : Option String) : View :=
  View.ofSchemas
    { id := "p", name := "p", slots := [{ name := "label" }]
      classes := [agent, person, member parent, employee] } []

/-- The slot of the view. -/
def label : Slot where
  name := "label"
  domainOf := ["Agent"]

theorem acyclic_staff {parent : Option String} (h : parent = none ∨ parent = some "Agent") :
    (staff parent).Acyclic := by
  let rank (n : String) : Nat := if n = "Agent" then 0 else if n = "Employee" then 2 else 1
  refine acyclic_of_rank rank ?_
  rcases h with rfl | rfl <;> decide +kernel

/-- Nothing overtakes where the second parent of the employee is apart from the first. -/
theorem specificWins_iff_staff :
    (staff none).Acyclic ∧ label ∈ (staff none).merged.slots ∧ (staff none).NoDiamond "Employee" ∧
      (staff none).SpecificWins "Employee" "label" := by
  have acyclic : (staff none).Acyclic := acyclic_staff (Or.inl rfl)
  have known : label ∈ (staff none).merged.slots := by decide +kernel
  have single : (staff none).NoDiamond "Employee" := by
    intro a b c _ _ ha hb
    have apart : ∀ d ∈ (staff none).merged.classes, ∀ e ∈ (staff none).merged.classes,
        ∀ p ∈ (staff none).classParents d.name true true,
          p ∈ (staff none).classParents e.name true true → d.name = e.name := by decide +kernel
    obtain ⟨d, hd, rfl⟩ := List.mem_map.mp (known_of_classParents ha)
    obtain ⟨e, he, rfl⟩ := List.mem_map.mp (known_of_classParents hb)
    exact apart d hd e he c ha hb
  exact ⟨acyclic, known, single, (specificWins_iff acyclic known "Employee").2 single⟩

/-- The diamond: both parents of the employee inherit from the agent. -/
def diamond : View := staff (some "Agent")

/-- The walk from the employee goes up to the agent before it comes to the member. -/
theorem line_diamond :
    diamond.line "Employee" = [employee, person, agent, member (some "Agent")] := by
  have walk : diamond.classAncestors "Employee" true true =
      ["Employee", "Person", "Agent", "Member"] := by
    have names : diamond.merged.classes.map Class.name =
      ["Agent", "Person", "Member", "Employee"] := rfl
    have employees : diamond.classParents "Employee" true true = ["Person", "Member"] := rfl
    have persons : diamond.classParents "Person" true true = ["Agent"] := rfl
    have members : diamond.classParents "Member" true true = ["Agent"] := rfl
    have agents : diamond.classParents "Agent" true true = [] := rfl
    simp [View.classAncestors, View.ancestorsBy, names, employees, persons, members, agents,
      Walk.preorder]
  rw [line, walk]
  rfl

/-- The member is the most specific class that refines the range. -/
theorem mostSpecific_member :
    diamond.MostSpecific "Employee" (refinement "label" .range) (member (some "Agent")) where
  mem := .tail _ (.tail _ (.head _))
  above := .single (by decide +kernel : "Member" ∈ diamond.classParents "Employee" true true)
  given := by decide
  least := by
    intro y hy _ given other
    rcases List.mem_cons.mp hy with rfl | hy
    · exact .single (by decide +kernel : "Agent" ∈ diamond.classParents "Member" true true)
    · rcases List.mem_cons.mp hy with rfl | hy
      · cases given
      · rcases List.mem_cons.mp hy with rfl | hy
        · exact absurd rfl other
        · cases List.mem_singleton.mp hy
          cases given

/-- **A class may be passed over**: the member inherits from the agent, but the walk meets the agent
    first, in the branch of the person. -/
theorem not_specificWins_diamond :
    diamond.Acyclic ∧ label ∈ diamond.merged.slots ∧
      ¬ diamond.SpecificWins "Employee" "label" := by
  have known : label ∈ diamond.merged.slots := by decide +kernel
  refine ⟨acyclic_staff (Or.inr rfl), known, fun wins => ?_⟩
  have ahead : diamond.Overtakes "Employee" (refinement "label" .range) agent
      (member (some "Agent")) :=
    ⟨[employee, person], [], [], line_diamond, rfl, by decide⟩
  obtain ⟨unovertaken, -⟩ := (specificWins_iff_unovertaken (t := label) known).mp wins
  have same := unovertaken Setting.range _ _ mostSpecific_member ahead
  revert same
  decide

end SchemaPages.View
