import SchemaPages.Proofs.View.Chains
import SchemaPages.Proofs.View.Names
import SchemaPages.View.Induced
/-!
# Induced types

A type takes what it does not set from the types above it: the type that it is a type of, the type of
that one, and so on, until a name stands for no type or has been met.

* `DataType.Trait`, `DataType.Trait.value?_foldl_fillFrom`: what types take from one another;
* `Walk.found`: what the names on a way up stand for;
* `View.TypeLine`, `typeLine_unique`: the types from one type up;
* `inducedType_along`: where the values of an induced type come from.
-/

namespace SchemaPages

/-! ## 1. What a type takes -/

namespace DataType

/-- What a type takes from the types above it, by the type of its values. -/
inductive Trait : Type → Type where
  | uri : Trait String
  | base : Trait String
  | repr : Trait String
  | pattern : Trait String
  | minimumValue : Trait Number
  | maximumValue : Trait Number

namespace Trait

variable {α : Type}

/-- What a type has set. -/
def value? : Trait α → DataType → Option α
  | uri, t => t.uri
  | base, t => t.base
  | repr, t => t.repr
  | pattern, t => t.pattern
  | minimumValue, t => t.minimumValue
  | maximumValue, t => t.maximumValue

theorem value?_fillFrom (f : Trait α) (t ancestor : DataType) :
    f.value? (t.fillFrom ancestor) = (f.value? t).or (f.value? ancestor) := by
  cases f <;> rfl

/-- **The type that comes first counts first.** -/
theorem value?_foldl_fillFrom (f : Trait α) (above : List DataType) (t : DataType) :
    f.value? (above.foldl fillFrom t) = (t :: above).findSome? f.value? := by
  induction above generalizing t with
  | nil => cases h : f.value? t <;> simp [h]
  | cons u rest ih =>
      rw [List.foldl_cons, ih, List.findSome?_cons, value?_fillFrom, List.findSome?_cons,
        List.findSome?_cons]
      cases f.value? t <;> rfl

end Trait

/-- A type apart from what it takes from others. -/
def untaken (t : DataType) : DataType :=
  { t with uri := none, base := none, repr := none, pattern := none, minimumValue := none
           maximumValue := none }

theorem untaken_foldl_fillFrom (above : List DataType) (t : DataType) :
    (above.foldl fillFrom t).untaken = t.untaken := by
  induction above generalizing t with
  | nil => rfl
  | cons u rest ih => exact ih (t.fillFrom u)

end DataType

/-! ## 2. What names on a way up stand for -/

namespace Walk

variable {α : Type} {find : String → Option α} {parent : α → Option String} {name : α → String}

/-- What the names on a way up stand for, as far as they stand for anything. -/
def found (above : List (String × Option α)) : List α := above.filterMap (·.2)

section Found

variable {seen : List String} {start : Option String} {above : List (String × Option α)} {first : α}
  (h : Climbs find parent seen start above)
include h

/-- What is found has the names of the way. -/
theorem found_names (named : ∀ n a, find n = some a → name a = n) :
    ((found above).map name).Sublist (above.map Prod.fst) := by
  induction h with
  | top => exact .slnil
  | again => exact .slnil
  | missing => exact .cons _ .slnil
  | up _ there _ ih =>
      rw [List.map_cons, ← named _ _ there]
      exact ih.cons_cons _

/-- **Each one found is the parent of the one before.** -/
theorem found_chain (begins : parent first = start) : (first :: found above).IsChain
    fun a b => ∃ p, parent a = some p ∧ find p = some b := by
  induction h generalizing first with
  | top => exact .singleton _
  | again => exact .singleton _
  | missing => exact .singleton _
  | up _ there _ ih => exact .cons_cons ⟨_, begins, there⟩ (ih rfl)

/-- **Where the last one found has a parent**, it stands for nothing or has been met. -/
theorem found_ends (named : ∀ n a, find n = some a → name a = n) (begins : parent first = start) :
    ∀ last, (first :: found above).getLast? = some last → ∀ p, parent last = some p →
      find p = none ∨ p ∈ seen ∨ p ∈ (found above).map name := by
  induction h generalizing first with
  | top =>
      rintro last ⟨⟩ p up
      cases begins.symm.trans up
  | again met =>
      rintro last ⟨⟩ p up
      cases begins.symm.trans up
      exact Or.inr (Or.inl met)
  | missing _ unknown =>
      rintro last ⟨⟩ p up
      cases begins.symm.trans up
      exact Or.inl unknown
  | @up seen n a above _ there _ ih =>
      intro last hlast p up
      have same : found ((n, some a) :: above) = a :: found above := rfl
      rw [same, List.getLast?_cons_cons] at hlast
      rw [same, List.map_cons, named _ _ there]
      rcases ih rfl last hlast p up with unknown | met | met
      · exact Or.inl unknown
      · rcases List.mem_cons.mp met with rfl | met
        · exact Or.inr (Or.inr List.mem_cons_self)
        · exact Or.inr (Or.inl met)
      · exact Or.inr (Or.inr (List.mem_cons_of_mem _ met))

end Found

end Walk

/-! ## 3. Types from one type up -/

namespace View

variable {v : View} {n : String} {t : DataType}

/-- **The types from one type up**: each is what the one before names as its type, none stands twice,
    and after the last one there is no name, or one that stands for no type or for one of these. -/
structure TypeLine (v : View) (t : DataType) (line : List DataType) : Prop where
  first : line.head? = some t
  links : line.IsChain fun a b => ∃ p, a.typeOf = some p ∧ v.type? p = some b
  distinct : (line.map DataType.name).Nodup
  ends : ∀ last, line.getLast? = some last → ∀ p, last.typeOf = some p →
    v.type? p = none ∨ p ∈ line.map DataType.name

theorem name_of_type? (h : v.type? n = some t) : t.name = n := by
  simpa using List.find?_some h

/-- Of two chains in which the next one is determined, one goes on where the other ends. -/
theorem prefix_or_prefix {α : Type} {next : α → α → Prop}
    (determined : ∀ a b c, next a b → next a c → b = c) {a : α} {l m : List α}
    (hl : (a :: l).IsChain next) (hm : (a :: m).IsChain next) : l <+: m ∨ m <+: l := by
  induction l generalizing a m with
  | nil => exact Or.inl List.nil_prefix
  | cons b l ih =>
      cases m with
      | nil => exact Or.inr List.nil_prefix
      | cons c m =>
          obtain ⟨toB, restB⟩ := List.isChain_cons_cons.mp hl
          obtain ⟨toC, restC⟩ := List.isChain_cons_cons.mp hm
          obtain rfl := determined a b c toB toC
          exact (ih restB restC).imp (List.prefix_cons_inj b).mpr (List.prefix_cons_inj b).mpr

/-- A line does not go on where another one ends. -/
theorem eq_of_front {line other : List DataType} (h : v.TypeLine t line)
    (h' : v.TypeLine t other) (front : line <+: other) : line = other := by
  obtain ⟨rest, rfl⟩ := front
  cases rest with
  | nil => exact (List.append_nil line).symm
  | cons u rest =>
      exfalso
      have some_last : line ≠ [] := by
        rintro rfl
        cases h.first
      have last := List.getLast?_eq_some_getLast some_last
      obtain ⟨p, up, there⟩ := (List.isChain_append.mp h'.links).2.2 _ last u rfl
      rcases h.ends _ last p up with unknown | met
      · rw [there] at unknown
        cases unknown
      · have apart := h'.distinct
        rw [List.map_append, List.map_cons, name_of_type? there] at apart
        exact (List.nodup_append.mp apart).2.2 p met p List.mem_cons_self rfl

/-- **There is one line from a type**: what comes next is always determined. -/
theorem typeLine_unique {line other : List DataType} (h : v.TypeLine t line)
    (h' : v.TypeLine t other) : line = other := by
  obtain ⟨l, rfl⟩ := List.head?_eq_some_iff.mp h.first
  obtain ⟨m, rfl⟩ := List.head?_eq_some_iff.mp h'.first
  have determined : ∀ a b c : DataType, (∃ p, a.typeOf = some p ∧ v.type? p = some b) →
      (∃ p, a.typeOf = some p ∧ v.type? p = some c) → b = c := by
    rintro a b c ⟨p, up, there⟩ ⟨q, up', there'⟩
    cases up.symm.trans up'
    exact Option.some.inj (there.symm.trans there')
  rcases prefix_or_prefix determined h.links h'.links with front | front
  · exact eq_of_front h h' ((List.prefix_cons_inj t).mpr front)
  · exact (eq_of_front h' h ((List.prefix_cons_inj t).mpr front)).symm

/-- **The walk from type to type is this line.** -/
theorem typeLine_typeChain (h : v.type? n = some t) : v.TypeLine t (t :: v.typeChain t n) := by
  have named : ∀ n a, v.type? n = some a → DataType.name a = n := fun _ _ => name_of_type?
  have known : ∀ n a, v.type? n = some a → n ∈ v.merged.types.map DataType.name := by
    intro m a there
    exact List.mem_map.mpr ⟨a, List.mem_of_find?_eq_some there, named m a there⟩
  have climbs : Walk.Climbs v.type? DataType.typeOf [n] t.typeOf
      (Walk.chain v.type? DataType.typeOf (v.merged.types.map DataType.name) [n] t.typeOf) :=
    Walk.climbs_chain known [n] t.typeOf
  have fresh : n ∉ (v.typeChain t n).map DataType.name := by
    intro there
    obtain ⟨x, hx, same⟩ := List.mem_map.mp ((Walk.found_names climbs named).subset there)
    exact Walk.fresh_of_climbs climbs x hx (same ▸ List.mem_singleton_self n)
  refine ⟨rfl, Walk.found_chain climbs rfl, ?_, ?_⟩
  · rw [List.map_cons, name_of_type? h]
    exact List.nodup_cons.mpr
      ⟨fresh, (Walk.found_names climbs named).nodup (Walk.nodup_of_climbs climbs)⟩
  · intro last hlast p up
    rw [List.map_cons, name_of_type? h, List.mem_cons]
    refine (Walk.found_ends climbs named rfl last hlast p up).imp_right ?_
    exact Or.imp_left List.mem_singleton.mp

/-- **Where the values of an induced type come from.** There is one for each type of the view and for
    no other name. Each value that it can take from others is the first that is set along the one line
    of types from the type up; in all else it is the type itself. -/
theorem inducedType_along (v : View) (n : String) :
    (v.type? n = none → v.inducedType n = none) ∧
      ∀ t, v.type? n = some t → ∃ i line, v.inducedType n = some i ∧ v.TypeLine t line ∧
        (∀ other, v.TypeLine t other → other = line) ∧
        (∀ {α : Type} (f : DataType.Trait α), f.value? i = line.findSome? f.value?) ∧
        i.untaken = t.untaken := by
  refine ⟨fun unknown => by rw [inducedType, unknown]; rfl, fun t h => ?_⟩
  have line := typeLine_typeChain h
  refine ⟨(v.typeChain t n).foldl DataType.fillFrom t, t :: v.typeChain t n, ?_, line,
    fun other h' => typeLine_unique h' line, fun f => f.value?_foldl_fillFrom _ t,
    DataType.untaken_foldl_fillFrom _ t⟩
  rw [inducedType, h]
  rfl

/-- A type of counts, which are numbers, which are counts again. -/
def ageType : DataType := { name := "Age", typeOf := some "Count", base := some "int" }

/-- One of the types in the circle. -/
def countType : DataType := { name := "Count", typeOf := some "Number", uri := some "m:count" }

/-- The other one. -/
def numberType : DataType where
  name := "Number"
  typeOf := some "Count"
  uri := some "m:number"
  base := some "decimal"
  pattern := some "[0-9]+"

/-- The view of these types. -/
def measures : View :=
  View.ofSchemas { id := "m", name := "m", types := [ageType, countType, numberType] } []

/-- The nearest type that has a value counts, and the circle is followed once. -/
theorem inducedType_along_age :
    measures.type? "Age" = some ageType ∧
      ∃ i, measures.inducedType "Age" = some i ∧ i.uri = some "m:count" ∧ i.base = some "int" ∧
        i.pattern = some "[0-9]+" ∧ i.minimumValue = none ∧ i.typeOf = some "Count" := by
  have there : measures.type? "Age" = some ageType := rfl
  obtain ⟨i, line, induced, -, only, value, rest⟩ :=
    (inducedType_along measures "Age").2 ageType there
  have types : measures.TypeLine ageType [ageType, countType, numberType] := by
    refine ⟨rfl, .cons_cons ⟨"Count", rfl, rfl⟩ (.cons_cons ⟨"Number", rfl, rfl⟩ (.singleton _)),
      by decide, ?_⟩
    rintro last ⟨⟩ p ⟨⟩
    exact Or.inr (by decide)
  have known : line = [ageType, countType, numberType] := (only _ types).symm
  subst known
  exact ⟨there, i, induced, value .uri, value .base, value .pattern, value .minimumValue,
    congrArg DataType.typeOf rest⟩

end View

end SchemaPages
