import SchemaPages.Schema.Condition
/-!
# Conditions without names

Conditions lose the texts that they have under the key `name`, at any depth, and nothing else. What
else is under that key is a condition on a slot of that name.

* `Value.Within`, `Value.Nameless`: values with no such text anywhere in them;
* `Value.at?`, `Value.PassesName`: where a path of keys and indices leads to, and which paths pass
  through such a text;
* `nameless_withoutNames`, `withoutNames_of_nameless`: all such texts are gone, and nothing else;
* `at?_withoutNames`: the other paths lead where they led;
* `withoutNames_drops`: the three together.
-/

namespace SchemaPages

namespace Value

/-! ## 1. Values inside values -/

/-- **Induction over values**: what holds of lists and mappings whose parts have it, and of all values
    without parts, holds of every value. -/
theorem parts_induction {P : Value → Prop} (null : P .null) (bool : ∀ b, P (.bool b))
    (num : ∀ n, P (.num n)) (str : ∀ s, P (.str s))
    (arr : ∀ items, (∀ v ∈ items, P v) → P (.arr items))
    (obj : ∀ entries, (∀ k v, (k, v) ∈ entries → P v) → P (.obj entries)) (v : Value) : P v := by
  refine @Value.rec P (fun items => ∀ v ∈ items, P v) (fun entries => ∀ k v, (k, v) ∈ entries → P v)
    (fun e => P e.2) null bool num str arr obj ?noItems ?item ?noEntries ?entry (fun _ _ held => held) v
  case noItems => exact fun _ hv => absurd hv List.not_mem_nil
  case item => exact fun _ _ first others => List.forall_mem_cons.mpr ⟨first, others⟩
  case noEntries => exact fun _ _ he => absurd he List.not_mem_nil
  case entry =>
    intro e _ first others k v there
    rcases List.mem_cons.mp there with rfl | later
    · exact first
    · exact others k v later

theorem isText_iff {v : Value} : v.isText = true ↔ ∃ s, v = .str s := by
  cases v <;> simp [isText]

/-- A value occurs in another, at any depth. -/
inductive Within (u : Value) : Value → Prop where
  | self : Within u u
  | item {items : List Value} {v : Value} : v ∈ items → Within u v → Within u (.arr items)
  | entry {entries : List (String × Value)} {k : String} {v : Value} :
      (k, v) ∈ entries → Within u v → Within u (.obj entries)

/-- **A value has no names**: no mapping anywhere in it has a text under the key `name`. -/
def Nameless (v : Value) : Prop :=
  ∀ entries, Within (.obj entries) v → ∀ s, ("name", .str s) ∉ entries

theorem nameless_item {items : List Value} {v : Value} (h : Nameless (.arr items)) (hv : v ∈ items) :
    Nameless v := fun entries within => h entries (.item hv within)

theorem nameless_entry {entries : List (String × Value)} {k : String} {v : Value}
    (h : Nameless (.obj entries)) (hv : (k, v) ∈ entries) : Nameless v := fun others within =>
  h others (.entry hv within)

/-! ## 2. Paths -/

/-- One step into a value: to the first entry of a key, or to the item at an index. -/
inductive Step where
  | key (k : String)
  | index (i : Nat)
  deriving DecidableEq, Repr

/-- Where a step leads to. -/
def child? : Value → Step → Option Value
  | .obj entries, .key k => entries.lookup k
  | .arr items, .index i => items[i]?
  | _, _ => none

/-- **Where a path leads to.** -/
def at? (v : Value) : List Step → Option Value
  | [] => some v
  | step :: path => (v.child? step).bind fun u => u.at? path

/-- **A path passes through a name**: some part of it leads to a text under the key `name`. -/
def PassesName (v : Value) (path : List Step) : Prop :=
  ∃ front back s, path = front ++ .key "name" :: back ∧
    v.at? (front ++ [.key "name"]) = some (.str s)

section Paths

variable {v u : Value} {step : Step} {path : List Step}

/-- Behind the first step, a path passes through no other names. -/
theorem not_passesName_of_cons (h : ¬ v.PassesName (step :: path)) (down : v.child? step = some u) :
    ¬ u.PassesName path := by
  rintro ⟨front, back, s, rfl, text⟩
  refine h ⟨step :: front, back, s, rfl, ?_⟩
  rw [List.cons_append, at?, down, Option.bind_some, text]

/-- The first step does not lead to a name. -/
theorem child?_of_not_passesName (h : ¬ v.PassesName (.key "name" :: path)) (s : String) :
    v.child? (.key "name") ≠ some (.str s) := fun down =>
  h ⟨[], path, s, rfl, by rw [List.nil_append, at?, down]; rfl⟩

end Paths

end Value

/-! ## 3. Cleaning -/

/-- Whether an entry is a name. -/
def isName (e : String × Value) : Bool := e.1 = "name" ∧ e.2.isText

theorem isName_eq_false {k : String} {v : Value} (h : ¬ (k = "name" ∧ v.isText)) :
    (!isName (k, v)) = true := by
  rw [isName, decide_eq_false h, Bool.not_false]

theorem entriesWithoutNames_eq (entries : List (String × Value)) :
    entriesWithoutNames entries =
      (entries.filter fun e => !isName e).map fun e => (e.1, withoutNames e.2) := by
  induction entries with
  | nil => rfl
  | cons e rest ih =>
      obtain ⟨k, v⟩ := e
      rw [entriesWithoutNames]
      by_cases name : k = "name" ∧ v.isText
      · rw [if_pos name, ih, List.filter_cons_of_neg (by simpa [isName] using name)]
      · rw [if_neg name, ih, List.filter_cons_of_pos (p := fun e => !isName e) (isName_eq_false name),
          List.map_cons]

theorem itemsWithoutNames_eq (items : List Value) :
    itemsWithoutNames items = items.map withoutNames := by
  induction items with
  | nil => rfl
  | cons v rest ih => rw [itemsWithoutNames, ih, List.map_cons]

theorem withoutNames_obj (entries : List (String × Value)) :
    withoutNames (.obj entries) =
      .obj ((entries.filter fun e => !isName e).map fun e => (e.1, withoutNames e.2)) := by
  rw [withoutNames, entriesWithoutNames_eq]

theorem withoutNames_arr (items : List Value) :
    withoutNames (.arr items) = .arr (items.map withoutNames) := by
  rw [withoutNames, itemsWithoutNames_eq]

/-- Cleaning makes no texts and loses none. -/
theorem isText_withoutNames (v : Value) : (withoutNames v).isText = v.isText := by
  cases v <;> simp [withoutNames, Value.isText]

/-- **All names are gone.** -/
theorem nameless_withoutNames (v : Value) : (withoutNames v).Nameless := by
  induction v using Value.parts_induction with
  | null => rintro _ ⟨⟩
  | bool b => rintro _ ⟨⟩
  | num n => rintro _ ⟨⟩
  | str s => rintro _ ⟨⟩
  | arr items ih =>
      intro entries within
      rw [withoutNames_arr] at within
      cases within with
      | item there deeper =>
          obtain ⟨v, hv, rfl⟩ := List.mem_map.mp there
          exact ih v hv entries deeper
  | obj entries ih =>
      intro others within
      rw [withoutNames_obj] at within
      cases within with
      | self =>
          intro s there
          obtain ⟨⟨k, v⟩, kept, same⟩ := List.mem_map.mp there
          obtain ⟨rfl, cleaned⟩ := Prod.mk.inj same
          have text : v.isText = true := by rw [← isText_withoutNames, cleaned]; rfl
          have passed := (List.mem_filter.mp kept).2
          simp [isName, text] at passed
      | entry there deeper =>
          obtain ⟨⟨k, v⟩, kept, same⟩ := List.mem_map.mp there
          obtain ⟨rfl, rfl⟩ := Prod.mk.inj same
          exact ih k v (List.mem_filter.mp kept).1 others deeper

/-- **Nothing else is lost**: a value without names stays as it is. -/
theorem withoutNames_of_nameless {v : Value} (h : v.Nameless) : withoutNames v = v := by
  induction v using Value.parts_induction with
  | null => rfl
  | bool b => rfl
  | num n => rfl
  | str s => rfl
  | arr items ih =>
      have same : items.map withoutNames = items.map id :=
        List.map_congr_left fun v hv => ih v hv (Value.nameless_item h hv)
      rw [withoutNames_arr, same, List.map_id]
  | obj entries ih =>
      have kept : entries.filter (fun e => !isName e) = entries := by
        refine List.filter_eq_self.mpr fun ⟨k, v⟩ there => isName_eq_false ?_
        rintro ⟨rfl, text⟩
        obtain ⟨s, rfl⟩ := Value.isText_iff.mp text
        exact h entries .self s there
      have same : entries.map (fun e => (e.1, withoutNames e.2)) = entries.map id :=
        List.map_congr_left fun ⟨k, v⟩ there =>
          congrArg (Prod.mk k) (ih k v there (Value.nameless_entry h there))
      rw [withoutNames_obj, kept, same, List.map_id]

theorem lookup_entriesWithoutNames {entries : List (String × Value)} {k : String}
    (h : k = "name" → ∀ s, entries.lookup k ≠ some (.str s)) :
    (entriesWithoutNames entries).lookup k = (entries.lookup k).map withoutNames := by
  induction entries with
  | nil => rfl
  | cons e rest ih =>
      obtain ⟨key, v⟩ := e
      rw [entriesWithoutNames]
      by_cases here : k = key
      · subst here
        have kept : ¬ (k = "name" ∧ v.isText) := by
          rintro ⟨name, text⟩
          obtain ⟨s, rfl⟩ := Value.isText_iff.mp text
          exact h name s List.lookup_cons_self
        rw [if_neg kept, List.lookup_cons_self, List.lookup_cons_self, Option.map_some]
      · have other : (k == key) = false := beq_false_of_ne here
        have below := ih fun name s => by
          have first := h name s
          rwa [List.lookup_cons, other] at first
        split
        · rw [below, List.lookup_cons, other]
        · rw [List.lookup_cons, List.lookup_cons, other]
          exact below

theorem child?_withoutNames {v : Value} {step : Value.Step}
    (h : step = .key "name" → ∀ s, v.child? step ≠ some (.str s)) :
    (withoutNames v).child? step = (v.child? step).map withoutNames := by
  cases v with
  | null => cases step <;> rfl
  | bool b => cases step <;> rfl
  | num n => cases step <;> rfl
  | str s => cases step <;> rfl
  | arr items =>
      cases step with
      | key k => rfl
      | index i => rw [withoutNames_arr, Value.child?, Value.child?, List.getElem?_map]
  | obj entries =>
      cases step with
      | index i => rfl
      | key k =>
          rw [withoutNames]
          exact lookup_entriesWithoutNames fun name => h (congrArg Value.Step.key name)

/-- **A path that passes through no name leads to what it led to**, cleaned. -/
theorem at?_withoutNames {v : Value} {path : List Value.Step} (h : ¬ v.PassesName path) :
    (withoutNames v).at? path = (v.at? path).map withoutNames := by
  induction path generalizing v with
  | nil => rfl
  | cons step path ih =>
      have down : (withoutNames v).child? step = (v.child? step).map withoutNames := by
        refine child?_withoutNames ?_
        rintro rfl
        exact Value.child?_of_not_passesName h
      rw [Value.at?, Value.at?, down]
      cases child : v.child? step with
      | none => rfl
      | some u => exact ih (Value.not_passesName_of_cons h child)

/-- **Conditions lose their names and nothing else**: the cleaned condition has no names, cleaning it
    again changes nothing, a path that passes through no name leads in it to the cleaned value that the
    path led to (a mapping keeps the order of its other keys, a list its length), and a condition
    without names stays as it is. -/
theorem withoutNames_drops (v : Value) :
    (withoutNames v).Nameless ∧
      withoutNames (withoutNames v) = withoutNames v ∧
      (∀ path, ¬ v.PassesName path →
        (withoutNames v).at? path = (v.at? path).map withoutNames ∧
        (∀ entries, v.at? path = some (.obj entries) →
          ∃ cleaned, (withoutNames v).at? path = some (.obj cleaned) ∧
            cleaned.map Prod.fst = (entries.filter fun e => !isName e).map Prod.fst) ∧
        (∀ items, v.at? path = some (.arr items) →
          ∃ cleaned, (withoutNames v).at? path = some (.arr cleaned) ∧
            cleaned.length = items.length)) ∧
      (v.Nameless → withoutNames v = v) := by
  refine ⟨nameless_withoutNames v, withoutNames_of_nameless (nameless_withoutNames v),
    fun path passed => ⟨at?_withoutNames passed, fun entries found => ?_, fun items found => ?_⟩,
    withoutNames_of_nameless⟩
  · refine ⟨_, by rw [at?_withoutNames passed, found, Option.map_some, withoutNames_obj], ?_⟩
    rw [List.map_map]
    rfl
  · exact ⟨_, by rw [at?_withoutNames passed, found, Option.map_some, withoutNames_arr],
      List.length_map _⟩

/-- A slot may be called `name`: its condition stays, without the name that repeats that of the slot. -/
example : withoutNames (.obj [("name", .str "tall"), ("any_of", .arr [.obj
      [("name", .obj [("range", .str "string"), ("name", .str "name")])]])]) =
    .obj [("any_of", .arr [.obj [("name", .obj [("range", .str "string")])]])] := rfl

end SchemaPages
