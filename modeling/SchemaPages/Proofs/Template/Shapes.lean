import SchemaPages.Template.Render
/-!
# Shapes of values

A shape says what kind of value stands where. A template is admitted for names of some shapes if it
asks them for nothing that they do not hold, and for nothing of another kind than they hold it in. An
admitted template has a text, whatever the values are.

* `Shape`, `Fits`, `FieldsFit`: values of a shape, and records field by field;
* `shapeAt?`, `Filter.shape?`: shapes at the end of a way and behind a filter;
* `Part.admitted`, `partsAdmitted`: templates that ask for nothing that is not there;
* `render_ok`: an admitted template has a text.
-/

namespace SchemaPages.Template

/-- What kind of value something is. -/
inductive Shape where
  | text
  /-- A text, or nothing. -/
  | option
  | switch
  | count
  | list (item : Shape)
  | record (fields : List (String × Shape))
  deriving Repr

mutual

/-- **A value has a shape.** -/
inductive Fits : Value → Shape → Prop where
  | text (s : String) : Fits (.str s) .text
  | some (s : String) : Fits (.str s) .option
  | none : Fits .null .option
  | switch (b : Bool) : Fits (.bool b) .switch
  | count (n : Nat) : Fits (.num (.int n)) .count
  | list {items : List Value} {item : Shape} (h : ∀ v ∈ items, Fits v item) :
      Fits (.arr items) (.list item)
  | record {entries : List (String × Value)} {fields : List (String × Shape)}
      (h : FieldsFit entries fields) : Fits (.obj entries) (.record fields)

/-- **Entries have the shapes of fields**, key by key and in the same order. -/
inductive FieldsFit : List (String × Value) → List (String × Shape) → Prop where
  | nil : FieldsFit [] []
  | cons {key : String} {v : Value} {shape : Shape} {entries : List (String × Value)}
      {fields : List (String × Shape)} (h : Fits v shape) (later : FieldsFit entries fields) :
      FieldsFit ((key, v) :: entries) ((key, shape) :: fields)

end

/-! ## 1. Values and their shapes -/

section Values

variable {entries : List (String × Value)} {fields : List (String × Shape)}

@[simp] theorem fits_text (s : String) : Fits (.str s) .text := .text s

@[simp] theorem fits_switch (b : Bool) : Fits (.bool b) .switch := .switch b

@[simp] theorem fits_count (n : Nat) : Fits (.ofNat n) .count := .count n

@[simp] theorem fits_option (s : Option String) : Fits (.ofText? s) .option := by
  cases s with
  | none => exact .none
  | some s => exact .some s

@[simp] theorem fits_list_iff {items : List Value} {item : Shape} :
    Fits (.arr items) (.list item) ↔ ∀ v ∈ items, Fits v item := by
  constructor
  · rintro ⟨⟩
    assumption
  · exact .list

@[simp] theorem fits_record_iff : Fits (.obj entries) (.record fields) ↔ FieldsFit entries fields := by
  constructor
  · rintro ⟨⟩
    assumption
  · exact .record

@[simp] theorem fieldsFit_nil : FieldsFit [] [] := .nil

@[simp] theorem fieldsFit_cons_iff {key other : String} {v : Value} {shape : Shape} :
    FieldsFit ((key, v) :: entries) ((other, shape) :: fields) ↔
      key = other ∧ Fits v shape ∧ FieldsFit entries fields := by
  constructor
  · rintro ⟨⟩
    exact ⟨rfl, ‹_›, ‹_›⟩
  · rintro ⟨rfl, h, later⟩
    exact .cons h later

/-- **Where there is a field there is an entry**, and it has the shape of the field. -/
theorem exists_entry (h : FieldsFit entries fields) {key : String} {shape : Shape}
    (hf : fields.lookup key = some shape) : ∃ v, entries.lookup key = some v ∧ Fits v shape := by
  induction fields generalizing entries with
  | nil => cases hf
  | cons field fields ih =>
      cases h with
      | @cons name v _ entries _ fits later =>
          rw [List.lookup_cons] at hf ⊢
          cases same : key == name with
          | true =>
              rw [same] at hf
              cases hf
              exact ⟨v, rfl, fits⟩
          | false =>
              rw [same] at hf
              exact ih later hf

end Values

/-! ## 2. Ways and filters -/

/-- The shapes of the names that a template can use. -/
abbrev Context := List (String × Shape)

/-- The shape of a field of a record. -/
def Shape.field? : Shape → String → Option Shape
  | .record fields, key => fields.lookup key
  | _, _ => none

/-- The shape at the end of a way. -/
def shapeAt? (c : Context) : Way → Option Shape
  | [] => none
  | name :: keys => (c.lookup name).bind fun shape => keys.foldlM Shape.field? shape

/-- The shape behind a filter, if the filter takes values of a shape. -/
def Filter.shape? : Filter → Shape → Option Shape
  | .trim, .text => some .text
  | .trim, _ => none
  | .join _, .list _ => some .text
  | .join _, _ => none
  | .unknown _, _ => none
  | _, .text => some .text
  | _, .option => some .text
  | _, _ => none

section Ways

variable {names : Names} {c : Context} {v : Value} {shape found : Shape}

theorem step_ok (h : Fits v shape) {key : String} (hk : shape.field? key = some found) :
    ∃ w, step v key = some w ∧ Fits w found := by
  cases h with
  | record fields => exact exists_entry fields hk
  | _ => cases hk

/-- By induction on the keys, each of which leads to a value of a known shape. -/
theorem steps_ok (h : Fits v shape) {keys : List String}
    (hk : keys.foldlM Shape.field? shape = some found) :
    ∃ w, keys.foldlM step v = some w ∧ Fits w found := by
  induction keys generalizing v shape with
  | nil =>
      cases hk
      exact ⟨v, rfl, h⟩
  | cons key rest ih =>
      rw [List.foldlM_cons] at hk ⊢
      obtain ⟨next, first, later⟩ := Option.bind_eq_some_iff.mp hk
      obtain ⟨w, there, fits⟩ := step_ok h first
      rw [there]
      exact ih fits later

/-- **There is a value at the end of a way that has a shape.** -/
theorem find?_ok (h : FieldsFit names c) {way : Way} (hw : shapeAt? c way = some found) :
    ∃ v, find? names way = some v ∧ Fits v found := by
  cases way with
  | nil => cases hw
  | cons name keys =>
      obtain ⟨shape, first, later⟩ := Option.bind_eq_some_iff.mp hw
      obtain ⟨v, there, fits⟩ := exists_entry h first
      rw [find?, there]
      exact steps_ok fits later

/-- **A filter takes the values whose shape it takes.** -/
theorem apply_ok (short : Bool) {f : Filter} (h : Fits v shape) (hf : f.shape? shape = some found) :
    ∃ w, f.apply short v = some w ∧ Fits w found := by
  cases h <;> cases f <;> cases hf <;> exact ⟨_, rfl, .text _⟩

theorem applyFilters_ok (short : Bool) {filters : List Filter} (h : Fits v shape)
    (hf : filters.foldlM (fun s f => f.shape? s) shape = some found) :
    ∃ w, applyFilters short filters v = .ok w := by
  induction filters generalizing v shape with
  | nil => exact ⟨v, rfl⟩
  | cons f rest ih =>
      rw [List.foldlM_cons] at hf
      obtain ⟨next, first, later⟩ := Option.bind_eq_some_iff.mp hf
      obtain ⟨w, taken, fits⟩ := apply_ok short h first
      rw [applyFilters, taken]
      exact ih fits later

end Ways

/-! ## 3. Templates -/

mutual

/-- A part asks names of these shapes for nothing that is not there. What a condition asks for may be
    missing, which counts as false. -/
def Part.admitted (c : Context) : Part → Bool
  | .text _ => true
  | .value way filters =>
    ((shapeAt? c way).bind fun s => filters.foldlM (fun s f => f.shape? s) s).isSome
  | .ifAny _ yes no => partsAdmitted c yes && partsAdmitted c no
  | .forEach name way parts =>
    match shapeAt? c way with
    | some (.list item) => partsAdmitted ((name, item) :: c) parts
    | _ => false
  | .repeated way parts =>
    match shapeAt? c way with
    | some .count => partsAdmitted c parts
    | _ => false

/-- Parts that ask names of these shapes for nothing that is not there. -/
def partsAdmitted (c : Context) : List Part → Bool
  | [] => true
  | p :: rest => p.admitted c && partsAdmitted c rest

end

section Rendering

variable {names : Names} {c : Context}

theorem valueAt_ok (short : Bool) (h : FieldsFit names c) {way : Way} {filters : List Filter}
    (ha : (Part.value way filters).admitted c = true) :
    ∃ text, valueAt short names way filters = .ok text := by
  simp only [Part.admitted, Option.isSome_iff_exists] at ha
  obtain ⟨_, ha⟩ := ha
  obtain ⟨shape, first, later⟩ := Option.bind_eq_some_iff.mp ha
  obtain ⟨v, there, fits⟩ := find?_ok h first
  obtain ⟨w, filtered⟩ := applyFilters_ok short fits later
  unfold valueAt
  rw [there]
  dsimp only
  rw [filtered]
  exact ⟨_, rfl⟩

/-- Every item of a list of a known shape has that shape. -/
theorem itemsAt_ok (h : FieldsFit names c) {way : Way} {item : Shape}
    (hw : shapeAt? c way = some (.list item)) :
    ∃ items, itemsAt names way = .ok items ∧ ∀ v ∈ items, Fits v item := by
  obtain ⟨v, there, fits⟩ := find?_ok h hw
  cases fits with
  | @list items _ each =>
      unfold itemsAt
      rw [there]
      exact ⟨items, rfl, each⟩

theorem countAt_ok (h : FieldsFit names c) {way : Way} (hw : shapeAt? c way = some .count) :
    ∃ n, countAt names way = .ok n := by
  obtain ⟨v, there, fits⟩ := find?_ok h hw
  cases fits with
  | count n =>
      unfold countAt
      rw [there]
      exact ⟨_, if_neg (by omega)⟩

/-- Texts for all items, if there is one for each. -/
theorem mapM_ok {ε α β : Type} {f : α → Except ε β} {l : List α} (h : ∀ a ∈ l, ∃ b, f a = .ok b) :
    ∃ bs, l.mapM f = .ok bs := by
  induction l with
  | nil => exact ⟨[], rfl⟩
  | cons a rest ih =>
      obtain ⟨b, hb⟩ := h a List.mem_cons_self
      obtain ⟨bs, hbs⟩ := ih fun x hx => h x (List.mem_cons_of_mem _ hx)
      rw [List.mapM_cons, hb, hbs]
      exact ⟨b :: bs, rfl⟩

mutual

/-- An admitted part has a text; one case for each kind of part. -/
theorem renderPart_ok (short : Bool) {names : Names} {c : Context} (h : FieldsFit names c) :
    ∀ p : Part, p.admitted c = true → ∃ text, renderPart short names p = .ok text
  | .text s, _ => ⟨s, by rw [renderPart]⟩
  | .value way filters, ha => by
      rw [renderPart]
      exact valueAt_ok short h ha
  | .ifAny ways yes no, ha => by
      simp only [Part.admitted, Bool.and_eq_true] at ha
      rw [renderPart]
      split
      · exact render_ok short h yes ha.1
      · exact render_ok short h no ha.2
  | .forEach name way parts, ha => by
      simp only [Part.admitted] at ha
      split at ha
      · rename_i item hw
        obtain ⟨items, there, each⟩ := itemsAt_ok h hw
        have inner (v : Value) (hv : v ∈ items) : FieldsFit ((name, v) :: names) ((name, item) :: c) :=
          .cons (each v hv) h
        obtain ⟨texts, rendered⟩ := mapM_ok fun v hv => render_ok short (inner v hv) parts ha
        rw [renderPart, there]
        simp only [bind, Except.bind, rendered]
        exact ⟨_, rfl⟩
      · cases ha
  | .repeated way parts, ha => by
      simp only [Part.admitted] at ha
      split at ha
      · rename_i hw
        obtain ⟨n, there⟩ := countAt_ok h hw
        obtain ⟨text, rendered⟩ := render_ok short h parts ha
        rw [renderPart, there]
        simp only [bind, Except.bind, rendered]
        split
        · exact ⟨_, rfl⟩
        · exact ⟨_, rfl⟩
      · cases ha

/-- **An admitted template has a text.** -/
theorem render_ok (short : Bool) {names : Names} {c : Context} (h : FieldsFit names c) :
    ∀ parts : List Part, partsAdmitted c parts = true → ∃ text, render short names parts = .ok text
  | [], _ => ⟨"", by rw [render]⟩
  | p :: rest, ha => by
      simp only [partsAdmitted, Bool.and_eq_true] at ha
      obtain ⟨text, first⟩ := renderPart_ok short h p ha.1
      obtain ⟨later, others⟩ := render_ok short h rest ha.2
      rw [render, first]
      simp only [bind, Except.bind, others]
      exact ⟨_, rfl⟩

end

end Rendering

end SchemaPages.Template
