import SchemaPages.Decimal.Notation
/-!
# Values

The tree that every document is read into, whatever its format, and that every page is shown to
its template as. Mappings keep the order of their keys.

* `Number`, `Value`;
* `Value.get?`: an entry of a mapping;
* `insertEntry`: adds an entry at the end, or replaces the value of a key that is present.
-/

namespace SchemaPages

/-- A number: a whole number, or the bits of a finite double. -/
inductive Number where
  | int (i : Int)
  | float (bits : UInt64)
  deriving DecidableEq, Repr

/-- A document. -/
inductive Value where
  | null
  | bool (b : Bool)
  | num (n : Number)
  | str (s : String)
  | arr (items : List Value)
  | obj (entries : List (String × Value))
  deriving Repr, Inhabited

/-- Adds an entry at the end, or gives a key that is present a new value in its place. -/
def insertEntry {κ α : Type} [DecidableEq κ] (key : κ) (value : α) : List (κ × α) → List (κ × α)
  | [] => [(key, value)]
  | (k, v) :: rest => if k = key then (k, value) :: rest else (k, v) :: insertEntry key value rest

@[simp] theorem lookup_insertEntry {κ α : Type} [BEq κ] [LawfulBEq κ] [DecidableEq κ] (key : κ)
    (value : α) (l : List (κ × α)) : (insertEntry key value l).lookup key = some value := by
  induction l with
  | nil => simp [insertEntry]
  | cons e rest ih =>
    obtain ⟨k, v⟩ := e
    by_cases h : k = key
    · simp [insertEntry, h]
    · have h' : (key == k) = false := by simpa using fun e => h e.symm
      simp [insertEntry, h, List.lookup_cons, h', ih]

theorem lookup_insertEntry_of_ne {κ α : Type} [BEq κ] [LawfulBEq κ] [DecidableEq κ]
    {key other : κ} (value : α) (l : List (κ × α)) (h : other ≠ key) :
    (insertEntry key value l).lookup other = l.lookup other := by
  have hb : (other == key) = false := by simpa using h
  induction l with
  | nil => simp [insertEntry, List.lookup_cons, hb]
  | cons e rest ih =>
    obtain ⟨k, v⟩ := e
    by_cases hk : k = key
    · simp [insertEntry, hk, List.lookup_cons, hb]
    · simp [insertEntry, hk, List.lookup_cons, ih]

/-- What is inserted twice is there once, as it was inserted last. -/
theorem insertEntry_insertEntry {κ α : Type} [DecidableEq κ] (key : κ) (a b : α) (l : List (κ × α)) :
    insertEntry key b (insertEntry key a l) = insertEntry key b l := by
  induction l with
  | nil => exact if_pos rfl
  | cons e rest ih =>
    obtain ⟨k, v⟩ := e
    by_cases here : k = key
    · simp only [insertEntry, if_pos here]
    · simp only [insertEntry, if_neg here, ih]

/-- Adds an entry to a list sorted by key, or replaces the value of a key that is present. -/
def insertSorted {α : Type} (key : String) (value : α) : List (String × α) → List (String × α)
  | [] => [(key, value)]
  | (k, v) :: rest =>
    if k = key then (k, value) :: rest
    else if key < k then (key, value) :: (k, v) :: rest
    else (k, v) :: insertSorted key value rest

namespace Value

/-- The value of a key, in a mapping. -/
def get? (key : String) : Value → Option Value
  | .obj entries => entries.lookup key
  | _ => none

/-- The text of a string. -/
def asText? : Value → Option String
  | .str s => some s
  | _ => none

/-- Whether the value is a string. -/
def isText : Value → Bool
  | .str _ => true
  | _ => false

/-- Whether the value is `null`. -/
def isNull : Value → Bool
  | .null => true
  | _ => false

/-- A text, or `null` for none. -/
def ofText? : Option String → Value
  | some s => .str s
  | none => .null

/-- A list of texts. -/
def ofTexts (texts : List String) : Value := .arr (texts.map .str)

/-- A natural number. -/
def ofNat (n : Nat) : Value := .num (.int n)

end Value

end SchemaPages
