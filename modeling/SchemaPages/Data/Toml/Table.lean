import SchemaPages.Data.Value
/-!
# TOML tables

A document is put together line by line. A table may be opened by its own heading, on the way to
another heading, or on the way to a dotted key, and these ways do not mix.

* `Item`, `Table`: a document while it is read;
* `Table.put`, `Table.openTable`, `Table.openListed`: what the lines of a document do;
* `Table.toValue`.
-/

namespace SchemaPages.Toml

/-- How a table came about. -/
inductive Origin where
  /-- By a heading of its own, by braces, or as the whole document. -/
  | heading
  /-- On the way to another heading. -/
  | way
  /-- On the way to a dotted key. -/
  | dotted
  deriving DecidableEq, Repr

/-- What stands behind a key. -/
inductive Item where
  | value (v : Value)
  | table (origin : Origin) (entries : List (String × Item))
  /-- The tables of a repeated heading, latest first. -/
  | tables (items : List (List (String × Item)))
  deriving Repr, Inhabited

/-- A table. -/
structure Table where
  origin : Origin := .heading
  entries : List (String × Item) := []
  deriving Repr, Inhabited

/-! ## 1. Values -/

mutual

/-- An item as a value. -/
def Item.toValue : Item → Value
  | .value v => v
  | .table _ entries => .obj (entryValues entries)
  | .tables items => .arr (tableValues items).reverse

/-- The entries of a table as values. -/
def entryValues : List (String × Item) → List (String × Value)
  | [] => []
  | (key, item) :: rest => (key, item.toValue) :: entryValues rest

/-- Tables as values. -/
def tableValues : List (List (String × Item)) → List Value
  | [] => []
  | entries :: rest => .obj (entryValues entries) :: tableValues rest

end

namespace Table

/-- A table as a value. -/
def toValue (t : Table) : Value := .obj (entryValues t.entries)

/-! ## 2. Changes -/

/-- The table with an item behind a key, new or in place of another. -/
def withItem (t : Table) (key : String) (item : Item) : Table :=
  { t with entries := insertEntry key item t.entries }

/-- Changes the table at the end of a way, and makes the tables on the way that are missing. A dotted
key does not lead into a table with a heading. -/
def changeAt (dotted : Bool) (change : Table → Option Table) : List String → Table → Option Table
  | [], t => change t
  | key :: rest, t =>
    match t.entries.lookup key with
    | none => do
      let inner ← changeAt dotted change rest { origin := if dotted then .dotted else .way }
      return t.withItem key (.table inner.origin inner.entries)
    | some (.table origin entries) => do
      if dotted ∧ origin = .heading then none
      let inner ← changeAt dotted change rest { origin, entries }
      return t.withItem key (.table inner.origin inner.entries)
    | some (.tables (latest :: before)) => do
      let inner ← changeAt dotted change rest { entries := latest }
      return t.withItem key (.tables (inner.entries :: before))
    | some _ => none

/-- Puts a value behind a key that is not there yet. Behind a dotted key it has to go into a table
that dotted keys have made. -/
def put (way : List String) (key : String) (v : Value) : Table → Option Table :=
  changeAt true (fun t =>
    if (t.origin = .dotted) = (way = []) ∨ (t.entries.lookup key).isSome then none
    else some (t.withItem key (.value v))) way

/-- Opens the table of a heading, which has no other heading. -/
def openTable (way : List String) (key : String) : Table → Option Table :=
  changeAt false (fun t =>
    match t.entries.lookup key with
    | none => some (t.withItem key (.table .heading []))
    | some (.table .way entries) => some (t.withItem key (.table .heading entries))
    | some _ => none) way

/-- Opens one more table of a repeated heading. -/
def openListed (way : List String) (key : String) : Table → Option Table :=
  changeAt false (fun t =>
    match t.entries.lookup key with
    | none => some (t.withItem key (.tables [[]]))
    | some (.tables items) => some (t.withItem key (.tables ([] :: items)))
    | some _ => none) way

end Table

end SchemaPages.Toml
