import SchemaPages.Data.Value
/-!
# Documents of two levels

Tables under headings, and in each table entries whose values have no parts.

* `insertEntry_of_fresh`: entries that are added;
* `Value.Flat`: values that have a line of their own, or none if they are not set;
* `Value.ofTables`: the value of tables under their headings.
-/

namespace SchemaPages

/-- What is not there is added at the end. -/
theorem insertEntry_of_fresh {α : Type} {key : String} {l : List (String × α)}
    (fresh : key ∉ l.map Prod.fst) (a : α) : insertEntry key a l = l ++ [(key, a)] := by
  induction l with
  | nil => rfl
  | cons e l ih =>
      obtain ⟨other, not_later⟩ := List.ne_and_not_mem_of_not_mem_cons fresh
      rw [insertEntry, if_neg other.symm, ih not_later, List.cons_append]

namespace Value

/-- **A value that has a line of its own**, or none if it is not set. -/
def Flat : Value → Prop
  | .null => True
  | .bool _ => True
  | .str _ => True
  | _ => False

@[simp] theorem flat_null : Flat .null := trivial
@[simp] theorem flat_bool (b : Bool) : Flat (.bool b) := trivial
@[simp] theorem flat_str (s : String) : Flat (.str s) := trivial

/-- The value of tables under their headings. -/
def ofTables (tables : List (String × List (String × Value))) : Value :=
  .obj (tables.map fun t => (t.1, .obj t.2))

end Value

end SchemaPages
