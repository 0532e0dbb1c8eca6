import SchemaPages.Schema.Class
/-!
# Rules as rows of a table

* `withoutNames`: a condition without the names that only repeat those of elements;
* `RuleRow`: a rule with its conditions as texts.
-/

namespace SchemaPages

mutual

/-- A condition without the texts under the key `name`, at any depth. Anything else under that key
is a condition on a slot of that name and stays. -/
def withoutNames : Value → Value
  | .obj entries => .obj (entriesWithoutNames entries)
  | .arr items => .arr (itemsWithoutNames items)
  | v => v

/-- The entries of a condition without names. -/
def entriesWithoutNames : List (String × Value) → List (String × Value)
  | [] => []
  | (k, v) :: rest =>
    if k = "name" ∧ v.isText then entriesWithoutNames rest
    else (k, withoutNames v) :: entriesWithoutNames rest

/-- The items of a condition without names. -/
def itemsWithoutNames : List Value → List Value
  | [] => []
  | v :: rest => withoutNames v :: itemsWithoutNames rest

end

/-- A rule with its conditions as texts. -/
structure RuleRow where
  title : String
  description : Option String
  preconditions : Option String
  postconditions : Option String
  elseconditions : Option String
  deactivated : Bool
  deriving DecidableEq, Repr

namespace RuleRow

/-- A condition as text; `null` is none. -/
def conditionText (condition : Option Value) : Option String :=
  (condition.filter fun v => !v.isNull).map fun v => Json.compact (withoutNames v)

/-- The row of a rule. -/
def ofRule (r : Rule) : RuleRow where
  title := r.title.getD ""
  description := r.description
  preconditions := conditionText r.preconditions
  postconditions := conditionText r.postconditions
  elseconditions := conditionText r.elseconditions
  deactivated := r.deactivated

/-- A row as a value. -/
def toValue (r : RuleRow) : Value :=
  .obj
    [("title", .str r.title),
     ("description", .ofText? r.description),
     ("preconditions", .ofText? r.preconditions),
     ("postconditions", .ofText? r.postconditions),
     ("elseconditions", .ofText? r.elseconditions),
     ("deactivated", .bool r.deactivated)]

end RuleRow

/-- The rows of a class's rules. -/
def Class.ruleRows (c : Class) : List RuleRow := c.rules.map .ofRule

end SchemaPages
