import SchemaPages.Data.Value
/-!
# Writing types as values

The entries of a record as lists that are joined: what is not set has no entry.
-/

namespace SchemaPages.Entry

/-- An entry that is always there. -/
def always (key : String) (v : Value) : List (String × Value) := [(key, v)]

/-- An entry for what is set. -/
def ifSome {α : Type} (key : String) (write : α → Value) : Option α → List (String × Value)
  | some a => [(key, write a)]
  | none => []

/-- An entry for a list that is not empty. -/
def ifAny {α : Type} (key : String) (write : α → Value) : List α → List (String × Value)
  | [] => []
  | l => [(key, .arr (l.map write))]

/-- An entry for a switch that is on. -/
def ifOn (key : String) : Bool → List (String × Value)
  | true => [(key, .bool true)]
  | false => []

/-- A text that is set. -/
def text? (key : String) : Option String → List (String × Value) := ifSome key .str

/-- A switch that is set. -/
def switch? (key : String) : Option Bool → List (String × Value) := ifSome key .bool

/-- A whole number that is set. -/
def whole? (key : String) : Option Int → List (String × Value) := ifSome key fun i => .num (.int i)

/-- A natural number that is set. -/
def natural? (key : String) : Option Nat → List (String × Value) := ifSome key .ofNat

/-- A number that is set. -/
def number? (key : String) : Option Number → List (String × Value) := ifSome key .num

/-- Texts that are not empty. -/
def texts (key : String) : List String → List (String × Value) := ifAny key .str

end SchemaPages.Entry
