import SchemaPages.Decimal.Width
import SchemaPages.Data.Json.Printer
import SchemaPages.Text.Quoted
/-!
# Reading values into types

A reader takes a value to a type or says why it cannot. A record is read from a mapping, entry by
entry in the order of the mapping, or from a list that gives its fields in order; what is not given
keeps its default.

* `DecodeError` and its `message`;
* readers of texts, switches, whole numbers, numbers and choices;
* `Field`, `record`: records by a table of their fields.
-/

namespace SchemaPages

/-- Why a value does not fit a type. -/
inductive DecodeError where
  /-- A value of another kind than wanted. -/
  | wrongType (found : Value) (wanted : String)
  /-- A number out of range. -/
  | outOfRange (found : Int) (wanted : String)
  /-- A choice that does not exist. -/
  | unknownChoice (name : String) (choices : List String)
  /-- A choice in a mapping that has not exactly one key. -/
  | notSingleKey
  /-- A list with more items than a record has fields. -/
  | tooManyItems (length : Nat)
  /-- A field that is given twice. -/
  | repeatedField (key : String)
  /-- Neither a text nor a list of texts. -/
  | notTexts (found : Value)
  /-- Neither a mapping of definitions nor a list of them. -/
  | notDefinitions (found : Value)
  /-- A definition in a list has no name. -/
  | unnamed
  /-- No mapping of prefixes. -/
  | notPrefixes (found : Value)
  /-- A prefix declared by a mapping that lacks its expansion. -/
  | noExpansion (key : String)
  /-- A prefix with an expansion that is neither text nor mapping. -/
  | badExpansion (key : String) (found : Value)
  deriving Repr

/-- The name of a value in messages. -/
def Value.kindText : Value → String
  | .null => "null"
  | .bool b => "boolean \x60" ++ (if b then "true" else "false") ++ "\x60"
  | .num (.int i) => "integer \x60" ++ toString i ++ "\x60"
  | .num (.float bits) => "floating point \x60" ++ Json.numberText (.float bits) ++ "\x60"
  | .str s => "string " ++ Text.quoted s
  | .arr _ => "sequence"
  | .obj _ => "map"

/-- Names between grave accents, with commas between them. -/
def ticked : List String → String
  | [] => ""
  | [s] => "\x60" ++ s ++ "\x60"
  | s :: rest => "\x60" ++ s ++ "\x60, " ++ ticked rest

/-- The choices of an unknown name. -/
def choicesText : List String → String
  | [] => "there are no variants"
  | [a] => "expected \x60" ++ a ++ "\x60"
  | [a, b] => "expected \x60" ++ a ++ "\x60 or \x60" ++ b ++ "\x60"
  | choices => "expected one of " ++ ticked choices

/-- The message of an error. -/
def DecodeError.message : DecodeError → String
  | .wrongType found wanted => "invalid type: " ++ found.kindText ++ ", expected " ++ wanted
  | .outOfRange i wanted => "invalid value: integer \x60" ++ toString i ++ "\x60, expected " ++ wanted
  | .unknownChoice name choices => "unknown variant \x60" ++ name ++ "\x60, " ++ choicesText choices
  | .notSingleKey => "invalid value: map, expected map with a single key"
  | .tooManyItems n =>
    "invalid length " ++ toString n ++ ", expected fewer elements in array"
  | .repeatedField key => "duplicate field \x60" ++ key ++ "\x60"
  | .notTexts v => "expected a string or a list of strings, found " ++ Json.compact v
  | .notDefinitions v => "expected a mapping of named definitions, found " ++ Json.compact v
  | .unnamed => "list entries must declare a name"
  | .notPrefixes v => "expected a prefix mapping, found " ++ Json.compact v
  | .noExpansion key => "prefix '" ++ key ++ "' is missing prefix_reference"
  | .badExpansion key v => "invalid expansion for prefix '" ++ key ++ "': " ++ Json.compact v

/-- A reader of values of a type. -/
abbrev Reader (α : Type) := Value → Except DecodeError α

namespace Reader

/-- A text. -/
def text : Reader String
  | .str s => .ok s
  | v => .error (.wrongType v "a string")

/-- A path. -/
def path : Reader String
  | .str s => .ok s
  | v => .error (.wrongType v "path string")

/-- A switch. -/
def switch : Reader Bool
  | .bool b => .ok b
  | v => .error (.wrongType v "a boolean")

/-- A whole number of 64 bits with sign. -/
def whole : Reader Int
  | .num (.int i) =>
    if Decimal.fitsSigned 64 i then .ok i else .error (.outOfRange i "i64")
  | v => .error (.wrongType v "i64")

/-- A whole number of 64 bits without sign. -/
def natural : Reader Nat
  | .num (.int i) =>
    if Decimal.fitsUnsigned 64 i then .ok i.toNat else .error (.outOfRange i "u64")
  | v => .error (.wrongType v "u64")

/-- A number. -/
def number : Reader Number
  | .num n => .ok n
  | v => .error (.wrongType v "a JSON number")

/-- A document as it stands. -/
def document : Reader Value := .ok

/-- Something that `null` leaves out. -/
def optional {α : Type} (read : Reader α) : Reader (Option α)
  | .null => .ok none
  | v => (read v).map some

/-- One of the given names. A mapping of a single name to `null` stands for the name. -/
def choice {α : Type} (choices : List (String × α)) : Reader α
  | .str s => named s
  | .obj [(s, v)] => do
    let chosen ← named s
    match v with
    | .null => .ok chosen
    | v => .error (.wrongType v "unit")
  | .obj _ => .error .notSingleKey
  | v => .error (.wrongType v "string or map")
where
  /-- The choice of a name. -/
  named (s : String) : Except DecodeError α :=
    match choices.lookup s with
    | some a => .ok a
    | none => .error (.unknownChoice s (choices.map (·.1)))

/-- A text, a list of texts or nothing. Items that are no text stand for their compact form. -/
def texts : Reader (List String)
  | .null => .ok []
  | .str s => .ok [s]
  | .arr items => .ok (items.map fun
      | .str s => s
      | v => Json.compact v)
  | v => .error (.notTexts v)

/-- A list, or nothing. -/
def list {α : Type} (read : Reader α) : Reader (List α)
  | .null => .ok []
  | .arr items => items.mapM read
  | v => .error (.wrongType v "a sequence")

end Reader

/-- A field of a record: its key, and how a value for it changes the record. -/
structure Field (α : Type) where
  key : String
  assign : Value → α → Except DecodeError α

/-- A field with a reader and the change that it makes. -/
def field {α β : Type} (key : String) (read : Reader β) (put : β → α → α) : Field α where
  key := key
  assign v a := (read v).map fun b => put b a

namespace Reader

/-- A record read entry by entry. Keys that name no field are passed over. -/
def entries {α : Type} (fields : List (Field α)) : List (String × Value) → α → Except DecodeError α
  | [], a => .ok a
  | (k, v) :: rest, a => do
    let a ← match fields.find? (·.key == k) with
      | some f => f.assign v a
      | none => .ok a
    entries fields rest a

/-- A record read field by field from a list. -/
def positions {α : Type} : List (Field α) → List Value → α → Except DecodeError α
  | f :: fields, v :: rest, a => do
    let a ← f.assign v a
    positions fields rest a
  | _, _, a => .ok a

/-- A record with the given fields, in a type of the given name. -/
def record {α : Type} (name : String) (fields : List (Field α)) (empty : α) : Reader α
  | .obj es => entries fields es empty
  | .arr items => do
    let a ← positions fields items empty
    if fields.length < items.length then .error (.tooManyItems items.length) else .ok a
  | v => .error (.wrongType v ("struct " ++ name))

/-- The first of some keys that comes twice. -/
def repeated? (keys : List String) : List (String × Value) → Option String
  | [] => none
  | (k, _) :: rest => if k ∈ keys ∧ rest.any (·.1 == k) then some k else repeated? keys rest

/-- A record that gives no field twice. -/
def recordOnce {α : Type} (name : String) (fields : List (Field α)) (empty : α) : Reader α
  | .obj es =>
    match repeated? (fields.map Field.key) es with
    | some key => .error (.repeatedField key)
    | none => entries fields es empty
  | v => record name fields empty v

/-- A definition in a mapping: nothing stands for a bare name and a text for its description. A
definition without a name of its own takes its key. -/
def namedEntry {α : Type} (read : Reader α) (empty : α) (name : α → String) (rename : String → α → α)
    (key : String) (v : Value) : Except DecodeError α := do
  let a ← match v with
    | .null => .ok empty
    | .str description => read (.obj [("description", .str description)])
    | v => read v
  return if name a = "" then rename key a else a

/-- A definition in a list, which has to have a name. -/
def namedItem {α : Type} (read : Reader α) (name : α → String) (v : Value) : Except DecodeError α := do
  let a ← read v
  if name a = "" then .error .unnamed else .ok a

/-- Definitions by name, or in a list, or none. -/
def definitions {α : Type} (read : Reader α) (empty : α) (name : α → String)
    (rename : String → α → α) : Reader (List α)
  | .null => .ok []
  | .obj es => es.mapM fun (key, v) => namedEntry read empty name rename key v
  | .arr items => items.mapM (namedItem read name)
  | v => .error (.notDefinitions v)

/-- The expansion of a prefix: a text, or a mapping that holds it. -/
def expansion (key : String) : Reader String
  | .str s => .ok s
  | .obj es =>
    match (es.lookup "prefix_reference").bind Value.asText? with
    | some s => .ok s
    | none => .error (.noExpansion key)
  | v => .error (.badExpansion key v)

/-- Prefixes with their expansions, sorted by prefix. -/
def expansions : Reader (List (String × String))
  | .null => .ok []
  | .obj es => es.foldlM (fun found (key, v) =>
      (expansion key v).map fun e => insertSorted key e found) []
  | v => .error (.notPrefixes v)

end Reader

end SchemaPages
