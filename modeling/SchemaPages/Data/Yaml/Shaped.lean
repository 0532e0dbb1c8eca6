import SchemaPages.Data.Yaml.Resolve
/-!
# Documents of a known shape

Where it is known what a document should hold, a scalar means what is wanted there: `directory: 5`
is a text where a text is wanted.

* `Shape`: what is wanted;
* `readShaped`: the value of a document for a shape. What does not fit stands for some value that
  does not fit either.
-/

namespace SchemaPages.Yaml

/-- What a part of a document should hold. -/
inductive Shape where
  | text
  /-- A text that may be left out by `null`. -/
  | optionalText
  /-- A name, which a tag may give too. -/
  | choice
  /-- A name that may be left out by `null`. -/
  | optionalChoice
  | switch
  | record (fields : List (String × Shape))
  deriving Repr, Inhabited

/-- A scalar that may leave out what is wanted. The tag of null demands that it does. -/
def unlessNull (tag : Option String) (style : ScalarStyle) (s : String) (otherwise : Value) : Value :=
  if style ≠ .plain then otherwise
  else if tag = some (coreTag "null") then (if spellsNull s then .null else .bool false)
  else if tag = none ∧ (s = "" ∨ spellsNull s) then .null
  else otherwise

/-- A name, as a scalar or as a tag without more. -/
def nameOf (tag : Option String) (style : ScalarStyle) (s : String) : Value :=
  match localTag? tag with
  | some "" => .null
  | some name => if style = .plain ∧ (s = "" ∨ spellsNull s) then .str name else .null
  | none => .str s

/-- A scalar where a shape is wanted. -/
def scalarAs (shape : Shape) (tag : Option String) (style : ScalarStyle) (s : String) : Value :=
  match shape with
  | .text => .str s
  | .optionalText => unlessNull tag style s (.str s)
  | .choice => nameOf tag style s
  | .optionalChoice => unlessNull tag style s (nameOf tag style s)
  | .switch =>
    match bool? s with
    | some b => if style = .plain then .bool b else .str s
    | none => .str s
  | .record _ => if style = .plain ∧ s = "" then .obj [] else .null

mutual

/-- A document where a shape is wanted. A record needs scalars as keys; what is behind other keys
than those of its fields does not count. -/
def Node.as (shape : Shape) : Node → Option Value
  | .scalar tag style s => some (scalarAs shape tag style s)
  | .list _ items =>
    match shape with
    | .record fields => (itemsAs (fields.map (·.2)) items).map .arr
    | _ => some (.arr [])
  | .mapping _ entries =>
    match shape with
    | .record fields => (entriesAs fields entries).map .obj
    | _ => some (.obj [])

/-- Items where shapes are wanted, one by one. -/
def itemsAs (shapes : List Shape) : List Node → Option (List Value)
  | [] => some []
  | n :: rest =>
    match shapes with
    | [] => do return .null :: (← itemsAs [] rest)
    | shape :: shapes => do return (← n.as shape) :: (← itemsAs shapes rest)

/-- Entries where fields are wanted. -/
def entriesAs (fields : List (String × Shape)) :
    List (Node × Node) → Option (List (String × Value))
  | [] => some []
  | (.scalar _ _ key, v) :: rest =>
    match fields.lookup key with
    | some shape => do return (key, ← v.as shape) :: (← entriesAs fields rest)
    | none => entriesAs fields rest
  | _ :: _ => none

end

/-- The value of a text for a shape; a text without a document is an empty record. -/
def readShaped (shape : Shape) (text : String) : Except ReadError Value := do
  match ← (Node.read? text).mapError .syntaxError with
  | none => return .obj []
  | some node =>
    match node.as shape with
    | some v => return v
    | none => throw .badKey

end SchemaPages.Yaml
