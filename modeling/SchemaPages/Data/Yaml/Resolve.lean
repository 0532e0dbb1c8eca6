import SchemaPages.Decimal.Width
import SchemaPages.Data.Yaml.Node
import SchemaPages.Data.Json.Printer
import SchemaPages.Text.Split
/-!
# What scalars mean

A plain scalar is null, a truth value or a number if it is spelled like one, and text otherwise. A
tag may demand one of these.

* `resolve`: the meaning of a plain scalar;
* `Content`: a document whose scalars have their meaning;
* `Content.toValue?`: a document as a value, which needs keys that are texts or can be written so.
-/

namespace SchemaPages.Yaml

/-- A document whose scalars have their meaning. Tags that are not resolved stay. -/
inductive Content where
  | null
  | bool (b : Bool)
  | int (i : Int)
  | float (bits : UInt64)
  | text (s : String)
  | list (items : List Content)
  | mapping (entries : List (Content × Content))
  | tagged (tag : String) (content : Content)
  deriving Repr

/-! ## 1. Spellings -/

/-- Whether a text spells null. -/
def spellsNull (s : String) : Bool := ["null", "Null", "NULL", "~"].contains s

/-- The truth value that a text spells. -/
def bool? (s : String) : Option Bool :=
  if ["true", "True", "TRUE"].contains s then some true
  else if ["false", "False", "FALSE"].contains s then some false
  else none

/-- The value of a digit in a base up to sixteen. -/
def digitIn? (base : Nat) (c : Char) : Option Nat :=
  (hexValue? c).filter (· < base)

/-- The number of digits in a base; there has to be one. -/
def digits? (base : Nat) (cs : List Char) : Option Nat :=
  if cs = [] then none
  else cs.foldlM (fun n c => (digitIn? base c).map (n * base + ·)) 0

/-- The bases that a number may announce. -/
def bases : List (List Char × Nat) := [("0x".toList, 16), ("0o".toList, 8), ("0b".toList, 2)]

/-- Whether digits begin with a zero that a number would not have. -/
def zeroPadded (cs : List Char) : Bool :=
  let cs := match cs with
    | '-' :: rest => rest
    | '+' :: rest => rest
    | cs => cs
  match cs with
  | '0' :: rest => rest ≠ [] && rest.all Char.isDigit
  | _ => false

/-- The digits behind the announcement of their base. -/
def basedDigits? (cs : List Char) : Option Nat :=
  bases.findSome? fun (start, base) =>
    if start.isPrefixOf cs then digits? base (cs.drop 2) else none

/-- The number behind a sign. -/
def magnitude? (cs : List Char) : Option Nat :=
  (basedDigits? cs).or (if zeroPadded cs then none else digits? 10 cs)

/-- The whole number that a text spells, of any size. -/
def int? (s : String) : Option Int :=
  match s.toList with
  | '-' :: rest => (magnitude? rest).map fun n => -(Int.ofNat n)
  | '+' :: rest => (magnitude? rest).map Int.ofNat
  | cs => (magnitude? cs).map Int.ofNat

/-- Digits with at most one point among them: the digits, and how many stand behind the point. -/
def pointed? (cs : List Char) : Option (List Char × Nat) :=
  let whole := cs.takeWhile Char.isDigit
  match cs.drop whole.length with
  | [] => if whole = [] then none else some (whole, 0)
  | '.' :: fraction =>
    if fraction.all Char.isDigit ∧ whole ++ fraction ≠ [] then some (whole ++ fraction, fraction.length)
    else none
  | _ => none

/-- The exponent of a number, with a sign or without. -/
def exponent? (cs : List Char) : Option Int :=
  match cs with
  | '-' :: rest => (digits? 10 rest).map fun n => -(Int.ofNat n)
  | '+' :: rest => (digits? 10 rest).map Int.ofNat
  | cs => (digits? 10 cs).map Int.ofNat

/-- The bits of the double nearest to a decimal text. -/
def decimal? (cs : List Char) : Option UInt64 := do
  let (negative, cs) := match cs with
    | '-' :: rest => (true, rest)
    | '+' :: rest => (false, rest)
    | cs => (false, cs)
  let mantissa := cs.takeWhile fun c => c != 'e' && c != 'E'
  let (digits, places) ← pointed? mantissa
  let exponent ← match cs.drop mantissa.length with
    | [] => some 0
    | _ :: rest => exponent? rest
  let bits := Decimal.nearest (← digits? 10 digits) (exponent - places)
  return if negative then bits ||| 0x8000000000000000 else bits

/-- The bits of a quiet not-a-number. -/
def nanBits : UInt64 := 0x7FF8000000000000

/-- The bits of the double that a text spells. What is too large for a double is no number. -/
def float? (s : String) : Option UInt64 := do
  let unsigned := match s.toList with
    | '+' :: rest => rest
    | cs => cs
  if s.toList.head? = some '+' ∧ (unsigned.head? = some '+' ∨ unsigned.head? = some '-') then none
  let text := String.ofList unsigned
  if [".inf", ".Inf", ".INF"].contains text then return Decimal.infinityBits
  if ["-.inf", "-.Inf", "-.INF"].contains s then return Decimal.infinityBits ||| 0x8000000000000000
  if [".nan", ".NaN", ".NAN"].contains s then return nanBits
  (decimal? unsigned).filter Decimal.isFinite

/-! ## 2. Scalars -/

/-- A whole number as content: one of 64 bits, or one too large for 128 bits, which is taken for a
double if it is one. -/
def ofInt (i : Int) : Except SyntaxError Content :=
  if Decimal.fitsSigned 64 i || Decimal.fitsUnsigned 64 i then .ok (.int i) else .error .numberTooLarge

/-- Whether a whole number has 128 bits at most. -/
def isWide (i : Int) : Bool := Decimal.fitsSigned 128 i || Decimal.fitsUnsigned 128 i

/-- The meaning of a plain scalar. -/
def resolve (s : String) : Except SyntaxError Content :=
  if s = "" ∨ spellsNull s then .ok .null
  else match bool? s with
    | some b => .ok (.bool b)
    | none =>
      match (int? s).filter isWide with
      | some i => ofInt i
      | none =>
        match if zeroPadded s.toList then none else float? s with
        | some bits => .ok (.float bits)
        | none => .ok (.text s)

/-- The tag of a word of the core vocabulary. -/
def coreTag (word : String) : String := "tag:yaml.org,2002:" ++ word

/-- The meaning of a scalar that a core tag demands. -/
def demanded (tag s : String) : Except SyntaxError (Option Content) :=
  let mismatch : Except SyntaxError (Option Content) := .error (.tagMismatch tag)
  if tag = coreTag "bool" then
    match bool? s with
    | some b => .ok (some (.bool b))
    | none => mismatch
  else if tag = coreTag "int" then
    match (int? s).filter isWide with
    | some i => (ofInt i).map some
    | none => mismatch
  else if tag = coreTag "float" then
    match float? s with
    | some bits => .ok (some (.float bits))
    | none => mismatch
  else if tag = coreTag "null" then
    if spellsNull s then .ok (some .null) else mismatch
  else .ok none

/-- The name of a local tag, which stays with what it marks. -/
def localTag? : Option String → Option String
  | some tag => Text.dropStart? "!" tag
  | none => none

/-- The meaning of a scalar. Under a tag that is not known a scalar is text. -/
def scalarContent (tag : Option String) (style : ScalarStyle) (s : String) :
    Except SyntaxError Content := do
  let plain (s : String) : Except SyntaxError Content :=
    if style = .plain then resolve s else .ok (.text s)
  match tag with
  | none => plain s
  | some t =>
    match localTag? tag with
    | some "" => throw .badTag
    | some name => return .tagged name (← plain s)
    | none =>
      match ← demanded t s with
      | some c => return c
      | none => return .text s

/-- Content under the tag of a list or mapping. -/
def underTag (tag : Option String) (c : Content) : Except SyntaxError Content :=
  match localTag? tag with
  | some "" => .error .badTag
  | some name => .ok (.tagged name c)
  | none => .ok c

/-! ## 3. Documents -/

mutual

/-- A text that equal contents share, and only those. The order of a mapping does not count. -/
def Content.fingerprint : Content → String
  | .null => "n"
  | .bool b => if b then "t" else "f"
  | .int i => "i" ++ toString i
  | .float bits =>
    if bits = 0x8000000000000000 then "d0"
    else if Decimal.isFinite bits ∨ bits <<< 12 = 0 then "d" ++ toString bits.toNat else "dn"
  | .text s => Json.quote s
  | .list items => "[" ++ Text.join "," (fingerprints items) ++ "]"
  | .mapping entries =>
    "<" ++ Text.join "," ((pairFingerprints entries).mergeSort fun a b => decide (a ≤ b)) ++ ">"
  | .tagged tag c => "!" ++ Json.quote tag ++ c.fingerprint

/-- The fingerprints of items. -/
def fingerprints : List Content → List String
  | [] => []
  | c :: rest => c.fingerprint :: fingerprints rest

/-- The fingerprints of entries. -/
def pairFingerprints : List (Content × Content) → List String
  | [] => []
  | (k, v) :: rest => (k.fingerprint ++ ":" ++ v.fingerprint) :: pairFingerprints rest

end

mutual

/-- The content of a node. No two keys of a mapping are equal. -/
def Node.content? : Node → Except SyntaxError Content
  | .scalar tag style s => scalarContent tag style s
  | .list tag items => do underTag tag (.list (← contents items))
  | .mapping tag entries => do underTag tag (.mapping (← pairContents [] entries))

/-- The contents of items. -/
def contents : List Node → Except SyntaxError (List Content)
  | [] => .ok []
  | n :: rest => do return (← n.content?) :: (← contents rest)

/-- The contents of entries, given the fingerprints of the keys before them. -/
def pairContents (seen : List String) :
    List (Node × Node) → Except SyntaxError (List (Content × Content))
  | [] => .ok []
  | (k, v) :: rest => do
    let k ← k.content?
    if k.fingerprint ∈ seen then throw .duplicateKey
    let v ← v.content?
    return (k, v) :: (← pairContents (k.fingerprint :: seen) rest)

end

/-- The text of a key, which is a text, a truth value or a finite number. -/
def Content.key? : Content → Option String
  | .text s => some s
  | .bool b => some (if b then "true" else "false")
  | .int i => some (toString i)
  | .float bits => if Decimal.isFinite bits then some (Json.numberText (.float bits)) else none
  | _ => none

mutual

/-- The value of a document, if its keys can be written as texts. Of keys with one text the last
counts; a number that is not finite is null. -/
def Content.toValue? : Content → Option Value
  | .null => some .null
  | .bool b => some (.bool b)
  | .int i => some (.num (.int i))
  | .float bits => some (if Decimal.isFinite bits then .num (.float bits) else .null)
  | .text s => some (.str s)
  | .list items => (values? items).map .arr
  | .mapping entries => (pairValues? [] entries).map .obj
  | .tagged tag c => c.toValue?.map fun v => .obj [("!" ++ tag, v)]

/-- The values of items. -/
def values? : List Content → Option (List Value)
  | [] => some []
  | c :: rest => do return (← c.toValue?) :: (← values? rest)

/-- The values of entries, added to those before them. -/
def pairValues? (found : List (String × Value)) :
    List (Content × Content) → Option (List (String × Value))
  | [] => some found
  | (k, v) :: rest => do
    let key ← k.key?
    let v ← v.toValue?
    pairValues? (insertEntry key v found) rest

end

/-- Why a text has no value. -/
inductive ReadError where
  | syntaxError (e : SyntaxError)
  /-- A key that cannot be written as a text. -/
  | badKey
  deriving DecidableEq, Repr

/-- The value of a text; a text without a document is null. -/
def read (text : String) : Except ReadError Value := do
  match ← (Node.read? text).mapError .syntaxError with
  | none => return .null
  | some node =>
    let content ← node.content?.mapError .syntaxError
    match content.toValue? with
    | some v => return v
    | none => throw .badKey

end SchemaPages.Yaml
