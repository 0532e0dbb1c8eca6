import SchemaPages.Template.Filter
/-!
# Templates

A template is a list of parts that a page fills in.

* `Part`;
* `render`: the text of a template with the given names, unless a part asks for something that is
  not there.
-/

namespace SchemaPages.Template

/-- The way to a value: a name, then keys of mappings or numbers of items. -/
abbrev Way := List String

/-- A part of a template. -/
inductive Part where
  | text (s : String)
  /-- A value behind some filters. -/
  | value (way : Way) (filters : List Filter)
  /-- The first list of parts if one of some values is true, the second one otherwise. -/
  | ifAny (ways : List Way) (yes no : List Part)
  /-- Parts for each item of a list, which has a name in them. -/
  | forEach (name : String) (way : Way) (parts : List Part)
  /-- Parts as often as a number says. -/
  | repeated (way : Way) (parts : List Part)
  deriving Repr

/-- Why a template cannot be rendered. -/
inductive RenderError where
  /-- There is no such value. -/
  | noValue (way : Way)
  /-- A filter does not take the value. -/
  | badFilter (filter : Filter)
  /-- The value is no list. -/
  | noList (way : Way)
  /-- The value is no natural number. -/
  | noCount (way : Way)
  deriving DecidableEq, Repr

/-- The names that a template can use, with their values. -/
abbrev Names := List (String × Value)

/-- The value of a key or number. -/
def step (v : Value) (key : String) : Option Value :=
  match v with
  | .obj entries => entries.lookup key
  | .arr items => key.toNat?.bind fun n => items[n]?
  | _ => none

/-- The value at the end of a way. -/
def find? (names : Names) : Way → Option Value
  | [] => none
  | name :: keys => (names.lookup name).bind fun v => keys.foldlM step v

/-- Whether a value counts as true: it is neither empty, nor zero, nor false. -/
def isTrue : Value → Bool
  | .null => false
  | .bool b => b
  | .num (.int i) => i ≠ 0
  | .num (.float bits) => bits <<< 1 ≠ 0
  | .str s => s ≠ ""
  | .arr items => !items.isEmpty
  | .obj entries => !entries.isEmpty

/-- Whether there is a true value at the end of a way. -/
def holds (names : Names) (way : Way) : Bool := (find? names way).any isTrue

/-- Applies filters one after the other. -/
def applyFilters (short : Bool) : List Filter → Value → Except RenderError Value
  | [], v => .ok v
  | f :: rest, v =>
    match f.apply short v with
    | some v => applyFilters short rest v
    | none => .error (.badFilter f)

/-- The items of the list at the end of a way. -/
def itemsAt (names : Names) (way : Way) : Except RenderError (List Value) :=
  match find? names way with
  | some (.arr items) => .ok items
  | some _ => .error (.noList way)
  | none => .error (.noValue way)

/-- The number at the end of a way. -/
def countAt (names : Names) (way : Way) : Except RenderError Nat :=
  match find? names way with
  | some (.num (.int i)) => if i < 0 then .error (.noCount way) else .ok i.toNat
  | some _ => .error (.noCount way)
  | none => .error (.noValue way)

/-- The shown value at the end of a way, behind filters. -/
def valueAt (short : Bool) (names : Names) (way : Way) (filters : List Filter) :
    Except RenderError String :=
  match find? names way with
  | some v => (applyFilters short filters v).map showValue
  | none => .error (.noValue way)

mutual

/-- The text of a part. -/
def renderPart (short : Bool) (names : Names) : Part → Except RenderError String
  | .text s => .ok s
  | .value way filters => valueAt short names way filters
  | .ifAny ways yes no =>
    if ways.any (holds names) then render short names yes else render short names no
  | .forEach name way parts => do
    let texts ← (← itemsAt names way).mapM fun v => render short ((name, v) :: names) parts
    return String.join texts
  | .repeated way parts => do
    let n ← countAt names way
    if n = 0 then return ""
    let text ← render short names parts
    return String.join (List.replicate n text)

/-- The text of parts. -/
def render (short : Bool) (names : Names) : List Part → Except RenderError String
  | [] => .ok ""
  | p :: rest => do
    let text ← renderPart short names p
    return text ++ (← render short names rest)

end

end SchemaPages.Template
