import SchemaPages.Data.Toml.Scalar
/-!
# Writing TOML

A document of two levels: tables with a heading each, and lines with a key and a value.

* `textLiteral`: a text in the plainest way of quoting that holds it;
* `render`: a document.
-/

namespace SchemaPages.Toml

/-! ## 1. Texts -/

/-- The length of the longest run of a character, given the length of the run that ends here. -/
def longestRun (c : Char) (run : Nat) : List Char → Nat
  | [] => run
  | d :: rest => if d = c then longestRun c (run + 1) rest else max run (longestRun c 0 rest)

/-- What decides how a text is quoted. -/
structure Traits where
  /-- Control characters other than tabs and line ends. -/
  controls : Bool
  backslashes : Bool
  lineEnds : Bool
  /-- The longest run of apostrophes. -/
  apostrophes : Nat
  /-- The longest run of double quotes. -/
  quotes : Nat
  deriving DecidableEq, Repr

/-- Whether a character has to be escaped wherever it stands. -/
def isControl (c : Char) : Bool := !isPlain c && c != '\n'

/-- The traits of a text. -/
def Traits.of (cs : List Char) : Traits where
  controls := cs.any isControl
  backslashes := cs.contains '\\'
  lineEnds := cs.contains '\n'
  apostrophes := longestRun apostrophe 0 cs
  quotes := longestRun '"' 0 cs

/-- How a text is quoted. -/
structure Quoting where
  /-- Whether the text stands between three quotes, not one. -/
  long : Bool
  /-- Whether backslashes escape. -/
  escapes : Bool
  deriving DecidableEq, Repr

/-- The plainest quoting that holds a text. -/
def Traits.quoting (t : Traits) : Quoting :=
  if !t.controls && !t.backslashes && t.quotes == 0 && !t.lineEnds then ⟨false, true⟩
  else if !t.controls && t.apostrophes == 0 && !t.lineEnds then ⟨false, false⟩
  else if !t.controls && !t.backslashes && t.quotes ≤ 2 then ⟨true, true⟩
  else if !t.controls && t.apostrophes ≤ 2 then ⟨true, false⟩
  else ⟨t.lineEnds, true⟩

/-- Four digits in base sixteen. -/
def hex4 (n : Nat) : List Char :=
  let digits := (Nat.toDigits 16 n).map Char.toUpper
  List.replicate (4 - digits.length) '0' ++ digits

/-- The letter that escapes a character. -/
def escapeLetter? : Char → Option Char
  | '\x08' => some 'b'
  | '\t' => some 't'
  | '\n' => some 'n'
  | '\x0c' => some 'f'
  | '\r' => some 'r'
  | '\\' => some '\\'
  | _ => none

/-- A character other than a double quote between double quotes. -/
def escapedChar (c : Char) : List Char :=
  match escapeLetter? c with
  | some l => ['\\', l]
  | none => if isControl c then '\\' :: 'u' :: hex4 c.toNat else [c]

/-- A text between double quotes, given how many quotes stand right before. In a long text up to two
quotes in a row stand as they are, and so do line ends. -/
def escapedText (long : Bool) (run : Nat) : List Char → List Char
  | [] => []
  | c :: rest =>
    if c = '"' then
      if long ∧ run < 2 then '"' :: escapedText long (run + 1) rest
      else '\\' :: '"' :: escapedText long 0 rest
    else if long ∧ c = '\n' then '\n' :: escapedText long 0 rest
    else escapedChar c ++ escapedText long 0 rest

/-- A text with its quotes. A long text with line ends begins on a line of its own. -/
def textLiteral (s : String) : String :=
  let cs := s.toList
  let t := Traits.of cs
  let q := t.quoting
  let quotes := List.replicate (if q.long then 3 else 1) (if q.escapes then '"' else apostrophe)
  let start := if q.long && t.lineEnds then ['\n'] else []
  let body := if q.escapes then escapedText q.long 0 cs else cs
  String.ofList (quotes ++ start ++ body ++ quotes)

/-! ## 2. Documents -/

/-- The text of a value on its line. Only texts, switches and whole numbers are written. -/
def valueText? : Value → Option String
  | .str s => some (textLiteral s)
  | .bool b => some (if b then "true" else "false")
  | .num (.int i) => some (toString i)
  | _ => none

/-- The line of an entry; what is not set has none. -/
def entryLine (key : String) (v : Value) : String :=
  match valueText? v with
  | some t => key ++ " = " ++ t ++ "\n"
  | none => ""

/-- The entries of a mapping. -/
def entriesOf : Value → List (String × Value)
  | .obj entries => entries
  | _ => []

/-- The text of a table. -/
def tableText (heading : String) (v : Value) : String :=
  "[" ++ heading ++ "]\n" ++ String.join ((entriesOf v).map fun (key, v) => entryLine key v)

/-- The text of a document. -/
def render (v : Value) : String :=
  Text.join "\n" ((entriesOf v).map fun (heading, v) => tableText heading v)

end SchemaPages.Toml
