import SchemaPages.Data.Yaml.Resolve
/-!
# Writing YAML

Lists and mappings are written as blocks, two columns deeper at each level; a list that is the value
of a key is not indented. Lines are never folded.

* `Analysis`: what about a text decides how it can be written;
* `styleOf`: how a text is written;
* `render`: the text of a value.
-/

namespace SchemaPages.Yaml

/-! ## 1. How a text can be written -/

/-- Whether a character may stand unescaped in any style. -/
def isPrintable (c : Char) : Bool :=
  let n := c.toNat
  n = 0xA || (0x20 ≤ n && n ≤ 0x7E) || (0xA0 ≤ n && n ≤ 0xFFFD && n ≠ 0xFEFF) || 0x10000 ≤ n

/-- Whether a character ends a line for a reader. -/
def endsLine (c : Char) : Bool := isBreak c || c == '\r' || c == '\u0085'

/-- Whether a character counts as white space beside a mark, as does the end of the text. -/
def whiteOrEnd : Option Char → Bool
  | none => true
  | some c => isSpace c || endsLine c || c == '\x00'

/-- What about a text decides how it can be written. -/
structure Analysis where
  /-- A mark that would not be read as part of a plain scalar. -/
  hasMark : Bool := false
  /-- A character that only an escape can stand for. -/
  hasSpecial : Bool := false
  hasBreak : Bool := false
  /-- A blank or line end at the beginning or end. -/
  hasEdge : Bool := false
  spaceAtEnd : Bool := false
  breakThenSpace : Bool := false
  spaceThenBreak : Bool := false
  deriving Repr

/-- Whether the first character is a mark, given the second. -/
def firstIsMark (c : Char) (next : Option Char) : Bool :=
  "#,[]\x7b\x7d&*!|>\x27\"%@\x60".toList.contains c ||
    ((c == '?' || c == ':' || c == '-') && whiteOrEnd next)

/-- Whether a later character is a mark, given its neighbours. -/
def laterIsMark (before c : Char) (next : Option Char) : Bool :=
  (c == ':' && whiteOrEnd next) || (c == '#' && whiteOrEnd (some before))

/-- What the characters after the first say. -/
def analyseRest (before : Char) (a : Analysis) : List Char → Analysis
  | [] => { a with hasEdge := a.hasEdge || before == ' ' || endsLine before, spaceAtEnd := before == ' ' }
  | c :: rest =>
    analyseRest c
      { a with
        hasMark := a.hasMark || laterIsMark before c rest.head?
        hasSpecial := a.hasSpecial || !isPrintable c
        hasBreak := a.hasBreak || endsLine c
        breakThenSpace := a.breakThenSpace || (endsLine before && c == ' ')
        spaceThenBreak := a.spaceThenBreak || (before == ' ' && endsLine c) }
      rest

/-- The analysis of a text. -/
def analyse : List Char → Analysis
  | [] => {}
  | c :: rest =>
    let boundary := match c :: rest with
      | '-' :: '-' :: '-' :: _ => true
      | '.' :: '.' :: '.' :: _ => true
      | _ => false
    analyseRest c
      { hasMark := boundary || firstIsMark c rest.head?
        hasSpecial := !isPrintable c
        hasBreak := endsLine c
        hasEdge := c == ' ' || endsLine c } rest

/-- Whether a text would be read as something else if it were plain. -/
def isAmbiguous (s : String) : Bool :=
  zeroPadded s.toList ||
    match resolve s with
    | .ok (.text _) => false
    | _ => true

/-- The ways to write a text. -/
inductive Style where
  | plain
  | single
  | double
  | literal
  deriving DecidableEq, Repr

/-- How a text is written: as a block if it has several lines, plainly if it reads back so, else
between quotes; between double quotes what no other style can hold. -/
def styleOf (s : String) : Style :=
  let a := analyse s.toList
  let escapes := a.hasSpecial || a.spaceThenBreak
  if s.toList.contains '\n' then
    if escapes || a.spaceAtEnd then .double else .literal
  else if !isAmbiguous s && !(a.hasMark || escapes || a.hasEdge || a.hasBreak || a.breakThenSpace) then
    .plain
  else if escapes || a.breakThenSpace then .double
  else .single

/-! ## 2. Texts -/

/-- The letter that stands for a character behind a backslash. -/
def letterOf? : Char → Option Char
  | '\x00' => some '0'
  | '\x07' => some 'a'
  | '\x08' => some 'b'
  | '\t' => some 't'
  | '\n' => some 'n'
  | '\x0b' => some 'v'
  | '\x0c' => some 'f'
  | '\r' => some 'r'
  | '\x1b' => some 'e'
  | '"' => some '"'
  | '\\' => some '\\'
  | '\u0085' => some 'N'
  | '\u00a0' => some '_'
  | '\u2028' => some 'L'
  | '\u2029' => some 'P'
  | _ => none

/-- The digits of a code point in base sixteen, in upper case, filled up with zeros. -/
def hexPadded (width n : Nat) : List Char :=
  let digits := (Nat.toDigits 16 n).map Char.toUpper
  List.replicate (width - digits.length) '0' ++ digits

/-- A character between double quotes. -/
def doubleQuotedChar (c : Char) : List Char :=
  if isPrintable c && !endsLine c && c != '"' && c != '\\' then [c]
  else match letterOf? c with
    | some letter => ['\\', letter]
    | none =>
      if c.toNat ≤ 0xFF then '\\' :: 'x' :: hexPadded 2 c.toNat
      else if c.toNat ≤ 0xFFFF then '\\' :: 'u' :: hexPadded 4 c.toNat
      else '\\' :: 'U' :: hexPadded 8 c.toNat

/-- Blanks that indent a line. -/
def blanks (n : Nat) : List Char := List.replicate n ' '

/-- Characters with every line that is not empty indented; the flag says that a line begins. -/
def indentLines (indent : Nat) (atStart : Bool) : List Char → List Char
  | [] => []
  | c :: rest =>
    if endsLine c then c :: indentLines indent true rest
    else (if atStart then blanks indent else []) ++ c :: indentLines indent false rest

/-- A text between single quotes. A line that it breaks goes on indented. -/
def singleQuoted (indent : Nat) (cs : List Char) : List Char :=
  let body := indentLines indent false (cs.flatMap fun c => if c = '\x27' then [c, c] else [c])
  let last := match cs.getLast? with
    | some c => if endsLine c then blanks indent else []
    | none => []
  '\x27' :: body ++ last ++ ['\x27']

/-- What the first line of a block says: how deep it is indented, where its first line would not
show this, and what becomes of the line ends behind it. -/
def blockHeading (cs : List Char) : List Char :=
  let hint := match cs with
    | c :: _ => if c == ' ' || endsLine c then ['2'] else []
    | [] => []
  let chomp := match cs.reverse with
    | last :: [] => if endsLine last then ['+'] else ['-']
    | last :: before :: _ =>
      if !endsLine last then ['-'] else if endsLine before then ['+'] else []
    | [] => ['-']
  '|' :: hint ++ chomp

/-- A text with the end of its line; a block that ends with a line end has it already. -/
def textLine (indent : Nat) (s : String) : List Char :=
  let cs := s.toList
  match styleOf s with
  | .plain => cs ++ ['\n']
  | .single => singleQuoted (indent + 2) cs ++ ['\n']
  | .double => '"' :: cs.flatMap doubleQuotedChar ++ ['"', '\n']
  | .literal =>
    let body := blockHeading cs ++ '\n' :: indentLines (indent + 2) true cs
    match cs.getLast? with
    | some c => if endsLine c then body else body ++ ['\n']
    | none => body ++ ['\n']

/-- Doubles are positional while the leading digit has an exponent from -5 to 15, and a positive
exponent has no sign. -/
def layout : Decimal.Layout := ⟨-5, 16, false⟩

/-- The text of a number. -/
def numberText : Number → String
  | .int i => toString i
  | .float bits => layout.write bits

/-! ## 3. Values -/

/-- Whether a text can be a key before its colon on one line: no longer than 128 octets. -/
def isSimpleKey (s : String) : Bool :=
  s.utf8ByteSize ≤ 128 && !(analyse s.toList).hasBreak

/-- A key with its colon and what stands before it. A text that is no simple key has a line of its
own behind a question mark. -/
def keyText (indent : Nat) (key : String) : List Char :=
  if isSimpleKey key then (textLine indent key).dropLast ++ [':']
  else ['?', ' '] ++ textLine indent key ++ blanks indent ++ [':']

/-- A value without parts on the rest of its line. -/
def leafLine (indent : Nat) : Value → List Char
  | .null => "null\n".toList
  | .bool b => (if b then "true\n" else "false\n").toList
  | .num n => (numberText n).toList ++ ['\n']
  | .str s => textLine indent s
  | .arr _ => "[]\n".toList
  | .obj _ => "\x7b\x7d\n".toList

mutual

/-- A value behind a dash, or behind a colon that begins its line: blocks begin on the same line. -/
def inlineValue (indent : Nat) : Value → List Char
  | .arr (v :: rest) => ' ' :: '-' :: inlineValue (indent + 2) v ++ items (indent + 2) rest
  | .obj ((k, v) :: rest) => ' ' :: entry (indent + 2) k v ++ entries (indent + 2) rest
  | v => ' ' :: leafLine indent v

/-- An entry of a mapping without the blanks before it. -/
def entry (indent : Nat) (k : String) (v : Value) : List Char :=
  keyText indent k ++
    if !isSimpleKey k then inlineValue indent v
    else match v with
      | .arr (v :: rest) => '\n' :: blanks indent ++ '-' :: inlineValue indent v ++ items indent rest
      | .obj ((k, v) :: rest) =>
        '\n' :: blanks (indent + 2) ++ entry (indent + 2) k v ++ entries (indent + 2) rest
      | v => ' ' :: leafLine indent v

/-- The items of a list. -/
def items (indent : Nat) : List Value → List Char
  | [] => []
  | v :: rest => blanks indent ++ '-' :: inlineValue indent v ++ items indent rest

/-- The entries of a mapping. -/
def entries (indent : Nat) : List (String × Value) → List Char
  | [] => []
  | (k, v) :: rest => blanks indent ++ entry indent k v ++ entries indent rest

end

/-- The text of a value. -/
def render : Value → String
  | .arr (v :: rest) => String.ofList (items 0 (v :: rest))
  | .obj (e :: rest) => String.ofList (entries 0 (e :: rest))
  | v => String.ofList (leafLine 0 v)

end SchemaPages.Yaml
