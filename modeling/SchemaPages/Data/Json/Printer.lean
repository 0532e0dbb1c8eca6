import SchemaPages.Data.Json.Number
/-!
# Writing JSON

* `quote`: a string between quotes;
* `compact`: a value on one line, without blanks;
* `pretty`: a value with one item or entry per line, two spaces deeper at each level.
-/

namespace SchemaPages.Json

/-- The escape letter of a character, if it has one. -/
def escapeLetter? : Char → Option Char
  | '"' => some '"'
  | '\\' => some '\\'
  | '\n' => some 'n'
  | '\r' => some 'r'
  | '\t' => some 't'
  | '\x08' => some 'b'
  | '\x0c' => some 'f'
  | _ => none

/-- Four digits in base sixteen. -/
def hex4 (n : Nat) : List Char :=
  let digits := Nat.toDigits 16 n
  List.replicate (4 - digits.length) '0' ++ digits

/-- One character as it stands in a string. -/
def escapedChar (c : Char) : List Char :=
  match escapeLetter? c with
  | some letter => ['\\', letter]
  | none => if c.toNat < 0x20 then '\\' :: 'u' :: hex4 c.toNat else [c]

/-- A string between quotes. -/
def quote (s : String) : String :=
  String.ofList ('"' :: s.toList.flatMap escapedChar ++ ['"'])

mutual

/-- A value without any blank. -/
def compact : Value → String
  | .null => "null"
  | .bool b => if b then "true" else "false"
  | .num n => numberText n
  | .str s => quote s
  | .arr items => "[" ++ compactItems items ++ "]"
  | .obj entries => "\x7b" ++ compactEntries entries ++ "\x7d"

/-- Items with commas between them. -/
def compactItems : List Value → String
  | [] => ""
  | [v] => compact v
  | v :: rest => compact v ++ "," ++ compactItems rest

/-- Entries with commas between them. -/
def compactEntries : List (String × Value) → String
  | [] => ""
  | [(k, v)] => quote k ++ ":" ++ compact v
  | (k, v) :: rest => quote k ++ ":" ++ compact v ++ "," ++ compactEntries rest

end

/-- A line end and the blanks before what follows at a level. -/
def newline (level : Nat) : String :=
  String.ofList ('\n' :: List.replicate (2 * level) ' ')

mutual

/-- A value with one item or entry per line; empty lists and mappings stay on their line. -/
def prettyAt (level : Nat) : Value → String
  | .arr [] => "[]"
  | .obj [] => "\x7b\x7d"
  | .arr (v :: rest) =>
    "[" ++ newline (level + 1) ++ prettyAt (level + 1) v ++ prettyItems (level + 1) rest
      ++ newline level ++ "]"
  | .obj ((k, v) :: rest) =>
    "\x7b" ++ newline (level + 1) ++ quote k ++ ": " ++ prettyAt (level + 1) v
      ++ prettyEntries (level + 1) rest ++ newline level ++ "\x7d"
  | .null => "null"
  | .bool b => if b then "true" else "false"
  | .num n => numberText n
  | .str s => quote s

/-- The items after the first. -/
def prettyItems (level : Nat) : List Value → String
  | [] => ""
  | v :: rest => "," ++ newline level ++ prettyAt level v ++ prettyItems level rest

/-- The entries after the first. -/
def prettyEntries (level : Nat) : List (String × Value) → String
  | [] => ""
  | (k, v) :: rest =>
    "," ++ newline level ++ quote k ++ ": " ++ prettyAt level v ++ prettyEntries level rest

end

/-- A value over several lines. -/
def pretty (v : Value) : String := prettyAt 0 v

end SchemaPages.Json
