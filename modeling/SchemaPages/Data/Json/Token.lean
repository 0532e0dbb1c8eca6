import SchemaPages.Data.Json.Number
/-!
# JSON tokens

A text is first cut into tokens: the six marks, strings, numbers and the three words.

* `readString`: the string after an opening quote;
* `tokens?`: all tokens of a text.
-/

namespace SchemaPages.Json

/-- A token. Strings, numbers and words are values of their own. -/
inductive Token where
  | openList
  | closeList
  | openMap
  | closeMap
  | comma
  | colon
  | text (s : String)
  | scalar (v : Value)
  deriving Repr

/-- The value of a digit in base sixteen. -/
def hexValue? (c : Char) : Option Nat :=
  if c.isDigit then some (c.toNat - 48)
  else if 'a' ≤ c ∧ c ≤ 'f' then some (c.toNat - 87)
  else if 'A' ≤ c ∧ c ≤ 'F' then some (c.toNat - 55)
  else none

/-- The number of four digits in base sixteen. -/
def hexUnit? (a b c d : Char) : Option Nat := do
  let a ← hexValue? a
  let b ← hexValue? b
  let c ← hexValue? c
  let d ← hexValue? d
  return ((a * 16 + b) * 16 + c) * 16 + d

/-- The character behind a backslash and a letter. -/
def unescapeLetter? : Char → Option Char
  | '"' => some '"'
  | '\\' => some '\\'
  | '/' => some '/'
  | 'b' => some '\x08'
  | 'f' => some '\x0c'
  | 'n' => some '\n'
  | 'r' => some '\r'
  | 't' => some '\t'
  | _ => none

/-- The rest of a string after its opening quote, and the text behind it. A unit from the first
half of a surrogate pair needs the second half behind it. -/
def readString (read : List Char) : List Char → Option (String × List Char)
  | [] => none
  | '"' :: rest => some (String.ofList read.reverse, rest)
  | '\\' :: 'u' :: a :: b :: c :: d :: rest => do
    let unit ← hexUnit? a b c d
    if 0xD800 ≤ unit ∧ unit < 0xDC00 then
      match rest with
      | '\\' :: 'u' :: a :: b :: c :: d :: rest =>
        let low ← hexUnit? a b c d
        if 0xDC00 ≤ low ∧ low < 0xE000 then
          readString (Char.ofNat (0x10000 + (unit - 0xD800) * 0x400 + (low - 0xDC00)) :: read) rest
        else none
      | _ => none
    else if 0xDC00 ≤ unit ∧ unit < 0xE000 then none
    else readString (Char.ofNat unit :: read) rest
  | '\\' :: c :: rest => do
    let c ← unescapeLetter? c
    readString (c :: read) rest
  | c :: rest => if c.toNat < 0x20 ∨ c = '\\' then none else readString (c :: read) rest

/-- The blanks between tokens. -/
def isBlank (c : Char) : Bool := c == ' ' || c == '\n' || c == '\t' || c == '\r'

/-- The token at the start of a text that begins with no blank, and what follows it. -/
def readToken : List Char → Option (Token × List Char)
  | [] => none
  | '[' :: rest => some (.openList, rest)
  | ']' :: rest => some (.closeList, rest)
  | '\x7b' :: rest => some (.openMap, rest)
  | '\x7d' :: rest => some (.closeMap, rest)
  | ',' :: rest => some (.comma, rest)
  | ':' :: rest => some (.colon, rest)
  | '"' :: rest => (readString [] rest).map fun (s, rest) => (.text s, rest)
  | 'n' :: 'u' :: 'l' :: 'l' :: rest => some (.scalar .null, rest)
  | 't' :: 'r' :: 'u' :: 'e' :: rest => some (.scalar (.bool true), rest)
  | 'f' :: 'a' :: 'l' :: 's' :: 'e' :: rest => some (.scalar (.bool false), rest)
  | cs => (readNumber cs).map fun (n, rest) => (.scalar (.num n), rest)

/-- The tokens of a text in at most the given number of steps. -/
def tokensWithin : Nat → List Char → Option (List Token)
  | steps, cs =>
    match cs.dropWhile isBlank, steps with
    | [], _ => some []
    | _ :: _, 0 => none
    | c :: rest, steps + 1 => do
      let (token, rest) ← readToken (c :: rest)
      let more ← tokensWithin steps rest
      return token :: more

/-- All tokens of a text. Each takes a character at least, so there are enough steps. -/
def tokens? (s : String) : Option (List Token) :=
  let cs := s.toList
  tokensWithin cs.length cs

end SchemaPages.Json
