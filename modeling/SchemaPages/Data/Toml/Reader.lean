import SchemaPages.Data.Toml.Scalar
import SchemaPages.Data.Toml.Table
/-!
# Reading TOML

Each reader takes what it knows from the start of a text and hands on the rest.

* `readKey`, `readValue`: the parts of a line;
* `read?`: the value of a document.
-/

namespace SchemaPages.Toml

/-! ## 1. Gaps -/

/-- The text after a comment, if one begins here; a comment goes on to the end of its line. -/
def dropComment : List Char → Option (List Char)
  | '#' :: rest =>
    match rest.dropWhile isPlain with
    | [] => some []
    | '\n' :: rest => some ('\n' :: rest)
    | '\r' :: '\n' :: rest => some ('\n' :: rest)
    | _ => none
  | cs => some cs

/-- The rest after the end of a line, which may have a comment. -/
def lineEnd? (cs : List Char) : Option (List Char) := do
  match ← dropComment (cs.dropWhile isBlank) with
  | [] => some []
  | '\n' :: rest => some rest
  | '\r' :: '\n' :: rest => some rest
  | _ => none

/-- The rest after blanks, comments and line ends. -/
def dropGap : Nat → List Char → Option (List Char)
  | 0, cs => some cs
  | bound + 1, cs => do
    match ← dropComment (cs.dropWhile isBlank) with
    | '\n' :: rest => dropGap bound rest
    | '\r' :: '\n' :: rest => dropGap bound rest
    | cs => some cs

/-! ## 2. Keys -/

/-- The characters of keys without quotes. -/
def isKeyChar (c : Char) : Bool := c.isAlphanum || c == '_' || c == '-'

/-- Reads one step of a key. -/
def readKeyStep (cs : List Char) : Option (String × List Char) :=
  match cs with
  | '"' :: rest => readBasic [] rest
  | '\x27' :: rest => readLiteral [] rest
  | cs =>
    match cs.takeWhile isKeyChar with
    | [] => none
    | key => some (String.ofList key, cs.drop key.length)

/-- How deep a document may be. -/
def maxDepth : Nat := 79

/-- Reads a key of several steps with points between them: the way, and the last step. -/
def readKey : Nat → List Char → Option ((List String × String) × List Char)
  | 0, _ => none
  | bound + 1, cs => do
    let (step, rest) ← readKeyStep cs
    let rest := rest.dropWhile isBlank
    match rest with
    | '.' :: rest =>
      let ((way, key), rest) ← readKey bound (rest.dropWhile isBlank)
      return ((step :: way, key), rest)
    | rest => return (([], step), rest)

/-- The text behind an equals sign. -/
def dropEquals : List Char → Option (List Char)
  | '=' :: rest => some (rest.dropWhile isBlank)
  | _ => none

/-! ## 3. Values -/

mutual

/-- Reads a value in at most the given number of steps. -/
def readValue (depth : Nat) : Nat → List Char → Option (Value × List Char)
  | 0, _ => none
  | bound + 1, cs =>
    match cs with
    | '[' :: rest =>
      if depth = 0 then none
      else (readItems (depth - 1) bound rest).map fun (items, rest) => (.arr items, rest)
    | '\x7b' :: rest =>
      if depth = 0 then none
      else
        match rest.dropWhile isBlank with
        | '\x7d' :: rest => some (.obj [], rest)
        | rest => (readPairs (depth - 1) {} bound rest).map fun (t, rest) => (t.toValue, rest)
    | cs =>
      match readString cs with
      | some (s, rest) => some (.str s, rest)
      | none =>
        let (w, rest) := splitWord cs
        (wordValue? w).map fun v => (v, rest)

/-- Reads the items of a list up to its bracket. -/
def readItems (depth : Nat) : Nat → List Char → Option (List Value × List Char)
  | 0, _ => none
  | bound + 1, cs => do
    match ← dropGap cs.length cs with
    | ']' :: rest => return ([], rest)
    | cs =>
      let (v, rest) ← readValue depth bound cs
      match ← dropGap rest.length rest with
      | ',' :: rest =>
        let (items, rest) ← readItems depth bound rest
        return (v :: items, rest)
      | ']' :: rest => return ([v], rest)
      | _ => none

/-- Reads the entries of a table in braces. -/
def readPairs (depth : Nat) (t : Table) : Nat → List Char → Option (Table × List Char)
  | 0, _ => none
  | bound + 1, cs => do
    let ((way, key), rest) ← readKey maxDepth cs
    let rest ← dropEquals rest
    let (v, rest) ← readValue depth bound rest
    let t ← t.put way key v
    match rest.dropWhile isBlank with
    | ',' :: rest => readPairs depth t bound (rest.dropWhile isBlank)
    | '\x7d' :: rest => return (t, rest)
    | _ => none

end

/-! ## 4. Documents -/

/-- A document while it is read: the whole, and the way to the table that lines go into. -/
structure Document where
  root : Table := {}
  current : List String := []
  deriving Repr, Inhabited

namespace Document

/-- Puts the value of a line into the current table. -/
def put (d : Document) (way : List String) (key : String) (v : Value) : Option Document :=
  (Table.changeAt false (Table.put way key v) d.current d.root).map fun root => { d with root }

/-- Makes the table of a heading the current one. -/
def openHeading (d : Document) (listed : Bool) (way : List String) (key : String) :
    Option Document :=
  (if listed then Table.openListed way key d.root else Table.openTable way key d.root).map
    fun root => { root, current := way ++ [key] }

end Document

/-- Reads a heading behind its opening brackets. -/
def readHeading (d : Document) (listed : Bool) (cs : List Char) :
    Option (Document × List Char) := do
  let ((way, key), rest) ← readKey maxDepth (cs.dropWhile isBlank)
  let rest ← match rest with
    | ']' :: ']' :: rest => if listed then some rest else none
    | ']' :: rest => if listed then none else some rest
    | _ => none
  let d ← d.openHeading listed way key
  return (d, ← lineEnd? rest)

/-- Reads a line with a key and a value. -/
def readEntry (d : Document) (cs : List Char) : Option (Document × List Char) := do
  let ((way, key), rest) ← readKey maxDepth cs
  let rest ← dropEquals rest
  let (v, rest) ← readValue maxDepth (2 * rest.length + 2) rest
  let d ← d.put way key v
  return (d, ← lineEnd? rest)

/-- Reads the lines of a document, at most as many as given. -/
def readLines (d : Document) : Nat → List Char → Option Document
  | 0, cs => if cs = [] then some d else none
  | bound + 1, cs => do
    match ← dropGap cs.length cs with
    | [] => return d
    | '[' :: '[' :: rest =>
      let (d, rest) ← readHeading d true rest
      readLines d bound rest
    | '[' :: rest =>
      let (d, rest) ← readHeading d false rest
      readLines d bound rest
    | cs =>
      let (d, rest) ← readEntry d cs
      readLines d bound rest

/-- The characters of a document without the mark of its byte order. -/
def withoutMark : List Char → List Char
  | '\ufeff' :: rest => rest
  | cs => cs

/-- The value of a document. -/
def read? (s : String) : Option Value :=
  let cs := withoutMark s.toList
  (readLines {} (cs.length + 1) cs).map fun d => d.root.toValue

end SchemaPages.Toml
