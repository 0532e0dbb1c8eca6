/-!
# Lines and columns

What is read of a YAML text is kept as the rest of its characters and the place where they begin.

* `lineEnds`: a text in which the common line ends are all alike;
* `Cursor`, `Cursor.take`: reading within a line;
* `Gap`: the blanks and line ends between two words, and what they become.
-/

namespace SchemaPages.Yaml

/-- Why a text is no YAML. -/
inductive SyntaxError where
  /-- A character that must not occur, or that cannot begin anything where it stands. -/
  | badCharacter (c : Char)
  /-- The text ends within a quoted scalar. -/
  | endOfText
  /-- A mark of document boundaries within a quoted scalar. -/
  | boundaryInQuotes
  | badEscape
  /-- A tab among the blanks that indent a line. -/
  | tabIndentation
  /-- A key without the colon that has to follow it. -/
  | missingColon
  /-- A dash, key or colon where none may stand. -/
  | notAllowedHere
  | badAnchor
  | badTag
  | badDirective
  /-- Tokens that form no document. -/
  | badStructure
  | undefinedTagHandle (handle : String)
  | unknownAnchor (name : String)
  /-- A node that contains itself. -/
  | endlessNode (name : String)
  | tooDeep
  /-- Aliases that expand to too many nodes. -/
  | tooManyAliases
  | severalDocuments
  /-- A scalar that is not what its tag says. -/
  | tagMismatch (tag : String)
  | numberTooLarge
  | duplicateKey
  deriving DecidableEq, Repr

/-! ## 1. Classes of characters -/

/-- Whether a character may occur at all. -/
def isAllowed (c : Char) : Bool :=
  let n := c.toNat
  n = 0x9 || n = 0xA || n = 0xD || (0x20 ≤ n && n ≤ 0x7E) || n = 0x85 ||
    (0xA0 ≤ n && n ≤ 0xFFFD) || 0x10000 ≤ n

/-- The byte order mark, which may stand before a line. -/
def byteOrderMark : Char := '\ufeff'

/-- Blanks within a line. -/
def isSpace (c : Char) : Bool := c == ' ' || c == '\t'

/-- Line ends, once the common ones are all alike. -/
def isBreak (c : Char) : Bool := c == '\n' || c == '\u2028' || c == '\u2029'

/-- Whether nothing but a blank, a line end or the end of the text comes first. -/
def blankNext : List Char → Bool
  | [] => true
  | c :: _ => isSpace c || isBreak c

/-- The characters of names. -/
def isNameChar (c : Char) : Bool := c.isAlphanum || c == '_' || c == '-'

/-- The characters that structure lists and mappings between brackets. -/
def isBracketMark (c : Char) : Bool :=
  c == ',' || c == '[' || c == ']' || c == '\x7b' || c == '\x7d'

/-- Whether a mark of document boundaries comes first. -/
def boundaryNext : List Char → Bool
  | '-' :: '-' :: '-' :: rest => blankNext rest
  | '.' :: '.' :: '.' :: rest => blankNext rest
  | _ => false

/-- A text in which a carriage return, with or without a line feed behind it, and a next-line
character are line feeds. -/
def lineEnds : List Char → List Char
  | [] => []
  | '\r' :: '\n' :: rest => '\n' :: lineEnds rest
  | '\r' :: rest => '\n' :: lineEnds rest
  | '\u0085' :: rest => '\n' :: lineEnds rest
  | c :: rest => c :: lineEnds rest

/-! ## 2. Cursors -/

/-- The rest of a text and where it begins. -/
structure Cursor where
  rest : List Char
  line : Nat := 0
  column : Nat := 0
  deriving Repr

/-- Passes over characters of one line. -/
def Cursor.skip (c : Cursor) (n : Nat) : Cursor :=
  { c with rest := c.rest.drop n, column := c.column + n }

/-- Reads the characters of a line that pass the test, which no line end may pass. -/
def Cursor.take (p : Char → Bool) (c : Cursor) : List Char × Cursor :=
  let taken := c.rest.takeWhile p
  (taken, c.skip taken.length)

/-! ## 3. Gaps -/

/-- What stands between two words of a scalar. -/
structure Gap where
  /-- The blanks, as long as no line has ended. -/
  blanks : List Char := []
  /-- Whether a line has ended. -/
  crossed : Bool := false
  /-- The first line end; an escaped one counts for nothing. -/
  first : List Char := []
  /-- The line ends after it. -/
  more : List Char := []
  deriving Repr

/-- Adds a blank, which counts only while no line has ended. -/
def Gap.addSpace (g : Gap) (c : Char) : Gap :=
  if g.crossed then g else { g with blanks := g.blanks ++ [c] }

/-- Adds a line end. -/
def Gap.addBreak (g : Gap) (c : Char) : Gap :=
  if g.crossed then { g with more := g.more ++ [c] }
  else { g with blanks := [], crossed := true, first := [c] }

/-- The characters that a gap becomes: a single line end becomes a blank, of several all but the
first stay. -/
def Gap.folded (g : Gap) : List Char :=
  if !g.crossed then g.blanks
  else if g.first = ['\n'] then (if g.more = [] then [' '] else g.more)
  else g.first ++ g.more

/-- Whether there is no gap. -/
def Gap.isEmpty (g : Gap) : Bool := !g.crossed && g.blanks.isEmpty

end SchemaPages.Yaml
