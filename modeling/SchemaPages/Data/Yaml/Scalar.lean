import SchemaPages.Data.Yaml.Cursor
/-!
# Scalars as they are written

A scalar is written plainly, between quotes, or as a block of lines. Each reader here runs once over
the characters and stops where its scalar ends.

* `readQuoted`, `readPlain`, `readBlock`.
-/

namespace SchemaPages.Yaml

/-- How a scalar is written. -/
inductive ScalarStyle where
  | plain
  | quoted
  | block
  deriving DecidableEq, Repr

/-! ## 1. Between quotes -/

/-- The character of an escape with a single letter. -/
def escapeLetter? : Char → Option Char
  | '0' => some '\x00'
  | 'a' => some '\x07'
  | 'b' => some '\x08'
  | 't' => some '\t'
  | '\t' => some '\t'
  | 'n' => some '\n'
  | 'v' => some '\x0b'
  | 'f' => some '\x0c'
  | 'r' => some '\r'
  | 'e' => some '\x1b'
  | ' ' => some ' '
  | '"' => some '"'
  | '/' => some '/'
  | '\\' => some '\\'
  | 'N' => some '\u0085'
  | '_' => some '\u00a0'
  | 'L' => some '\u2028'
  | 'P' => some '\u2029'
  | _ => none

/-- How many digits follow the letter of an escape by code point. -/
def escapeWidth? : Char → Option Nat
  | 'x' => some 2
  | 'u' => some 4
  | 'U' => some 8
  | _ => none

/-- The value of a digit in base sixteen. -/
def hexValue? (c : Char) : Option Nat :=
  if c.isDigit then some (c.toNat - 48)
  else if 'a' ≤ c ∧ c ≤ 'f' then some (c.toNat - 87)
  else if 'A' ≤ c ∧ c ≤ 'F' then some (c.toNat - 55)
  else none

/-- What is read of a quoted scalar. -/
structure Quoted where
  /-- The text so far, reversed. -/
  text : List Char := []
  gap : Gap := {}
  /-- The digits that an escape still lacks, and its value so far. -/
  escape : Option (Nat × Nat) := none
  deriving Repr

/-- Ends the gap before the next character. -/
def Quoted.flush (q : Quoted) : Quoted :=
  { q with text := q.gap.folded.reverse ++ q.text, gap := {} }

/-- Adds a character. -/
def Quoted.push (q : Quoted) (c : Char) : Quoted :=
  let q := q.flush
  { q with text := c :: q.text }

/-- Adds a digit to an escape by code point. -/
def Quoted.digit (q : Quoted) (left value : Nat) (c : Char) : Except SyntaxError Quoted :=
  match hexValue? c with
  | none => .error .badEscape
  | some d =>
    let value := value * 16 + d
    if 1 < left then .ok { q with escape := some (left - 1, value) }
    else if value.isValidChar then .ok ({ q with escape := none }.push (Char.ofNat value))
    else .error .badEscape

/-- Reads a quoted scalar behind its opening quote. -/
def readQuoted (single : Bool) (q : Quoted) (line column : Nat) :
    List Char → Except SyntaxError (String × Cursor)
  | [] => .error .endOfText
  | c :: rest =>
    match q.escape with
    | some (left, value) => do readQuoted single (← q.digit left value c) line (column + 1) rest
    | none =>
      if column = 0 ∧ boundaryNext (c :: rest) then .error .boundaryInQuotes
      else if isSpace c then
        readQuoted single { q with gap := q.gap.addSpace c } line (column + 1) rest
      else if isBreak c then
        readQuoted single { q with gap := q.gap.addBreak c } (line + 1) 0 rest
      else if single ∧ c = '\x27' then
        match rest with
        | '\x27' :: rest => readQuoted single (q.push c) line (column + 2) rest
        | rest => .ok (String.ofList q.flush.text.reverse, ⟨rest, line, column + 1⟩)
      else if single then readQuoted single (q.push c) line (column + 1) rest
      else if c = '"' then .ok (String.ofList q.flush.text.reverse, ⟨rest, line, column + 1⟩)
      else if c = '\\' then
        match rest with
        | [] => .error .endOfText
        | e :: rest =>
          if isBreak e then
            readQuoted single { q.flush with gap := { crossed := true } } (line + 1) 0 rest
          else match escapeLetter? e with
            | some c => readQuoted single (q.push c) line (column + 2) rest
            | none =>
              match escapeWidth? e with
              | some n =>
                readQuoted single { q.flush with escape := some (n, 0) } line (column + 2) rest
              | none => .error .badEscape
      else readQuoted single (q.push c) line (column + 1) rest

/-! ## 2. Plain -/

/-- Whether a colon in brackets stands directly before a mark, where it could be meant either way. -/
def colonBeforeMark : List Char → Bool
  | c :: _ => isBracketMark c || c == '?'
  | [] => false

/-- Reads a plain scalar; `indent` is the least column of its later lines. Also tells whether a line
has ended behind its last word. -/
def readPlain (inBrackets : Bool) (indent : Nat) (text : List Char) (gap : Gap) (line column : Nat) :
    List Char → Except SyntaxError (String × Cursor × Bool)
  | [] => .ok (String.ofList text.reverse, ⟨[], line, column⟩, gap.crossed)
  | c :: rest =>
    let stop : Except SyntaxError (String × Cursor × Bool) :=
      .ok (String.ofList text.reverse, ⟨c :: rest, line, column⟩, gap.crossed)
    if isSpace c then
      if gap.crossed ∧ column < indent ∧ c = '\t' then .error .tabIndentation
      else readPlain inBrackets indent text (gap.addSpace c) line (column + 1) rest
    else if isBreak c then
      readPlain inBrackets indent text (gap.addBreak c) (line + 1) 0 rest
    else if !gap.isEmpty ∧ ((!inBrackets ∧ column < indent) ∨ c = '#') then stop
    else if column = 0 ∧ boundaryNext (c :: rest) then stop
    else if inBrackets ∧ c = ':' ∧ colonBeforeMark rest then .error .notAllowedHere
    else if (c = ':' ∧ blankNext rest) ∨ (inBrackets ∧ isBracketMark c) then stop
    else
      readPlain inBrackets indent (c :: (gap.folded.reverse ++ text)) {} line (column + 1) rest

/-! ## 3. Blocks -/

/-- What becomes of the line ends behind a block. -/
inductive Chomping where
  | strip
  | clip
  | keep
  deriving DecidableEq, Repr

/-- What is read of a block. -/
structure Block where
  literal : Bool
  chomping : Chomping
  /-- The indentation of the block, once it is known. -/
  indent : Option Nat
  /-- The least indentation that it may have. -/
  least : Nat
  /-- The deepest indentation of the blank lines before the first line. -/
  deepest : Nat := 0
  /-- The text so far, reversed. -/
  text : List Char := []
  /-- The end of the last line. -/
  lineEnd : List Char := []
  /-- The ends of the blank lines behind it, reversed. -/
  blankLines : List Char := []
  /-- Whether the last line begins with a blank. -/
  spaced : Bool := false
  /-- Whether the current line has text. -/
  inLine : Bool := false
  deriving Repr

/-- The whole text of a block. -/
def Block.close (b : Block) : String :=
  let text := if b.chomping = .strip then b.text else b.lineEnd ++ b.text
  let text := if b.chomping = .keep then b.blankLines ++ text else text
  String.ofList text.reverse

/-- Begins a line with a character. Between two lines of a folded block that begin with no blank a
single line end becomes a blank. -/
def Block.begin (b : Block) (c : Char) : Block :=
  let text :=
    if !b.literal ∧ b.lineEnd = ['\n'] ∧ !b.spaced ∧ !isSpace c then
      if b.blankLines = [] then ' ' :: b.text else b.text
    else b.lineEnd ++ b.text
  { b with
    text := c :: (b.blankLines ++ text)
    lineEnd := []
    blankLines := []
    spaced := isSpace c
    inLine := true }

/-- Whether a column lies within the indentation. -/
def Block.indents (b : Block) (column : Nat) : Bool :=
  match b.indent with
  | some n => column < n
  | none => true

/-- Reads the lines of a block. -/
def readBlock (b : Block) (line column : Nat) : List Char → Except SyntaxError (String × Cursor)
  | [] => .ok (b.close, ⟨[], line, column⟩)
  | c :: rest =>
    if b.inLine then
      if isBreak c then
        readBlock { b with inLine := false, lineEnd := [c] } (line + 1) 0 rest
      else readBlock { b with text := c :: b.text } line (column + 1) rest
    else if b.indents column ∧ c = ' ' then readBlock b line (column + 1) rest
    else if b.indents column ∧ c = '\t' then .error .tabIndentation
    else
      let b := { b with deepest := max b.deepest column }
      if isBreak c then readBlock { b with blankLines := c :: b.blankLines } (line + 1) 0 rest
      else
        let indent := b.indent.getD (max b.deepest b.least)
        if column = indent then
          readBlock ({ b with indent := some indent }.begin c) line (column + 1) rest
        else .ok (b.close, ⟨c :: rest, line, column⟩)

end SchemaPages.Yaml
