import SchemaPages.Data.Yaml.Scalar
/-!
# YAML tokens

Tokens are the marks, properties and scalars of a text, together with marks that the indentation
stands for. Whether a scalar is a key shows only at the colon behind it; the marks for it are then
put in front of it.

* `Token`;
* `readTag`, `readDirective`: tokens with a grammar of their own;
* `Scanner`: what the next token depends on;
* `tokens`: all tokens of a text.
-/

namespace SchemaPages.Yaml

/-- A token. -/
inductive Token where
  | documentStart
  | documentEnd
  | version (major minor : Nat)
  | tagHandle (handle expansion : String)
  | blockList
  | blockMapping
  | blockEnd
  | openList
  | closeList
  | openMapping
  | closeMapping
  | dash
  | comma
  | key
  | value
  | alias (name : String)
  | anchor (name : String)
  | tag (handle suffix : String)
  | scalar (style : ScalarStyle) (text : String)
  deriving DecidableEq, Repr

/-! ## 1. Tags and directives -/

/-- The characters of a tag. Some marks are allowed only between angle brackets and in directives. -/
def isTagChar (wide : Bool) (c : Char) : Bool :=
  isNameChar c || ";/?:@&=+$.!~*'()%".toList.contains c || (wide && ",[]".toList.contains c)

/-- The octets behind percent signs at the start, and what follows. -/
def percentOctets : List Char → List Nat × List Char
  | '%' :: a :: b :: rest =>
    match hexValue? a, hexValue? b with
    | some a, some b =>
      let (octets, after) := percentOctets rest
      ((a * 16 + b) :: octets, after)
    | _, _ => ([], '%' :: a :: b :: rest)
  | cs => ([], cs)

/-- The text of a tag with octets in place of their escapes, in so many steps at most. -/
def unescapeTagWithin : Nat → List Char → Option (List Char)
  | _, [] => some []
  | 0, _ => none
  | bound + 1, '%' :: rest =>
    match percentOctets ('%' :: rest) with
    | ([], _) => none
    | (octets, after) => do
      let text ← String.fromUTF8? ⟨(octets.map UInt8.ofNat).toArray⟩
      let after ← unescapeTagWithin bound after
      return text.toList ++ after
  | bound + 1, c :: rest => (unescapeTagWithin bound rest).map (c :: ·)

/-- The text of a tag with octets in place of their escapes. -/
def unescapeTag (cs : List Char) : Option (List Char) := unescapeTagWithin cs.length cs

/-- Reads the characters of a tag. -/
def readTagText (wide : Bool) (c : Cursor) : Except SyntaxError (String × Cursor) := do
  let (raw, c) := c.take (isTagChar wide)
  match unescapeTag raw with
  | some text => return (String.ofList text, c)
  | none => throw .badTag

/-- Splits a tag without angle brackets into the handle and the rest. A lone mark is the tag that
asks for no resolution. -/
def splitTag (text : List Char) : List Char × List Char :=
  match text with
  | '!' :: rest =>
    let name := rest.takeWhile isNameChar
    match rest.drop name.length with
    | '!' :: suffix => ('!' :: name ++ ['!'], suffix)
    | _ => if rest = [] then ([], ['!']) else (['!'], rest)
  | _ => ([], text)

/-- Reads a tag, which begins with its mark. -/
def readTag (inBrackets : Bool) (c : Cursor) : Except SyntaxError (Token × Cursor) := do
  let (token, c) ←
    match c.rest with
    | '!' :: '<' :: _ => do
      let (text, c) ← readTagText true (c.skip 2)
      if text = "" then throw .badTag
      match c.rest with
      | '>' :: _ => pure (Token.tag "" text, c.skip 1)
      | _ => throw .badTag
    | _ => do
      let (raw, after) := c.take (isTagChar false)
      let (handle, suffix) := splitTag raw
      if suffix = [] then throw .badTag
      match unescapeTag suffix with
      | some suffix => pure (Token.tag (String.ofList handle) (String.ofList suffix), after)
      | none => throw .badTag
  match c.rest with
  | ',' :: _ => if inBrackets then return (token, c) else throw .badTag
  | rest => if blankNext rest then return (token, c) else throw .badTag

/-- Reads a number of a version, of nine digits at most. -/
def readVersionPart (c : Cursor) : Except SyntaxError (Nat × Cursor) := do
  let (digits, c) := c.take Char.isDigit
  if digits = [] ∨ 9 < digits.length then throw .badDirective
  return (digits.foldl (fun n d => n * 10 + (d.toNat - 48)) 0, c)

/-- Reads the handle that a directive declares. -/
def readHandle (c : Cursor) : Except SyntaxError (String × Cursor) := do
  match c.rest with
  | '!' :: rest =>
    let name := rest.takeWhile isNameChar
    match rest.drop name.length with
    | '!' :: _ => return (String.ofList ('!' :: name ++ ['!']), c.skip (name.length + 2))
    | _ => if name = [] then return ("!", c.skip 1) else throw .badDirective
  | _ => throw .badDirective

/-- Reads what a directive says, behind its name. -/
def readDirectiveValue (name : List Char) (c : Cursor) : Except SyntaxError (Token × Cursor) := do
  let (_, c) := c.take isSpace
  if name = "YAML".toList then
    let (major, c) ← readVersionPart c
    match c.rest with
    | '.' :: _ =>
      let (minor, c) ← readVersionPart (c.skip 1)
      return (.version major minor, c)
    | _ => throw .badDirective
  else if name = "TAG".toList then
    let (handle, c) ← readHandle c
    let (blanks, c) := c.take isSpace
    if blanks = [] then throw .badDirective
    let (expansion, c) ← readTagText true c
    if expansion = "" ∨ !blankNext c.rest then throw .badDirective
    return (.tagHandle handle expansion, c)
  else throw .badDirective

/-- Passes over the comment that may come next. -/
def skipComment (c : Cursor) : Cursor :=
  match c.rest with
  | '#' :: _ => (c.take fun ch => !isBreak ch).2
  | _ => c

/-- Reads a directive, which begins with its mark and fills its line. -/
def readDirective (c : Cursor) : Except SyntaxError (Token × Cursor) := do
  let (name, c) := (c.skip 1).take isNameChar
  if name = [] ∨ !blankNext c.rest then throw .badDirective
  let (token, c) ← readDirectiveValue name c
  let c := skipComment (c.take isSpace).2
  match c.rest with
  | [] => return (token, c)
  | ch :: rest =>
    if isBreak ch then return (token, ⟨rest, c.line + 1, 0⟩) else throw .badDirective

/-! ## 2. What the next token depends on -/

/-- A place where a key may have begun. -/
structure KeyPlace where
  /-- Whether nothing but a key can stand there. -/
  required : Bool
  /-- How many tokens come before it. -/
  number : Nat
  line : Nat
  column : Nat
  deriving Repr

/-- The state between two tokens. -/
structure Scanner where
  cursor : Cursor
  /-- The tokens so far, reversed. -/
  tokens : List Token := []
  count : Nat := 0
  /-- The column of the innermost block, and the columns of those around it; -1 outside all. -/
  indent : Int := -1
  indents : List Int := []
  /-- How many brackets are open. -/
  brackets : Nat := 0
  /-- For each open bracket and for the block outside, the place where a key may have begun. -/
  places : List (Option KeyPlace) := [none]
  /-- Whether a key may begin here. -/
  keyAllowed : Bool := true
  deriving Repr

namespace Scanner

/-- Adds a token. -/
def push (s : Scanner) (t : Token) : Scanner :=
  { s with tokens := t :: s.tokens, count := s.count + 1 }

/-- Adds a token behind the first so many. -/
def insertAt (s : Scanner) (number : Nat) (t : Token) : Scanner :=
  let later := s.count - number
  { s with tokens := s.tokens.take later ++ t :: s.tokens.drop later, count := s.count + 1 }

/-- Whether a token lies in brackets. -/
def inBrackets (s : Scanner) : Bool := 0 < s.brackets

/-- Opens a block at a column, unless the innermost one begins there or further right. -/
def openBlock (s : Scanner) (column number : Nat) (t : Token) : Scanner :=
  if s.inBrackets ∨ (column : Int) ≤ s.indent then s
  else { s.insertAt number t with indent := column, indents := s.indent :: s.indents }

/-- Closes the blocks that begin right of a column, given the columns around the innermost one. -/
def closeBlocks (s : Scanner) (column : Int) : List Int → Scanner
  | [] => { s with indents := [] }
  | outer :: rest =>
    if column < s.indent then
      closeBlocks { s.push .blockEnd with indent := outer } column rest
    else { s with indents := outer :: rest }

/-- Closes the blocks that begin right of a column; brackets keep them open. -/
def unindent (s : Scanner) (column : Int) : Scanner :=
  if s.inBrackets then s else s.closeBlocks column s.indents

/-- Gives up the places where a key can no longer be: a key lies on one line and has at most 1024
characters. -/
def dropStalePlaces (s : Scanner) : Except SyntaxError Scanner := do
  let places ← s.places.mapM fun
    | some p =>
      if p.line < s.cursor.line ∨ p.column + 1024 < s.cursor.column then
        if p.required then throw SyntaxError.missingColon else pure none
      else pure (some p)
    | none => pure none
  return { s with places }

/-- Gives up the innermost place. -/
def dropPlace (s : Scanner) : Except SyntaxError Scanner :=
  match s.places with
  | some p :: rest =>
    if p.required then .error .missingColon else .ok { s with places := none :: rest }
  | _ => .ok s

/-- Notes that a key may begin here. -/
def savePlace (s : Scanner) : Except SyntaxError Scanner := do
  if !s.keyAllowed then return s
  let s ← s.dropPlace
  let place : KeyPlace :=
    { required := !s.inBrackets && s.indent == (s.cursor.column : Int)
      number := s.count
      line := s.cursor.line
      column := s.cursor.column }
  return { s with places := some place :: s.places.drop 1 }

/-- Passes over blanks, comments and line ends. A tab counts as a blank where no key may begin. -/
def skipBlank (tabs inBrackets keyAllowed comment : Bool) (line column : Nat) :
    List Char → Cursor × Bool
  | [] => (⟨[], line, column⟩, keyAllowed)
  | c :: rest =>
    if isBreak c then
      let keyAllowed := keyAllowed || !inBrackets
      skipBlank (inBrackets || !keyAllowed) inBrackets keyAllowed false (line + 1) 0 rest
    else if comment then skipBlank tabs inBrackets keyAllowed true line (column + 1) rest
    else if c = byteOrderMark ∧ column = 0 then
      skipBlank tabs inBrackets keyAllowed false line (column + 1) rest
    else if c = ' ' ∨ (tabs ∧ c = '\t') then
      skipBlank tabs inBrackets keyAllowed false line (column + 1) rest
    else if c = '#' then skipBlank tabs inBrackets keyAllowed true line (column + 1) rest
    else (⟨c :: rest, line, column⟩, keyAllowed)

/-- Goes to the next token. -/
def toNext (s : Scanner) : Scanner :=
  let (cursor, keyAllowed) :=
    skipBlank (s.inBrackets || !s.keyAllowed) s.inBrackets s.keyAllowed false s.cursor.line
      s.cursor.column s.cursor.rest
  { s with cursor, keyAllowed }

/-! ## 3. The tokens -/

/-- Ends all blocks, as the end of a document does. -/
def endBlocks (s : Scanner) : Except SyntaxError Scanner := do
  let s ← (s.unindent (-1)).dropPlace
  return { s with keyAllowed := false }

/-- Takes a mark of so many characters. -/
def mark (s : Scanner) (t : Token) (width : Nat) : Scanner :=
  { s.push t with cursor := s.cursor.skip width }

/-- Opens a bracket. -/
def openBracket (s : Scanner) (t : Token) : Except SyntaxError Scanner := do
  let s ← s.savePlace
  return { s.mark t 1 with
    places := none :: s.places
    brackets := s.brackets + 1
    keyAllowed := true }

/-- Closes a bracket. -/
def closeBracket (s : Scanner) (t : Token) : Except SyntaxError Scanner := do
  let s ← s.dropPlace
  return { s.mark t 1 with
    places := if s.inBrackets then s.places.drop 1 else s.places
    brackets := s.brackets - 1
    keyAllowed := false }

/-- Takes the comma between two items in brackets. -/
def comma (s : Scanner) : Except SyntaxError Scanner := do
  let s ← s.dropPlace
  return { s.mark .comma 1 with keyAllowed := true }

/-- Takes the dash before an item of a block. -/
def dash (s : Scanner) : Except SyntaxError Scanner := do
  if !s.inBrackets ∧ !s.keyAllowed then throw .notAllowedHere
  let s ← (s.openBlock s.cursor.column s.count .blockList).dropPlace
  return { s.mark .dash 1 with keyAllowed := true }

/-- Takes the mark before a key. -/
def keyMark (s : Scanner) : Except SyntaxError Scanner := do
  if !s.inBrackets ∧ !s.keyAllowed then throw .notAllowedHere
  let s ← (s.openBlock s.cursor.column s.count .blockMapping).dropPlace
  return { s.mark .key 1 with keyAllowed := !s.inBrackets }

/-- Takes the colon behind a key. -/
def colon (s : Scanner) : Except SyntaxError Scanner := do
  match s.places with
  | some p :: rest =>
    let s := { s.insertAt p.number .key with places := none :: rest, keyAllowed := false }
    return (s.openBlock p.column p.number .blockMapping).mark .value 1
  | _ =>
    if !s.inBrackets ∧ !s.keyAllowed then throw .notAllowedHere
    let s := s.openBlock s.cursor.column s.count .blockMapping
    return { s.mark .value 1 with keyAllowed := !s.inBrackets }

/-- Takes an alias or anchor. -/
def named (s : Scanner) (token : String → Token) : Except SyntaxError Scanner := do
  let s ← s.savePlace
  let (name, cursor) := (s.cursor.skip 1).take isNameChar
  let ended := match cursor.rest with
    | [] => true
    | c :: _ => blankNext cursor.rest || "?:,]\x7d%@\x60".toList.contains c
  if name = [] ∨ !ended then throw .badAnchor
  return { s.push (token (String.ofList name)) with cursor, keyAllowed := false }

/-- Takes a tag. -/
def tag (s : Scanner) : Except SyntaxError Scanner := do
  let s ← s.savePlace
  let (token, cursor) ← readTag s.inBrackets s.cursor
  return { s.push token with cursor, keyAllowed := false }

/-- The chomping of its mark. -/
def chomping? : Char → Option Chomping
  | '+' => some .keep
  | '-' => some .strip
  | _ => none

/-- Reads the marks in the first line of a block: chomping and indentation in either order. -/
def blockHeader (c : Cursor) : Except SyntaxError (Chomping × Nat × Cursor) := do
  let digit (c : Cursor) : Except SyntaxError (Nat × Cursor) :=
    match c.rest with
    | d :: _ =>
      if d = '0' then .error (.badCharacter d)
      else if d.isDigit then .ok (d.toNat - 48, c.skip 1)
      else .ok (0, c)
    | [] => .ok (0, c)
  let chomp (c : Cursor) : Option (Chomping × Cursor) :=
    (c.rest.head?.bind chomping?).map fun m => (m, c.skip 1)
  let (chomping, indent, c) ←
    match chomp c with
    | some (m, c) => do
      let (n, c) ← digit c
      pure (m, n, c)
    | none => do
      let (n, c) ← digit c
      match if n = 0 then none else chomp c with
      | some (m, c) => pure (m, n, c)
      | none => pure (Chomping.clip, n, c)
  let c := skipComment (c.take isSpace).2
  match c.rest with
  | [] => return (chomping, indent, c)
  | ch :: rest =>
    if isBreak ch then return (chomping, indent, ⟨rest, c.line + 1, 0⟩)
    else throw (.badCharacter ch)

/-- Takes a block. -/
def block (s : Scanner) (literal : Bool) : Except SyntaxError Scanner := do
  let s ← s.dropPlace
  let (chomping, indent, c) ← blockHeader (s.cursor.skip 1)
  let outer := s.indent.toNat
  let b : Block :=
    { literal, chomping
      indent := if indent = 0 then none else some (outer + indent)
      least := max (s.indent + 1).toNat 1 }
  let (text, cursor) ← readBlock b c.line c.column c.rest
  return { s.push (.scalar .block text) with cursor, keyAllowed := true }

/-- Takes a quoted scalar. -/
def quoted (s : Scanner) (single : Bool) : Except SyntaxError Scanner := do
  let s ← s.savePlace
  let c := s.cursor.skip 1
  let (text, cursor) ← readQuoted single {} c.line c.column c.rest
  return { s.push (.scalar .quoted text) with cursor, keyAllowed := false }

/-- Takes a plain scalar. -/
def plain (s : Scanner) : Except SyntaxError Scanner := do
  let s ← s.savePlace
  let c := s.cursor
  let (text, cursor, crossed) ←
    readPlain s.inBrackets (s.indent + 1).toNat [] {} c.line c.column c.rest
  return { s.push (.scalar .plain text) with cursor, keyAllowed := crossed }

/-- Whether a plain scalar may begin with a character and what follows it. -/
def beginsPlain (inBrackets : Bool) (c : Char) (rest : List Char) : Bool :=
  if c = '-' then !(rest.head?.any isSpace)
  else if c = '?' ∨ c = ':' then !inBrackets && !blankNext rest
  else !(isSpace c || "#&*!|>\x27\"%@\x60".toList.contains c || isBracketMark c)

/-- Takes the next token, once blanks are passed over and blocks closed. -/
def take (s : Scanner) (c : Char) (rest : List Char) : Except SyntaxError Scanner := do
  if s.cursor.column = 0 ∧ c = '%' then
    let s ← s.endBlocks
    let (token, cursor) ← readDirective s.cursor
    return { s.push token with cursor }
  if s.cursor.column = 0 ∧ boundaryNext (c :: rest) then
    return (← s.endBlocks).mark (if c = '-' then .documentStart else .documentEnd) 3
  match c with
  | '[' => s.openBracket .openList
  | '\x7b' => s.openBracket .openMapping
  | ']' => s.closeBracket .closeList
  | '\x7d' => s.closeBracket .closeMapping
  | ',' => s.comma
  | '*' => s.named .alias
  | '&' => s.named .anchor
  | '!' => s.tag
  | '\x27' => s.quoted true
  | '"' => s.quoted false
  | _ =>
    if c = '-' ∧ blankNext rest then s.dash
    else if c = '?' ∧ (s.inBrackets ∨ blankNext rest) then s.keyMark
    else if c = ':' ∧ (s.inBrackets ∨ blankNext rest) then s.colon
    else if c = '|' ∧ !s.inBrackets then s.block true
    else if c = '>' ∧ !s.inBrackets then s.block false
    else if beginsPlain s.inBrackets c rest then s.plain
    else throw (.badCharacter c)

/-- Takes all tokens. Every token takes a character of the text, so that the length of the text
bounds their number. -/
def run (s : Scanner) : Nat → Except SyntaxError (List Token)
  | 0 => .error .badStructure
  | bound + 1 => do
    let s ← s.toNext.dropStalePlaces
    match s.cursor.rest with
    | [] =>
      let s ← s.endBlocks
      return s.tokens.reverse
    | c :: rest =>
      let s ← (s.unindent s.cursor.column).take c rest
      s.run bound

end Scanner

/-- The tokens of a text. -/
def tokens (text : String) : Except SyntaxError (List Token) := do
  match text.toList.find? fun c => !isAllowed c with
  | some c => throw (.badCharacter c)
  | none =>
    let cs := lineEnds text.toList
    Scanner.run { cursor := { rest := cs } } (cs.length + 1)

end SchemaPages.Yaml
