import SchemaPages.Text.Table.Letter
import SchemaPages.Text.Table.Word
import SchemaPages.Text.Table.Alphanumeric
import SchemaPages.Text.Table.Printable
import SchemaPages.Text.Table.Cased
import SchemaPages.Text.Table.CaseMap
/-!
# Characters

Classes of characters and case maps. Every class answers ASCII by a rule of its own and looks the
rest up in a table of ranges.

* `isLetterOrNumber`, `isWordChar`, `isAlphanumeric`, `isBlank`: what a word is made of;
* `upper`, `lower`: full case maps, whose image may have several characters;
* `lowerText`: lower case of a text, where the sigma at the end of a word has a form of its own.
-/

namespace SchemaPages.Text

/-! ## 1. Looking tables up -/

/-- Whether one of the closed ranges holds the number. -/
def inRanges (ranges : List (Nat × Nat)) (n : Nat) : Bool :=
  ranges.any fun r => r.1 ≤ n && n ≤ r.2

/-- Whether one of the spans `(first, last, step)` meets the number. -/
def inSpans (spans : List (Nat × Nat × Nat)) (n : Nat) : Bool :=
  spans.any fun s => s.1 ≤ n && n ≤ s.2.1 && (n - s.1) % s.2.2 == 0

/-- The image of a code point under runs `(first, last, step, target)`, if a run meets it. -/
def imageInRuns (runs : List (Nat × Nat × Nat × Nat)) (n : Nat) : Option Nat :=
  (runs.find? fun r => r.1 ≤ n && n ≤ r.2.1 && (n - r.1) % r.2.2.1 == 0).map
    fun r => r.2.2.2 + (n - r.1)

/-! ## 2. Classes -/

/-- ASCII characters, for which no table is asked. -/
def isAscii (c : Char) : Bool := c.toNat < 0x80

/-- Letters and numbers, by general category. -/
def isLetterOrNumber (c : Char) : Bool :=
  if isAscii c then c.isAlphanum else inRanges letterRanges c.toNat

/-- Characters that stand inside a word, the underscore among them. -/
def isWordChar (c : Char) : Bool :=
  if isAscii c then c.isAlphanum || c == '_' else inRanges wordRanges c.toNat

/-- Alphabetic characters and numbers. -/
def isAlphanumeric (c : Char) : Bool :=
  if isAscii c then c.isAlphanum else inRanges alphanumericRanges c.toNat

/-- White space, the 25 characters of the property. -/
def isBlank (c : Char) : Bool :=
  inRanges [(0x09, 0x0D), (0x20, 0x20), (0x85, 0x85), (0xA0, 0xA0), (0x1680, 0x1680),
    (0x2000, 0x200A), (0x2028, 0x2029), (0x202F, 0x202F), (0x205F, 0x205F), (0x3000, 0x3000)]
    c.toNat

/-- Upper-case characters. -/
def isUpper (c : Char) : Bool :=
  if isAscii c then c.isUpper else inSpans upperSpans c.toNat

/-- Lower-case characters. -/
def isLower (c : Char) : Bool :=
  if isAscii c then c.isLower else inSpans lowerSpans c.toNat

/-- Characters with case. -/
def isCased (c : Char) : Bool :=
  if isAscii c then c.isAlpha else inRanges casedRanges c.toNat

/-- Characters that a search for a cased neighbour passes over. -/
def isCaseIgnorable (c : Char) : Bool :=
  if isAscii c then ['\'', '.', ':', '^', '\x60'].contains c else inRanges ignorableRanges c.toNat

/-- Characters that are written as an escape when a text is quoted. -/
def isShapeless (c : Char) : Bool :=
  if isAscii c then c.toNat < 0x20 || c.toNat == 0x7F
  else inRanges shapelessRanges c.toNat || inRanges extendingRanges c.toNat

/-! ## 3. Case maps -/

/-- The upper case of a character: one or several characters. -/
def upper (c : Char) : List Char :=
  if isAscii c then [c.toUpper]
  else match upperExpansions.lookup c.toNat with
    | some image => image.map Char.ofNat
    | none => [((imageInRuns upperRuns c.toNat).map Char.ofNat).getD c]

/-- The lower case of a character outside any text: one or several characters. -/
def lower (c : Char) : List Char :=
  if isAscii c then [c.toLower]
  else match lowerExpansions.lookup c.toNat with
    | some image => image.map Char.ofNat
    | none => [((imageInRuns lowerRuns c.toNat).map Char.ofNat).getD c]

/-- Whether the first character that a search for case does not pass over has case. -/
def startsCased (cs : List Char) : Bool :=
  match cs.dropWhile isCaseIgnorable with
  | c :: _ => isCased c
  | [] => false

/-- Lower case of the rest of a text, given what stands before it, nearest first.
A capital sigma after a cased character and before none becomes the final form. -/
def lowerAfter (before : List Char) : List Char → List Char
  | [] => []
  | c :: rest =>
    (if c == 'Σ' then
      [if startsCased before && !startsCased rest then 'ς' else 'σ']
    else lower c) ++ lowerAfter (c :: before) rest

/-- Lower case of a text. -/
def lowerText (s : String) : String :=
  String.ofList (lowerAfter [] s.toList)

end SchemaPages.Text
