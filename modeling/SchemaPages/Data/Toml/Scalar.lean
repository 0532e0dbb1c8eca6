import SchemaPages.Decimal.Width
import SchemaPages.Data.Value
import SchemaPages.Text.Split
/-!
# TOML scalars

* `readString`: a text in one of the four ways of quoting;
* `wordValue?`: the switch, number, date or time that a word spells.
-/

namespace SchemaPages.Toml

/-- Blanks within a line. -/
def isBlank (c : Char) : Bool := c == ' ' || c == '\t'

/-- Characters that may stand in texts and comments as they are. -/
def isPlain (c : Char) : Bool := c == '\t' || (c.toNat ≥ 0x20 && c.toNat != 0x7F)

/-- The apostrophe. -/
def apostrophe : Char := '\x27'

/-! ## 1. Texts -/

/-- The value of a digit in base sixteen. -/
def hexValue? (c : Char) : Option Nat :=
  if c.isDigit then some (c.toNat - 48)
  else if 'a' ≤ c ∧ c ≤ 'f' then some (c.toNat - 87)
  else if 'A' ≤ c ∧ c ≤ 'F' then some (c.toNat - 55)
  else none

/-- The character with a code point in base sixteen. -/
def codePoint? (digits : List Char) : Option Char := do
  let n ← digits.foldlM (fun n c => (hexValue? c).map (n * 16 + ·)) 0
  if n.isValidChar then some (Char.ofNat n) else none

/-- The character behind a backslash and a letter. -/
def unescapeLetter? : Char → Option Char
  | 'b' => some '\x08'
  | 't' => some '\t'
  | 'n' => some '\n'
  | 'f' => some '\x0c'
  | 'r' => some '\r'
  | '"' => some '"'
  | '\\' => some '\\'
  | _ => none

/-- Reads a text on one line up to its double quote. -/
def readBasic (read : List Char) : List Char → Option (String × List Char)
  | [] => none
  | '"' :: rest => some (String.ofList read.reverse, rest)
  | '\\' :: 'u' :: a :: b :: c :: d :: rest => do
    readBasic ((← codePoint? [a, b, c, d]) :: read) rest
  | '\\' :: 'U' :: a :: b :: c :: d :: e :: f :: g :: h :: rest => do
    readBasic ((← codePoint? [a, b, c, d, e, f, g, h]) :: read) rest
  | '\\' :: c :: rest => do readBasic ((← unescapeLetter? c) :: read) rest
  | c :: rest => if isPlain c ∧ c ≠ '\\' then readBasic (c :: read) rest else none

/-- Reads a text on one line up to its apostrophe. -/
def readLiteral (read : List Char) : List Char → Option (String × List Char)
  | [] => none
  | c :: rest =>
    if c = apostrophe then some (String.ofList read.reverse, rest)
    else if isPlain c then readLiteral (c :: read) rest
    else none

/-- The end of a text on several lines, after three quotes: up to two more quotes belong to the
text. -/
def closing (quote : Char) (read : List Char) (rest : List Char) : String × List Char :=
  let more := ((rest.take 2).takeWhile (· = quote)).length
  (String.ofList (List.replicate more quote ++ read).reverse, rest.drop more)

/-- What a backslash at the end of a line does to what follows. -/
inductive Folding where
  | off
  /-- Only blanks may come before the end of the line. -/
  | beforeEnd
  /-- Blanks and line ends are passed over. -/
  | afterEnd
  deriving DecidableEq, Repr

/-- Reads a text on several lines between double quotes. -/
def readLongBasic (folding : Folding) (read : List Char) : List Char → Option (String × List Char)
  | [] => none
  | '\r' :: '\n' :: rest =>
    if folding = .off then readLongBasic .off ('\n' :: read) rest
    else readLongBasic .afterEnd read rest
  | '\n' :: rest =>
    if folding = .off then readLongBasic .off ('\n' :: read) rest
    else readLongBasic .afterEnd read rest
  | '"' :: '"' :: '"' :: rest =>
    if folding = .beforeEnd then none else some (closing '"' read rest)
  | '\\' :: 'u' :: a :: b :: c :: d :: rest => do
    if folding = .beforeEnd then none
    readLongBasic .off ((← codePoint? [a, b, c, d]) :: read) rest
  | '\\' :: 'U' :: a :: b :: c :: d :: e :: f :: g :: h :: rest => do
    if folding = .beforeEnd then none
    readLongBasic .off ((← codePoint? [a, b, c, d, e, f, g, h]) :: read) rest
  | '\\' :: '\r' :: '\n' :: rest =>
    if folding = .beforeEnd then none else readLongBasic .afterEnd read rest
  | '\\' :: c :: rest =>
    if folding = .beforeEnd then none
    else if c = '\n' then readLongBasic .afterEnd read rest
    else if isBlank c then readLongBasic .beforeEnd read rest
    else do readLongBasic .off ((← unescapeLetter? c) :: read) rest
  | c :: rest =>
    if folding ≠ .off ∧ isBlank c then readLongBasic folding read rest
    else if folding = .beforeEnd ∨ !isPlain c ∨ c = '\\' then none
    else readLongBasic .off (c :: read) rest

/-- Reads a text on several lines between apostrophes. -/
def readLongLiteral (read : List Char) : List Char → Option (String × List Char)
  | [] => none
  | '\r' :: '\n' :: rest => readLongLiteral ('\n' :: read) rest
  | '\n' :: rest => readLongLiteral ('\n' :: read) rest
  | '\x27' :: '\x27' :: '\x27' :: rest => some (closing apostrophe read rest)
  | c :: rest => if isPlain c then readLongLiteral (c :: read) rest else none

/-- A text without the line end that it may begin with. -/
def dropLineEnd : List Char → List Char
  | '\n' :: rest => rest
  | '\r' :: '\n' :: rest => rest
  | cs => cs

/-- Reads a text, if one begins here. -/
def readString : List Char → Option (String × List Char)
  | '"' :: '"' :: '"' :: rest => readLongBasic .off [] (dropLineEnd rest)
  | '"' :: rest => readBasic [] rest
  | '\x27' :: '\x27' :: '\x27' :: rest => readLongLiteral [] (dropLineEnd rest)
  | '\x27' :: rest => readLiteral [] rest
  | _ => none

/-! ## 2. Numbers -/

/-- The digits of a number without the low lines between them. -/
def digits? (isDigit : Char → Bool) (cs : List Char) : Option (List Char) :=
  let groups := Text.splitOn (· == '_') cs
  if groups.all fun g => g ≠ [] && g.all isDigit then some groups.flatten else none

/-- The number that digits spell in a base. -/
def ofDigits (base : Nat) (digits : List Char) : Nat :=
  digits.foldl (fun n c => n * base + (hexValue? c).getD 0) 0

/-- The digits of a whole part, which has no zero before other digits. -/
def wholePart? (cs : List Char) : Option (List Char) := do
  let digits ← digits? Char.isDigit cs
  if digits.head? = some '0' ∧ cs ≠ ['0'] then none
  return digits

/-- A number as a whole number of 64 bits. -/
def ofInt? (i : Int) : Option Value :=
  if Decimal.fitsSigned 64 i then some (.num (.int i)) else none

/-- Splits off a sign. -/
def splitSign : List Char → Bool × List Char
  | '-' :: rest => (true, rest)
  | '+' :: rest => (false, rest)
  | cs => (false, cs)

/-- The whole number that a word spells. -/
def int? (w : List Char) : Option Value :=
  match w with
  | '0' :: 'x' :: rest => (digits? (hexValue? · |>.isSome) rest).bind fun d => ofInt? (ofDigits 16 d)
  | '0' :: 'o' :: rest => (digits? (fun c => '0' ≤ c ∧ c ≤ '7') rest).bind fun d => ofInt? (ofDigits 8 d)
  | '0' :: 'b' :: rest => (digits? (fun c => c == '0' || c == '1') rest).bind fun d => ofInt? (ofDigits 2 d)
  | w =>
    let (negative, cs) := splitSign w
    (wholePart? cs).bind fun d =>
      let n : Int := ofDigits 10 d
      ofInt? (if negative then -n else n)

/-- The bits of a number with the given sign. -/
def signed (negative : Bool) (bits : UInt64) : Value :=
  .num (.float (if negative then bits ||| 0x8000000000000000 else bits))

/-- The exponent behind its mark. -/
def exponent? (cs : List Char) : Option Int :=
  let (negative, cs) := splitSign cs
  (digits? Char.isDigit cs).map fun d =>
    let n : Int := ofDigits 10 d
    if negative then -n else n

/-- The number with a point or an exponent that a word spells. -/
def float? (w : List Char) : Option Value := do
  let (negative, cs) := splitSign w
  if cs = "inf".toList then return signed negative Decimal.infinityBits
  if cs = "nan".toList then return signed negative 0x7FF8000000000000
  let mantissa := cs.takeWhile fun c => c != 'e' && c != 'E'
  let exponent ← match cs.drop mantissa.length with
    | [] => some 0
    | _ :: rest => exponent? rest
  let (whole, fraction) ← match Text.splitOnce '.' mantissa with
    | some (whole, fraction) => (digits? Char.isDigit fraction).map fun f => (whole, f)
    | none => if mantissa.length < cs.length then some (mantissa, []) else none
  let whole ← wholePart? whole
  return signed negative
    (Decimal.nearest (ofDigits 10 (whole ++ fraction)) (exponent - fraction.length))

/-! ## 3. Dates and times -/

/-- The number of a field with as many digits as given. -/
def field? (width : Nat) (cs : List Char) : Option Nat :=
  if cs.length = width ∧ cs.all Char.isDigit then some (ofDigits 10 cs) else none

/-- How many days a month has. -/
def daysIn (year month : Nat) : Nat :=
  if month = 2 then
    if year % 4 = 0 ∧ (year % 100 ≠ 0 ∨ year % 400 = 0) then 29 else 28
  else if [4, 6, 9, 11].contains month then 30
  else 31

/-- Whether a word is a date. -/
def isDate (w : List Char) : Bool :=
  match Text.splitOn (· == '-') w with
  | [y, m, d] =>
    match field? 4 y, field? 2 m, field? 2 d with
    | some y, some m, some d => 1 ≤ m && m ≤ 12 && 1 ≤ d && d ≤ daysIn y m
    | _, _, _ => false
  | _ => false

/-- Whether a word is an hour and a minute. -/
def isHourMinute (h m : List Char) : Bool :=
  match field? 2 h, field? 2 m with
  | some h, some m => h < 24 && m < 60
  | _, _ => false

/-- Whether a word is a time of day. -/
def isTime (w : List Char) : Bool :=
  match Text.splitOn (· == ':') w with
  | [h, m, s] =>
    let (whole, fraction) := (Text.splitOnce '.' s).getD (s, ['0'])
    isHourMinute h m && (field? 2 whole).any (· ≤ 60) && fraction ≠ [] && fraction.all Char.isDigit
  | _ => false

/-- Whether a word is a distance from universal time. -/
def isOffset (w : List Char) : Bool :=
  match w with
  | [c] => c == 'Z' || c == 'z'
  | c :: rest =>
    (c == '+' || c == '-') &&
      match Text.splitOn (· == ':') rest with
      | [h, m] => isHourMinute h m
      | _ => false
  | [] => false

/-- Whether a word is a time of day, with a distance from universal time or without. -/
def isZonedTime (w : List Char) : Bool :=
  let time := w.takeWhile fun c => c.isDigit || c == ':' || c == '.'
  let offset := w.drop time.length
  isTime time && (offset = [] || isOffset offset)

/-- Whether a word is a date, a time, or both. -/
def isMoment (w : List Char) : Bool :=
  isTime w || isDate w ||
    match w.drop 10 with
    | c :: rest => (c == 'T' || c == 't' || c == ' ') && isDate (w.take 10) && isZonedTime rest
    | [] => false

/-! ## 4. Words -/

/-- The characters of words. -/
def isWordChar (c : Char) : Bool :=
  c.isAlphanum || c == '_' || c == '-' || c == '+' || c == '.' || c == ':'

/-- The word that a text begins with. A blank after a date may join a time to it. -/
def splitWord (cs : List Char) : List Char × List Char :=
  let w := cs.takeWhile isWordChar
  match cs.drop w.length with
  | ' ' :: c :: rest =>
    if c.isDigit ∧ isDate w then
      let time := (c :: rest).takeWhile isWordChar
      (w ++ ' ' :: time, (c :: rest).drop time.length)
    else (w, ' ' :: c :: rest)
  | rest => (w, rest)

/-- The value of a word. A date or time is a mapping that holds its text. -/
def wordValue? (w : List Char) : Option Value :=
  if w = "true".toList then some (.bool true)
  else if w = "false".toList then some (.bool false)
  else if isMoment w then some (.obj [("moment", .str (String.ofList w))])
  else (int? w).or (float? w)

end SchemaPages.Toml
