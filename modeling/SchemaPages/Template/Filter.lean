import SchemaPages.Data.Json.Printer
import SchemaPages.Text.CaseStyle
/-!
# Filters

What templates can do to a value before they show it.

* `shorten`, `webText`: texts for the cells of tables;
* `showValue`: how a value reads in a page;
* `Filter.apply`.
-/

namespace SchemaPages.Template

/-! ## 1. Texts -/

/-- How many characters a description has at most in a table. -/
def widestCell : Nat := 80

/-- What stands before the first of the given characters. -/
def before (c : Char) (cs : List Char) : List Char := cs.takeWhile (· ≠ c)

/-- The first sentence in the first line, cut if it is too long. -/
def shortenChars (cs : List Char) : List Char :=
  let sentence := before '.' (before '\n' cs)
  if widestCell - 3 < sentence.length then sentence.take (widestCell - 3) ++ ['.', '.', '.']
  else sentence

/-- The first sentence in the first line of a text, cut if it is too long. -/
def shorten (s : String) : String := String.ofList (shortenChars s.toList)

/-- A text on one line, with marks where lines end. -/
def webText (s : String) : String := Text.join "<br>" (Text.pieces '\n' (Text.trim s))

/-- A text with its underscores escaped. -/
def escapeUnderscores (s : String) : String :=
  String.ofList (s.toList.flatMap fun c => if c = '_' then ['\\', '_'] else [c])

/-! ## 2. Values -/

/-- Doubles are shown positionally, however large or small. -/
def positional : Decimal.Layout := ⟨-400, 400, false⟩

/-- The text of a number; a whole double is shown without a point. -/
def showNumber : Number → String
  | .int i => toString i
  | .float bits => (Text.dropEnd? ".0" (positional.write bits)).getD (positional.write bits)

mutual

/-- How a value reads in a page. -/
def showValue : Value → String
  | .null => ""
  | .bool b => if b then "true" else "false"
  | .num n => showNumber n
  | .str s => s
  | .arr items => "[" ++ Text.join ", " (showValues items) ++ "]"
  | .obj _ => "[object]"

/-- How values read in a page. -/
def showValues : List Value → List String
  | [] => []
  | v :: rest => showValue v :: showValues rest

end

/-! ## 3. Filters -/

/-- A filter. -/
inductive Filter where
  /-- `shorten`, or `webText` where descriptions are not shortened. -/
  | cellText
  | webText
  | latex
  | snakeCase
  | pascalCase
  | camelCase
  | kebabCase
  | trim
  | join (separator : String)
  /-- Any other filter, which takes no value. -/
  | unknown (name : String)
  deriving DecidableEq, Repr

namespace Filter

/-- A function on texts as a function on values; `null` counts as an empty text. -/
def onText (f : String → String) : Value → Option Value
  | .null => some (.str (f ""))
  | .str s => some (.str (f s))
  | _ => none

/-- The value behind a filter, if the filter takes such values. -/
def apply (short : Bool) : Filter → Value → Option Value
  | .cellText, v => onText (if short then shorten else Template.webText) v
  | .webText, v => onText Template.webText v
  | .latex, v => onText escapeUnderscores v
  | .snakeCase, v => onText Text.snakeCase v
  | .pascalCase, v => onText Text.pascalCase v
  | .camelCase, v => onText Text.camelCase v
  | .kebabCase, v => onText Text.kebabCase v
  | .trim, .str s => some (.str (Text.trim s))
  | .trim, _ => none
  | .join separator, .arr items => some (.str (Text.join separator (showValues items)))
  | .join _, _ => none
  | .unknown _, _ => none

end Filter

end SchemaPages.Template
