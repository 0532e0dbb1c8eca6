import SchemaPages.Template.Set
/-!
# A small engine

An engine for templates that consist of text and of values between double braces, each with the names
of filters behind bars. A hyphen inside the braces takes away the white space on that side. There are
no statements, literals or operators in its language; whoever needs them takes another engine.

* `read?`: the template of a text;
* `TemplateEngine.values`: the engine.
-/

namespace SchemaPages.Template

/-- A piece of a template text. -/
inductive Token where
  | text (s : List Char)
  /-- What stands between braces, and whether white space before and after it goes. -/
  | value (inner : List Char) (trimBefore trimAfter : Bool)
  deriving DecidableEq, Repr

/-- The characters before a closing mark and those behind it. -/
def splitAtClose : List Char → Option (List Char × List Char)
  | '\x7d' :: '\x7d' :: rest => some ([], rest)
  | c :: rest => (splitAtClose rest).map fun (inner, rest) => (c :: inner, rest)
  | [] => none

/-- A value token, from what stands between its braces. -/
def valueToken (inner : List Char) : Token :=
  let (before, inner) := match inner with
    | '-' :: rest => (true, rest)
    | cs => (false, cs)
  let (after, inner) := match inner.reverse with
    | '-' :: rest => (true, rest.reverse)
    | _ => (false, inner)
  .value inner before after

/-- The pieces of a text, in so many steps at most. Statements and comments are refused. -/
def tokens? : Nat → List Char → List Char → Option (List Token)
  | _, read, [] => some (if read = [] then [] else [.text read.reverse])
  | 0, _, _ => none
  | bound + 1, read, '\x7b' :: '\x7b' :: rest => do
    let (inner, rest) ← splitAtClose rest
    let later ← tokens? bound [] rest
    return (if read = [] then [] else [.text read.reverse]) ++ valueToken inner :: later
  | _, _, '\x7b' :: '%' :: _ => none
  | _, _, '\x7b' :: '#' :: _ => none
  | bound + 1, read, c :: rest => tokens? bound (c :: read) rest

/-- Takes away the white space beside values that ask for it. -/
def trimmed (trimStart : Bool) : List Token → List Token
  | [] => []
  | .text s :: rest =>
    let s := if trimStart then s.dropWhile Text.isBlank else s
    let s := match rest with
      | .value _ true _ :: _ => Text.dropEndWhile Text.isBlank s
      | _ => s
    .text s :: trimmed false rest
  | .value inner before after :: rest => .value inner before after :: trimmed after rest

/-- The white space that may stand between braces. -/
def isInnerBlank (c : Char) : Bool := c == ' ' || c == '\t' || c == '\n' || c == '\r'

/-- A text without white space around it. -/
def stripped (cs : List Char) : List Char :=
  Text.dropEndWhile isInnerBlank (cs.dropWhile isInnerBlank)

/-- Whether a character may be in a name. -/
def isNameChar (c : Char) : Bool := c.isAlphanum || c == '_'

/-- The way that dots separate the steps of. -/
def way? (cs : List Char) : Option Way :=
  let steps := Text.splitOn (· == '.') (stripped cs)
  let starts : Bool := match cs.dropWhile isInnerBlank with
    | c :: _ => c.isAlpha || c == '_'
    | [] => false
  if starts ∧ steps.all (fun s => !s.isEmpty && s.all isNameChar) then
    some (steps.map String.ofList)
  else none

/-- A name behind a bar. -/
def filterName? (cs : List Char) : Option String :=
  let name := stripped cs
  if name ≠ [] ∧ name.all isNameChar ∧ !(name.head?.any Char.isDigit) then some (String.ofList name)
  else none

/-- The filters of this engine by name. -/
def Filter.choices : List (String × Filter) :=
  [("enshorten", .cellText), ("text_to_web", .webText), ("latex", .latex),
   ("snake_case", .snakeCase), ("pascal_case", .pascalCase), ("camel_case", .camelCase),
   ("kebab_case", .kebabCase), ("trim", .trim)]

/-- A filter by its name. One that is not among those of this engine fails when it is used. -/
def filter? (cs : List Char) : Option Filter :=
  (filterName? cs).map fun name => (Filter.choices.lookup name).getD (.unknown name)

/-- The part that what stands between braces is. -/
def valuePart? (inner : List Char) : Option Part :=
  match Text.splitOn (· == '|') inner with
  | [] => none
  | first :: rest => do
    let way ← way? first
    let filters ← rest.mapM filter?
    return .value way filters

/-- The part of a piece. -/
def part? : Token → Option Part
  | .text s => some (.text (String.ofList s))
  | .value inner _ _ => valuePart? inner

/-- The template of a text. -/
def read? (s : String) : Option (List Part) := do
  let cs := s.toList
  (trimmed false (← tokens? (cs.length + 1) [] cs)).mapM part?

end SchemaPages.Template

namespace SchemaPages.TemplateEngine

open Template

/-- The template of a file, if it is one. -/
def readFile (name : String) : Content → Option (String × CustomTemplate)
  | .undecodable => none
  | .text s => (read? s).map fun parts =>
      (name, fun short _ names => (render short names parts).toOption)

/-- **The engine for templates of text and values.** -/
def values : TemplateEngine where
  load fs directory :=
    ((fs.filesBelow directory).filter fun (name, _) =>
      Text.finishesWith TemplateKind.ending name).mapM fun (name, content) => readFile name content

end SchemaPages.TemplateEngine
