import SchemaPages.Text.Split
/-!
# Case styles

Words of an identifier, found at separators and at changes of case, and the styles that write them
together again.

* `caseWords`: `"XMLHttpRequest_v2"` has the words `XML`, `Http`, `Request` and `v2`;
* `snakeCase`, `kebabCase`, `pascalCase`, `camelCase`.
-/

namespace SchemaPages.Text

/-- The case of what was read of a word so far. -/
inductive WordMode where
  | start
  | lower
  | upper
  deriving DecidableEq, Repr

/-- The mode after a character that does not end a word. -/
def WordMode.after (mode : WordMode) (c : Char) : WordMode :=
  if isLower c then .lower else if isUpper c then .upper else mode

/-- Cuts a run of alphanumeric characters where lower case meets upper case, and before the last
of several capitals that lower case follows. What was read of the current word comes reversed. -/
def caseSegments (mode : WordMode) (read : List Char) : List Char → List (List Char)
  | [] => []
  | [c] => [(c :: read).reverse]
  | c :: next :: rest =>
    if mode.after c = .lower ∧ isUpper next then
      (c :: read).reverse :: caseSegments .start [] (next :: rest)
    else if mode = .upper ∧ isUpper c ∧ isLower next then
      read.reverse :: caseSegments .start [c] (next :: rest)
    else caseSegments (mode.after c) (c :: read) (next :: rest)

/-- The words of an identifier. -/
def caseWords (s : String) : List (List Char) :=
  (splitOn (fun c => !isAlphanumeric c) s.toList).flatMap (caseSegments .start [])

/-- A word in lower case; a capital sigma at its end takes the final form. -/
def lowerWord : List Char → List Char
  | [] => []
  | [c] => if c == 'Σ' then ['ς'] else lower c
  | c :: rest => lower c ++ lowerWord rest

/-- A word with its first character in upper case and the others in lower case. -/
def capitalWord : List Char → List Char
  | [] => []
  | c :: rest => upper c ++ lowerWord rest

/-- Words in lower case joined with underscores. -/
def snakeCase (s : String) : String :=
  join "_" ((caseWords s).map fun w => String.ofList (lowerWord w))

/-- Words in lower case joined with hyphens. -/
def kebabCase (s : String) : String :=
  join "-" ((caseWords s).map fun w => String.ofList (lowerWord w))

/-- Capitalised words without a separator. -/
def pascalCase (s : String) : String :=
  join "" ((caseWords s).map fun w => String.ofList (capitalWord w))

/-- Like `pascalCase`, with the first word in lower case. -/
def camelCase (s : String) : String :=
  match caseWords s with
  | [] => ""
  | w :: rest =>
    String.ofList (lowerWord w) ++ join "" (rest.map fun w => String.ofList (capitalWord w))

end SchemaPages.Text
