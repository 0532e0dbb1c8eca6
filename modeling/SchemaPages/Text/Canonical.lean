import SchemaPages.Text.Split
/-!
# Canonical names

* `joinedWords`: `has employment history` becomes `HasEmploymentHistory`;
* `underscored`: `has employment history` becomes `has_employment_history`.
-/

namespace SchemaPages.Text

/-- A word with its first character in upper case and the rest as it is. -/
def capitalised : List Char → List Char
  | [] => []
  | c :: rest => upper c ++ rest

/-- The words of a text, which anything but letters and numbers separates. -/
def wordsOf (cs : List Char) : List (List Char) :=
  (splitOn (fun c => !isLetterOrNumber c) cs).filter (· ≠ [])

/-- The words of a text without what separates them, each with a capital. -/
def joinedWords (s : String) : String :=
  String.ofList ((wordsOf s.toList).flatMap capitalised)

/-- Every run of characters outside words becomes one underscore; the flag says that such a run has
begun. -/
def underscoreRuns (inRun : Bool) : List Char → List Char
  | [] => []
  | c :: rest =>
    if isWordChar c then c :: underscoreRuns false rest
    else if inRun then underscoreRuns true rest
    else '_' :: underscoreRuns true rest

/-- A text with an underscore for every run of characters outside words. -/
def underscored (s : String) : String :=
  String.ofList (underscoreRuns false s.toList)

end SchemaPages.Text
