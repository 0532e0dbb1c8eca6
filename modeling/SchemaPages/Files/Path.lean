import SchemaPages.Text.Split
/-!
# Paths

Paths are texts with steps between slashes. Repeated slashes and single dots count for nothing,
except that a path may begin with a single dot.

* `Path.join`: a path below another, unless it is absolute;
* `Path.parent?`, `Path.fileName?`, `Path.stem?`, `Path.extension?`: the parts of a path.
-/

namespace SchemaPages.Path

/-- Whether a path begins at the root. -/
def isAbsolute (p : String) : Bool := Text.beginsWith "/" p

/-- A path below another; an absolute path stands for itself. -/
def join (base p : String) : String :=
  if isAbsolute p ∨ base = "" then p
  else if Text.finishesWith "/" base then base ++ p
  else base ++ "/" ++ p

/-- The steps of a path. -/
def steps (p : String) : List String := (Text.pieces '/' p).filter (· ≠ "")

/-- A reversed path without the slashes and single dots at its end. -/
def trimReversed : List Char → List Char
  | '.' :: '/' :: rest => trimReversed ('/' :: rest)
  | '/' :: rest => if rest = [] then ['/'] else trimReversed rest
  | r => r

/-- The path without its last step, if it has one. -/
def parent? (p : String) : Option String :=
  let r := trimReversed p.toList.reverse
  if r = [] ∨ r = ['/'] then none
  else some (String.ofList (trimReversed (r.dropWhile (· ≠ '/'))).reverse)

/-- The last step of a path, unless it leads upwards or nowhere. -/
def fileName? (p : String) : Option String :=
  let name := String.ofList ((trimReversed p.toList.reverse).takeWhile (· ≠ '/')).reverse
  if name = "" ∨ name = "." ∨ name = ".." then none else some name

/-- A file name cut at its last point; a point at the very beginning does not count. -/
def cutName (name : String) : String × Option String :=
  match Text.splitOnce '.' name.toList.reverse with
  | some (after, before) =>
    if before = [] then (name, none)
    else (String.ofList before.reverse, some (String.ofList after.reverse))
  | none => (name, none)

/-- The file name without its extension. -/
def stem? (p : String) : Option String := (fileName? p).map fun n => (cutName n).1

/-- What stands behind the last point of the file name. -/
def extension? (p : String) : Option String := (fileName? p).bind fun n => (cutName n).2

end SchemaPages.Path
