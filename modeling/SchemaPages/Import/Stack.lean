import SchemaPages.Import.SchemaFile
/-!
# The chain of imports

* `ImportStack`: the schemas being imported, each by the one before it;
* `ImportStack.push`: one schema more, unless the limit is reached.
-/

namespace SchemaPages.Import

/-- The schemas being imported, the first one first, and how many there may be. -/
structure ImportStack where
  limit : Nat
  paths : List String := []
  deriving DecidableEq, Repr

namespace ImportStack

/-- How many schemas are being imported. -/
def depth (s : ImportStack) : Nat := s.paths.length

/-- One schema more. -/
def push (s : ImportStack) (path : String) : Except LoadError ImportStack :=
  if s.limit ≤ s.depth then .error (.tooDeep s.limit (s.paths ++ [path]))
  else .ok { s with paths := s.paths ++ [path] }

/-- The schema imported last, and the others. -/
def pop (s : ImportStack) : Option String × ImportStack :=
  (s.paths.getLast?, { s with paths := s.paths.dropLast })

/-- The schema whose imports are being read. -/
def top (s : ImportStack) : String := s.paths.getLast?.getD ""

/-- How many schemas there may still be. -/
def room (s : ImportStack) : Nat := s.limit - s.depth

theorem room_lt_of_push {s t : ImportStack} {path : String} (h : s.push path = .ok t) :
    t.room < s.room := by
  unfold push at h
  split at h
  · cases h
  · cases h
    simp only [room, depth, List.length_append, List.length_singleton] at *
    omega

end ImportStack

end SchemaPages.Import
