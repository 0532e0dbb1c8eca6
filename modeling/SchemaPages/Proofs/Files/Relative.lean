import Mathlib.Data.List.Basic
import SchemaPages.Files.Path
/-!
# Relative paths

Where a path leads to from a folder, with both given by steps. Double dots lead up; those that lead
out of the first folder stay.

* `steps_append`, `steps_of_name`: the steps of paths that are put together;
* `Path.leads`, `Path.folderOf`: where a path leads to, and the folder of a file;
* `leads_up`: up from a folder and down again is down from the folder above.
-/

namespace SchemaPages

/-! ## 1. Steps -/

namespace Path

/-- A step that is neither empty nor stands for a folder already known. -/
structure IsName (step : String) : Prop where
  filled : step ≠ ""
  notHere : step ≠ "."
  notUp : step ≠ ".."
  plain : '/' ∉ step.toList

instance (step : String) : Decidable (IsName step) :=
  decidable_of_iff (step ≠ "" ∧ step ≠ "." ∧ step ≠ ".." ∧ '/' ∉ step.toList)
    ⟨fun ⟨filled, notHere, notUp, plain⟩ => ⟨filled, notHere, notUp, plain⟩,
      fun h => ⟨h.filled, h.notHere, h.notUp, h.plain⟩⟩

theorem pieces_append (a b : String) :
    Text.pieces '/' (a ++ "/" ++ b) = Text.pieces '/' a ++ Text.pieces '/' b := by
  unfold Text.pieces
  have split : Text.splitOn (· == '/') (a.toList ++ '/' :: b.toList) =
      Text.splitOn (· == '/') a.toList ++ Text.splitOn (· == '/') b.toList :=
    Text.splitOn_append rfl a.toList b.toList
  rw [String.toList_append, String.toList_append]
  rw [show a.toList ++ "/".toList ++ b.toList = a.toList ++ '/' :: b.toList by
    rw [List.append_assoc]; rfl]
  rw [split, List.map_append]

theorem steps_append (a b : String) : steps (a ++ "/" ++ b) = steps a ++ steps b := by
  unfold steps
  rw [pieces_append, List.filter_append]

theorem pieces_of_plain {p : String} (h : '/' ∉ p.toList) : Text.pieces '/' p = [p] := by
  have one : Text.splitOn (· == '/') p.toList = [p.toList] := by
    refine Text.splitOn_of_none fun c hc => ?_
    simpa using fun e : c = '/' => h (e ▸ hc)
  unfold Text.pieces
  rw [one, List.map_singleton, String.ofList_toList]

theorem steps_of_name {p : String} (h : IsName p) : steps p = [p] := by
  unfold steps
  rw [pieces_of_plain h.plain]
  simp [h.filled]

theorem not_slash_of_name {p : String} (h : IsName p) : Text.finishesWith "/" p = false := by
  rw [Bool.eq_false_iff]
  intro ends
  obtain ⟨before, same⟩ := List.isSuffixOf_iff_suffix.mp ends
  exact h.plain (same ▸ List.mem_append_right before List.mem_cons_self)

/-! ## 2. Where paths lead to -/

/-- The folder above. Double dots above the first folder add up; nothing is above the root. -/
def ascend (folder : List String) : List String :=
  match folder.getLast? with
  | none => [".."]
  | some ".." => folder ++ [".."]
  | some "/" => folder
  | some _ => folder.dropLast

/-- One step further. -/
def advance (folder : List String) (step : String) : List String :=
  if step = "." then folder else if step = ".." then ascend folder else folder ++ [step]

/-- **Where a path leads to from a folder.** An absolute path leads there from the root. -/
def leads (folder : List String) (path : String) : List String :=
  (steps path).foldl advance (if isAbsolute path then ["/"] else folder)

/-- The folder of a file, by its path. -/
def folderOf (path : String) : List String := (leads [] path).dropLast

theorem isAbsolute_of_plain {p : String} (h : '/' ∉ p.toList) : isAbsolute p = false := by
  unfold isAbsolute Text.beginsWith
  cases hp : p.toList with
  | nil => rfl
  | cons c rest =>
      have other : c ≠ '/' := fun e => h (hp ▸ e ▸ List.mem_cons_self)
      simpa [List.isPrefixOf] using fun e => other e.symm

/-- A path is as absolute as what it begins with, unless that is empty. -/
theorem isAbsolute_append {a : String} (h : a ≠ "") (b : String) :
    isAbsolute (a ++ b) = isAbsolute a := by
  unfold isAbsolute Text.beginsWith
  rw [String.toList_append]
  cases ha : a.toList with
  | nil => exact absurd (String.toList_eq_nil_iff.mp ha) h
  | cons c rest => rfl

theorem advance_name {folder : List String} {step : String} (h : IsName step) :
    advance folder step = folder ++ [step] := by
  unfold advance
  rw [if_neg h.notHere, if_neg h.notUp]

theorem leads_name {folder : List String} {p : String} (h : IsName p) :
    leads folder p = folder ++ [p] := by
  unfold leads
  rw [steps_of_name h, isAbsolute_of_plain h.plain, if_neg Bool.false_ne_true, List.foldl_cons,
    List.foldl_nil, advance_name h]

theorem isAbsolute_below {folder : String} (h : IsName folder) (p : String) :
    isAbsolute (folder ++ "/" ++ p) = false := by
  rw [String.append_assoc, isAbsolute_append h.filled, isAbsolute_of_plain h.plain]

theorem leads_below {folder p : String} (h : IsName folder) (hp : IsName p) :
    leads [] (folder ++ "/" ++ p) = [folder, p] := by
  unfold leads
  rw [steps_append, steps_of_name h, steps_of_name hp, isAbsolute_below h,
    if_neg Bool.false_ne_true, List.cons_append, List.nil_append, List.foldl_cons, List.foldl_cons,
    List.foldl_nil, advance_name h, advance_name hp]
  rfl

/-- **Up from a folder and down again** is down from the folder above. -/
theorem leads_up {folder p : String} (h : IsName folder) (hp : isAbsolute p = false) :
    leads [folder] ("../" ++ p) = leads [] p := by
  have up : steps ("../" ++ p) = ".." :: steps p := by
    rw [show "../" ++ p = ".." ++ "/" ++ p from rfl, steps_append]
    rfl
  have relative : isAbsolute ("../" ++ p) = false := by
    rw [isAbsolute_append (by decide)]
    rfl
  have above : advance [folder] ".." = [] := by
    show ascend [folder] = []
    unfold ascend
    simp only [List.getLast?_singleton]
    split
    · rename_i e; cases e
    · rename_i e; cases e; exact absurd rfl h.notUp
    · rename_i e; cases e; exact absurd h.plain (by decide)
    · rfl
  unfold leads
  rw [up, relative, hp, if_neg Bool.false_ne_true, if_neg Bool.false_ne_true, List.foldl_cons, above]

end Path

end SchemaPages
