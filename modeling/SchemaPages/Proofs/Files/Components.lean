import SchemaPages.Proofs.Files.Actions
import SchemaPages.Proofs.Files.Relative
import SchemaPages.Proofs.Text.Canonical
/-!
# Components of paths

A path is taken apart into how it begins and its steps, and followed from the root of a file system. A
path below a folder leads to a place below that of the folder as long as none of its steps leads up.

* `Path.components`, `Path.Sits`: the components of a path, and paths that stand where they should;
* `sits_plain_iff`, `sits_below_iff`: which file names do;
* `FileSystem.KeepsFolders`, `follow_kept`: directories that stay lead where they led;
* `locate_join`: a path that stands where it should leads below the place of its folder;
* `locate_name`: a name in a directory leads to the place of that name;
* `readText_of_writeText`: what has been written is read back.
-/

namespace SchemaPages

/-! ## 1. Pieces -/

namespace Text

/-- What has no separator goes to the last piece of what stands before it. -/
theorem splitOn_append_plain {sep : Char → Bool} {ys : List Char} (h : ∀ c ∈ ys, sep c = false)
    (xs : List Char) : ∃ front last, splitOn sep xs = front ++ [last] ∧
      splitOn sep (xs ++ ys) = front ++ [last ++ ys] := by
  induction xs with
  | nil => exact ⟨[], [], rfl, splitOn_of_none h⟩
  | cons x rest ih =>
      obtain ⟨front, last, split, longer⟩ := ih
      rw [List.cons_append]
      simp only [splitOn]
      by_cases hx : sep x = true
      · rw [if_pos hx, if_pos hx, split, longer]
        exact ⟨[] :: front, last, rfl, rfl⟩
      · rw [if_neg hx, if_neg hx, split, longer]
        cases front with
        | nil => exact ⟨[], x :: last, rfl, rfl⟩
        | cons first others => exact ⟨(x :: first) :: others, last, rfl, rfl⟩

theorem pieces_append_plain {sep : Char} {b : String} (h : sep ∉ b.toList) (a : String) :
    ∃ front last, pieces sep a = front ++ [last] ∧ sep ∉ last.toList ∧
      pieces sep (a ++ b) = front ++ [last ++ b] := by
  have plain : ∀ c ∈ b.toList, (c == sep) = false := fun c hc => by
    simpa using fun e : c = sep => h (e ▸ hc)
  obtain ⟨front, last, split, longer⟩ := splitOn_append_plain plain a.toList
  refine ⟨front.map String.ofList, String.ofList last, ?_, ?_, ?_⟩
  · unfold pieces
    rw [split, List.map_append]
    rfl
  · intro there
    rw [String.toList_ofList] at there
    have mem : last ∈ splitOn (· == sep) a.toList := by
      rw [split]
      exact List.mem_append_right front List.mem_cons_self
    exact absurd (not_sep_of_mem_splitOn mem sep there) (by simp)
  · unfold pieces
    rw [String.toList_append, longer, List.map_append, List.map_singleton, String.ofList_append,
      String.ofList_toList]

end Text

namespace Path

open Text

/-- A path is absolute when its first piece is empty and another one follows. -/
theorem isAbsolute_iff {p : String} :
    isAbsolute p = true ↔ ∃ rest, rest ≠ [] ∧ pieces '/' p = "" :: rest := by
  unfold isAbsolute beginsWith pieces
  cases hp : p.toList with
  | nil => simp [splitOn]
  | cons c rest =>
      by_cases hc : c = '/'
      · simp [splitOn, hc, splitOn_ne_nil, List.isPrefixOf]
      · have other : ¬ '/' = c := fun e => hc e.symm
        cases split : splitOn (· == '/') rest with
        | nil => exact absurd split (splitOn_ne_nil _ rest)
        | cons first others => simp [splitOn, hc, split, List.isPrefixOf, other]

/-! ## 2. Components -/

/-- How a path begins: at the root, or with the folder that it starts from. -/
def start (p : String) : List String :=
  if isAbsolute p then ["/"] else if (pieces '/' p).head? = some "." then ["."] else []

/-- **The components of a path**: how it begins, and its steps. Single dots count for nothing after
    the beginning, double dots are components of their own. -/
def components (p : String) : List String := start p ++ (steps p).filter (· ≠ ".")

/-- **The path stands in a folder**: it is relative, does not lead up, and has a file name after the
    steps of the folder. -/
structure Sits (home : List String) (p : String) : Prop where
  relative : isAbsolute p = false
  down : ".." ∉ components p
  placed : ∃ file, IsName file ∧ components p = home ++ [file]

theorem pieces_below {folder : String} (h : IsName folder) (p : String) :
    pieces '/' (folder ++ "/" ++ p) = folder :: pieces '/' p := by
  rw [pieces_append, pieces_of_plain h.plain]
  rfl

/-- What stands below a folder is relative, and the folder is its first component. -/
theorem components_below {folder : String} (h : IsName folder) (p : String) :
    components (folder ++ "/" ++ p) = folder :: (steps p).filter (· ≠ ".") := by
  have begins : start (folder ++ "/" ++ p) = [] := by
    unfold start
    rw [isAbsolute_below h, if_neg Bool.false_ne_true, pieces_below h]
    simp [h.notHere]
  unfold components
  rw [begins, steps_append, steps_of_name h, List.nil_append, List.singleton_append,
    List.filter_cons_of_pos (by simp [h.notHere])]

/-- A path in a folder begins with its first step. -/
theorem Sits.start_eq_nil {home : List String} {p : String} (h : Sits home p) (plain : "." ∉ home) :
    start p = [] := by
  obtain ⟨file, name, parts⟩ := h.placed
  have no_dot : "." ∉ components p := by
    rw [parts, List.mem_append, List.mem_singleton]
    exact not_or.mpr ⟨plain, name.notHere.symm⟩
  unfold components start at no_dot
  unfold start
  rw [h.relative, if_neg Bool.false_ne_true] at no_dot ⊢
  split
  · rename_i dot
    rw [if_pos dot] at no_dot
    exact absurd (List.mem_append_left _ List.mem_cons_self) no_dot
  · rfl

/-! ## 3. File names below a folder -/

section Files

variable {p file : String} {front : List String}

/-- The steps before the last that lead somewhere. -/
def leading (front : List String) : List String := front.filter fun x => x ≠ "" ∧ x ≠ "."

theorem leading_eq_nil_iff : leading front = [] ↔ ∀ x ∈ front, x = "" ∨ x = "." := by
  unfold leading
  rw [List.filter_eq_nil_iff]
  refine forall₂_congr fun x _ => ?_
  simp only [decide_eq_true_eq]
  tauto

theorem steps_of_pieces (h : IsName file) (split : pieces '/' p = front ++ [file]) :
    (steps p).filter (· ≠ ".") = leading front ++ [file] := by
  unfold steps leading
  rw [split, List.filter_filter, List.filter_append, List.filter_cons_of_pos (by
    simp [h.filled, h.notHere])]
  refine congrArg (· ++ [file]) (List.filter_congr fun x _ => ?_)
  simp [Bool.and_comm]

/-- **A path that stands directly in its folder is a file name**: it has a single piece. -/
theorem sits_plain_iff (h : IsName file) (split : pieces '/' p = front ++ [file]) :
    Sits [] p ↔ front = [] := by
  constructor
  · intro sits
    obtain ⟨name, _, one⟩ := sits.placed
    unfold components at one
    rw [steps_of_pieces h split, ← List.append_assoc, List.nil_append] at one
    have sizes := congrArg List.length one
    simp only [List.length_append, List.length_singleton] at sizes
    have begins : start p = [] := List.length_eq_zero_iff.mp (by omega)
    have still : leading front = [] := List.length_eq_zero_iff.mp (by omega)
    -- the first piece would be a dot, which counts at the beginning, or the root
    cases front with
    | nil => rfl
    | cons first others =>
        rcases leading_eq_nil_iff.mp still first List.mem_cons_self with rfl | rfl
        · have absolute : isAbsolute p = true :=
            isAbsolute_iff.mpr ⟨others ++ [file], by simp, split⟩
          rw [sits.relative] at absolute
          cases absolute
        · unfold start at begins
          rw [sits.relative, split, if_neg Bool.false_ne_true] at begins
          simp at begins
  · rintro rfl
    have relative : isAbsolute p = false := by
      refine Bool.eq_false_iff.mpr fun absolute => ?_
      obtain ⟨rest, more, pieces⟩ := isAbsolute_iff.mp absolute
      rw [split] at pieces
      cases pieces
      exact more rfl
    have begins : start p = [] := by
      unfold start
      rw [relative, if_neg Bool.false_ne_true, split]
      simp [h.notHere]
    have one : components p = [file] := by
      unfold components
      rw [begins, steps_of_pieces h split]
      rfl
    refine ⟨relative, ?_, file, h, one⟩
    rw [one, List.mem_singleton]
    exact h.notUp.symm

theorem sits_of_name {p : String} (h : IsName p) : Sits [] p :=
  (sits_plain_iff h (pieces_of_plain h.plain)).mpr rfl

/-- **A path stands in a folder below** when nothing but its last step leads anywhere. -/
theorem sits_below_iff {folder : String} (hf : IsName folder) (h : IsName file)
    (split : pieces '/' p = front ++ [file]) :
    Sits [folder] (folder ++ "/" ++ p) ↔ ∀ x ∈ front, x = "" ∨ x = "." := by
  rw [← leading_eq_nil_iff]
  have parts : components (folder ++ "/" ++ p) = folder :: (leading front ++ [file]) := by
    rw [components_below hf, steps_of_pieces h split]
  constructor
  · intro sits
    obtain ⟨name, _, two⟩ := sits.placed
    rw [parts] at two
    have sizes := congrArg List.length two
    simp only [List.length_cons, List.length_append, List.length_nil] at sizes
    exact List.length_eq_zero_iff.mp (by omega)
  · intro still
    rw [still, List.nil_append] at parts
    refine ⟨isAbsolute_below hf p, ?_, file, h, parts⟩
    rw [parts]
    simp [hf.notUp.symm, h.notUp.symm]

end Files

/-! ## 4. Paths that are put together -/

theorem isAbsolute_join {p : String} (h : isAbsolute p = false) (base : String) :
    isAbsolute (join base p) = isAbsolute base := by
  unfold join
  rw [h]
  by_cases he : base = ""
  · rw [if_pos (Or.inr he), h, he]
    rfl
  · rw [if_neg (by simp [he])]
    split
    · exact isAbsolute_append he p
    · rw [String.append_assoc, isAbsolute_append he]

theorem steps_join {p : String} (h : isAbsolute p = false) (base : String) :
    steps (join base p) = steps base ++ steps p := by
  unfold join
  rw [h]
  by_cases he : base = ""
  · rw [if_pos (Or.inr he), he]
    rfl
  · rw [if_neg (by simp [he])]
    split
    · rename_i ends
      obtain ⟨before, same⟩ := List.isSuffixOf_iff_suffix.mp ends
      have cut : base = String.ofList before ++ "/" ++ "" := by
        rw [String.append_empty, ← String.toList_inj, String.toList_append, String.toList_ofList, same]
      have steps_base : steps base = steps (String.ofList before) := by
        rw [cut, steps_append]
        exact List.append_nil _
      rw [steps_base, ← steps_append]
      rw [cut, String.append_empty]
    · exact steps_append base p

/-- Different names in a directory have different paths. -/
theorem join_name_inj {base a b : String} (ha : IsName a) (hb : IsName b)
    (h : join base a = join base b) : a = b := by
  have steps := congrArg Path.steps h
  rw [steps_join (isAbsolute_of_plain ha.plain), steps_join (isAbsolute_of_plain hb.plain),
    steps_of_name ha, steps_of_name hb] at steps
  exact List.singleton_inj.mp (List.append_cancel_left steps)

end Path

/-! ## 5. Following paths -/

namespace FileSystem

variable {fs before after : FileSystem} {p q : Place} {path : String}

/-- Where a path begins. -/
def root (fs : FileSystem) (path : String) : Place :=
  if Path.isAbsolute path then [] else fs.workingDirectory

/-- **Directories stay**, and relative paths begin where they did. -/
structure KeepsFolders (before after : FileSystem) : Prop where
  kept : ∀ p, before.node? p = some .dir → after.node? p = some .dir
  here : after.workingDirectory = before.workingDirectory

theorem keepsFolders_refl (fs : FileSystem) : fs.KeepsFolders fs := ⟨fun _ h => h, rfl⟩

theorem keepsFolders_trans {a b c : FileSystem} (h : a.KeepsFolders b) (h' : b.KeepsFolders c) :
    a.KeepsFolders c :=
  ⟨fun p hp => h'.kept p (h.kept p hp), h'.here.trans h.here⟩

theorem keepsFolders_of_addsFolders (h : before.AddsFolders after) : before.KeepsFolders after :=
  ⟨fun p hp => h.kept p _ hp, h.here⟩

/-- Writing a file takes the place of no directory. -/
theorem keepsFolders_of_writeText {text : String} (h : before.writeText path text = .ok after) :
    before.KeepsFolders after := by
  obtain ⟨place, _, _, free, rfl⟩ := writeText_ok h
  refine ⟨fun q hq => ?_, rfl⟩
  have other : q ≠ place := fun e => free (e ▸ hq)
  rw [node?_put_of_ne before _ other]
  exact hq

/-- Where one step leads to from a directory. -/
def Moves (p : Place) (step : String) (q : Place) : Prop :=
  if step = "." then q = p
  else if step = ".." then q = p.dropLast
  else step.utf8ByteSize ≤ longestName ∧ q = p ++ [step]

/-- **A step is taken from a directory**, the others from where it leads to. -/
theorem follow_cons_ok {step : String} {rest : List String} :
    fs.follow p (step :: rest) = .ok q ↔
      fs.node? p = some .dir ∧ ∃ r, Moves p step r ∧ fs.follow r rest = .ok q := by
  rw [follow]
  unfold Moves
  cases hn : fs.node? p with
  | none => simp
  | some n =>
      cases n with
      | file c => simp
      | dir =>
          by_cases here : step = "."
          · simp [here]
          · by_cases up : step = ".."
            · simp [up]
            · by_cases long : longestName < step.utf8ByteSize
              · simp [here, up, long, Nat.not_le.mpr long]
              · simp [here, up, long, Nat.not_lt.mp long]

theorem follow_append_ok {xs ys : List String} :
    fs.follow p (xs ++ ys) = .ok q ↔
      ∃ m, fs.follow p xs = .ok m ∧ fs.follow m ys = .ok q := by
  induction xs generalizing p with
  | nil => simp [follow]
  | cons step rest ih =>
      rw [List.cons_append]
      simp only [follow_cons_ok]
      constructor
      · rintro ⟨dir, r, moves, led⟩
        obtain ⟨m, first, later⟩ := ih.mp led
        exact ⟨m, ⟨dir, r, moves, first⟩, later⟩
      · rintro ⟨m, ⟨dir, r, moves, first⟩, later⟩
        exact ⟨dir, r, moves, ih.mpr ⟨m, first, later⟩⟩

/-- **What led somewhere leads there still** while directories stay. -/
theorem follow_kept (h : before.KeepsFolders after) {xs : List String}
    (led : before.follow p xs = .ok q) : after.follow p xs = .ok q := by
  induction xs generalizing p with
  | nil => exact led
  | cons step rest ih =>
      obtain ⟨dir, r, moves, later⟩ := follow_cons_ok.mp led
      exact follow_cons_ok.mpr ⟨h.kept p dir, r, moves, ih later⟩

/-- **A path leads where it led** while directories stay. -/
theorem locate_kept (h : before.KeepsFolders after) (located : before.locate path = .ok p) :
    after.locate path = .ok p := by
  unfold locate at located ⊢
  split
  · rename_i nul
    rw [if_pos nul] at located
    cases located
  · rename_i no_nul
    rw [if_neg no_nul] at located
    split
    · rename_i nothing
      rw [if_pos nothing] at located
      cases located
    · rename_i something
      rw [if_neg something] at located
      split
      · rename_i long
        rw [if_pos long] at located
        cases located
      · rename_i short
        rw [if_neg short] at located
        rw [h.here]
        exact follow_kept h located

/-- **Steps lead down** as long as none of them is a double dot. -/
theorem follow_down {xs : List String} (down : ".." ∉ xs) (led : fs.follow p xs = .ok q) :
    q = p ++ xs.filter (· ≠ ".") := by
  induction xs generalizing p with
  | nil =>
      cases led
      simp
  | cons step rest ih =>
      obtain ⟨_, r, moves, later⟩ := follow_cons_ok.mp led
      have below := ih (fun there => down (List.mem_cons_of_mem _ there)) later
      have up : step ≠ ".." := fun e => down (e ▸ List.mem_cons_self)
      unfold Moves at moves
      by_cases here : step = "."
      · rw [if_pos here] at moves
        rw [below, moves, List.filter_cons_of_neg (by simp [here])]
      · rw [if_neg here, if_neg up] at moves
        rw [below, moves.2, List.filter_cons_of_pos (by simp [here]), List.append_assoc]
        rfl

/-- **What a path leads to** is at the place where it leads. -/
theorem find_ok {n : FileNode} (found : fs.find path = .ok (p, n)) :
    fs.locate path = .ok p ∧ fs.node? p = some n := by
  unfold find at found
  cases located : fs.locate path with
  | error e => rw [located] at found; cases found
  | ok q =>
      rw [located] at found
      simp only [bind, Except.bind] at found
      split at found
      · cases found
      · rename_i c there
        split at found
        · cases found
        · cases found
          exact ⟨rfl, there⟩
      · rename_i there
        cases found
        exact ⟨rfl, there⟩

/-- A path leads where its steps lead. -/
theorem follow_of_locate (located : fs.locate path = .ok p) :
    fs.follow (fs.root path) (Path.steps path) = .ok p := by
  unfold locate at located
  split at located
  · cases located
  · split at located
    · cases located
    · split at located
      · cases located
      · exact located

/-- What is joined to a base is followed from where the base leads. -/
theorem follow_join {base : String} (relative : Path.isAbsolute path = false)
    (located : fs.locate (Path.join base path) = .ok p) :
    ∃ top, fs.follow (fs.root base) (Path.steps base) = .ok top ∧
      fs.follow top (Path.steps path) = .ok p := by
  have led := follow_of_locate located
  unfold root at led
  rw [Path.isAbsolute_join relative, Path.steps_join relative] at led
  exact follow_append_ok.mp led

/-- **A path that stands in a folder leads below the place that its base leads to.** -/
theorem locate_join {base : String} {home : List String} (sits : Path.Sits home path)
    (plain : "." ∉ home)
    (located : fs.locate (Path.join base path) = .ok p) :
    ∃ top file, fs.follow (fs.root base) (Path.steps base) = .ok top ∧ p = top ++ home ++ [file] := by
  obtain ⟨top, first, later⟩ := follow_join sits.relative located
  obtain ⟨file, _, parts⟩ := sits.placed
  have begins := sits.start_eq_nil plain
  have down := sits.down
  unfold Path.components at parts down
  rw [begins, List.nil_append] at parts down
  have no_up : ".." ∉ Path.steps path := fun there =>
    down (List.mem_filter.mpr ⟨there, by decide⟩)
  refine ⟨top, file, first, ?_⟩
  rw [follow_down no_up later, parts, List.append_assoc]

/-- **A name in a directory leads to the place of that name** below the place of the directory. -/
theorem locate_name {base name : String} (h : Path.IsName name)
    (located : fs.locate (Path.join base name) = .ok p) :
    ∃ top, fs.follow (fs.root base) (Path.steps base) = .ok top ∧ p = top ++ [name] := by
  obtain ⟨top, first, later⟩ := follow_join (Path.isAbsolute_of_plain h.plain) located
  rw [Path.steps_of_name h] at later
  have down : ".." ∉ [name] := fun there => h.notUp (List.mem_singleton.mp there).symm
  refine ⟨top, first, ?_⟩
  rw [follow_down down later, List.filter_cons_of_pos (by simp [h.notHere]), List.filter_nil]

/-! ## 6. Files that have been written -/

/-- **A file that has been written is found** under the same path. -/
theorem find_of_writeText {text : String} (h : before.writeText path text = .ok after) :
    ∃ p, after.find path = .ok (p, .file (.text text)) ∧ after.checkAt p = .ok () := by
  obtain ⟨p, located, no_dir, no_slash, sound, written⟩ := writeText_iff.mp h
  have inside : p ≠ [] := fun root => no_dir (by simp [node?, root])
  have located' : after.locate path = .ok p := locate_kept (keepsFolders_of_writeText h) located
  have there : after.node? p = some (.file (.text text)) := by
    rw [written]
    exact node?_put before _ inside
  have sound' : after.checkAt p = .ok () := by
    rw [written]
    exact sound
  refine ⟨p, ?_, sound'⟩
  unfold find
  rw [located']
  simp only [bind, Except.bind, there, no_slash]
  rfl

theorem pathExists_of_writeText {text : String} (h : before.writeText path text = .ok after) :
    after.pathExists path = true := by
  obtain ⟨p, found, _⟩ := find_of_writeText h
  unfold pathExists
  rw [found]
  rfl

/-- **What has been written is read back.** -/
theorem readText_of_writeText {text : String} (h : before.writeText path text = .ok after) :
    after.readText path = .ok text := by
  obtain ⟨p, found, sound⟩ := find_of_writeText h
  unfold readText
  rw [found]
  simp only [bind, Except.bind, sound]
  rfl

end FileSystem

end SchemaPages
