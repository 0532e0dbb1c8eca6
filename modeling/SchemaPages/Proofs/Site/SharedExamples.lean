import SchemaPages.Proofs.Data.Records
import SchemaPages.Proofs.Files.Components
import SchemaPages.Site.Generation
/-!
# Examples of several classes

A file holds an example of a class if its name begins with that of the class and a hyphen. Labels may
have hyphens, and names of classes too, so a file may hold an example of two classes: then the name of
one of them goes on, behind a hyphen, where that of the other ends.

* `FileSystem.Named`: what is in a directory has a name;
* `Continues`, `continues_of_namesExample`: file names of two classes;
* `mem_exampleFiles_iff`, `mem_of_continues`: which files hold examples of a class;
* `examples_shared_iff`: which files hold examples of two classes, and what their pages show.
-/

namespace SchemaPages

/-! ## 1. Names of directory entries -/

/-- **Every place has names for its steps**: no slashes, and no dots that lead elsewhere. -/
def FileSystem.Named (fs : FileSystem) : Prop :=
  ∀ entry ∈ fs.nodes, ∀ step ∈ entry.1, Path.IsName step

instance (fs : FileSystem) : Decidable fs.Named :=
  inferInstanceAs (Decidable (∀ entry ∈ fs.nodes, ∀ step ∈ entry.1, Path.IsName step))

theorem FileSystem.isName_of_mem_list {fs : FileSystem} {path n : String} {names : List String}
    (named : fs.Named) (listed : fs.list path = .ok names) (h : n ∈ names) : Path.IsName n := by
  obtain ⟨⟨p, node⟩, _, here⟩ := exists_of_bind_ok listed
  cases node with
  | file c => cases here
  | dir =>
      obtain ⟨_, _, here⟩ := exists_of_bind_ok here
      cases here
      obtain ⟨⟨q, node⟩, mem, last⟩ := List.mem_filterMap.mp h
      dsimp only at last
      split at last
      · exact named (q, node) mem n (List.mem_of_getLast? last)
      · cases last

namespace Site

/-! ## 2. Names of two classes -/

/-- **A name continues another** behind a hyphen. -/
def Continues (longer shorter : String) : Prop := ∃ more, longer = shorter ++ "-" ++ more

theorem namesExample_iff {cls fileName : String} :
    namesExample cls fileName = true ↔ cls.toList ++ ['-'] <+: fileName.toList := by
  unfold namesExample Text.beginsWith
  rw [String.toList_append, List.isPrefixOf_iff_prefix]
  rfl

theorem continues_iff {longer shorter : String} :
    Continues longer shorter ↔ shorter.toList ++ ['-'] <+: longer.toList := by
  constructor
  · rintro ⟨more, rfl⟩
    rw [String.toList_append, String.toList_append]
    exact List.prefix_append _ _
  · rintro ⟨more, same⟩
    exact ⟨String.ofList more, String.toList_inj.mp (by simpa using same.symm)⟩

/-- Of two beginnings with a hyphen at the end, the shorter one is the same as the other or continued
    by its name. -/
theorem eq_or_continues {a b : String} (h : a.toList ++ ['-'] <+: b.toList ++ ['-']) :
    a = b ∨ Continues b a := by
  rcases List.prefix_concat_iff.mp h with same | inside
  · exact Or.inl (String.toList_inj.mp (List.append_cancel_right same))
  · exact Or.inr (continues_iff.mpr inside)

/-- A file name of the longer class is one of the shorter class. -/
theorem namesExample_of_continues {longer shorter n : String} (h : Continues longer shorter)
    (there : namesExample longer n = true) : namesExample shorter n = true :=
  namesExample_iff.mpr ((continues_iff.mp h).trans
    ((List.prefix_append _ _).trans (namesExample_iff.mp there)))

/-- **A file name of two classes** begins with both names, so one of them begins the other and is
    continued by it. -/
theorem continues_of_namesExample {a b n : String} (distinct : a ≠ b) (ofA : namesExample a n = true)
    (ofB : namesExample b n = true) : Continues b a ∨ Continues a b := by
  rcases List.prefix_or_prefix_of_prefix (namesExample_iff.mp ofA) (namesExample_iff.mp ofB)
    with within | within
  · exact Or.inl ((eq_or_continues within).resolve_left distinct)
  · exact Or.inr ((eq_or_continues within).resolve_left distinct.symm)

/-! ## 3. Files of two classes -/

/-- Whether a directory entry can hold an example of any class. -/
def canHoldExample (fs : FileSystem) (directory n : String) : Bool :=
  fs.isFile (Path.join directory n) && (exampleFormat? (Path.join directory n)).isSome

section Files

variable {fs : FileSystem} {directory cls other : String} {files others names : List String}

/-- **Which files hold examples of a class.** -/
theorem mem_exampleFiles_iff (listed : fs.list directory = .ok names)
    (found : exampleFiles fs directory cls = .ok files) {p : String} : p ∈ files ↔
      ∃ n ∈ names, namesExample cls n = true ∧ canHoldExample fs directory n = true ∧
        Path.join directory n = p := by
  unfold exampleFiles at found
  rw [listed] at found
  cases found
  simp only [List.mem_map, mem_sortBy, List.mem_filter, canHoldExample, Bool.and_eq_true, and_assoc]

theorem exists_list_of_exampleFiles (found : exampleFiles fs directory cls = .ok files) :
    ∃ names, fs.list directory = .ok names := by
  obtain ⟨names, listed, _⟩ := exists_of_bind_ok found
  exact ⟨names, mapError_ok_iff.mp listed⟩

/-- A file that holds an example of a class holds one of the class whose name it continues. -/
theorem mem_of_continues (found : exampleFiles fs directory cls = .ok files)
    (found' : exampleFiles fs directory other = .ok others) (more : Continues other cls) {p : String}
    (there : p ∈ others) : p ∈ files := by
  obtain ⟨names, listed⟩ := exists_list_of_exampleFiles found
  obtain ⟨n, mem, named, holds, rfl⟩ := (mem_exampleFiles_iff listed found').mp there
  exact (mem_exampleFiles_iff listed found).mpr
    ⟨n, mem, namesExample_of_continues more named, holds, rfl⟩

/-- Of two classes with a file in common, one has a name that continues the other. -/
theorem continues_of_shared (named : fs.Named) (distinct : cls ≠ other)
    (found : exampleFiles fs directory cls = .ok files)
    (found' : exampleFiles fs directory other = .ok others) {p : String} (here : p ∈ files)
    (there : p ∈ others) : Continues other cls ∨ Continues cls other := by
  obtain ⟨names, listed⟩ := exists_list_of_exampleFiles found
  obtain ⟨n, mem, first, _, rfl⟩ := (mem_exampleFiles_iff listed found).mp here
  obtain ⟨m, mem', second, _, same⟩ := (mem_exampleFiles_iff listed found').mp there
  -- the file has one name in its directory, and both classes begin it
  obtain rfl := Path.join_name_inj (fs.isName_of_mem_list named listed mem')
    (fs.isName_of_mem_list named listed mem) same
  exact continues_of_namesExample distinct first second

/-- The page of a class shows what its files hold, in their order. -/
theorem examples_of_elementPage {s : Site} {c : Class} {page : ClassPage}
    (configured : s.config.exampleDirectory = some directory)
    (found : exampleFiles fs directory c.name = .ok files)
    (built : s.elementPage fs (.cls c) = .ok (some (.cls page))) :
    files.mapM (readExample fs) = .ok page.examples := by
  obtain ⟨examples, read, same⟩ := exists_of_map_ok built
  cases same
  unfold Site.examples at read
  rw [configured] at read
  dsimp only at read
  rw [found] at read
  exact read

/-- **Which files hold examples of two classes**: those of the class whose name continues the other
    behind a hyphen, and no others. So the examples of two classes are apart unless one name
    continues the other; and the page of a class shows the examples in the files of the class, in
    their order. -/
theorem examples_shared_iff (named : fs.Named) (distinct : cls ≠ other)
    (found : exampleFiles fs directory cls = .ok files)
    (found' : exampleFiles fs directory other = .ok others) :
    (∀ p, p ∈ files ∧ p ∈ others ↔
      (Continues other cls ∧ p ∈ others) ∨ (Continues cls other ∧ p ∈ files)) ∧
    ∀ (s : Site) (c : Class) (page : ClassPage), s.config.exampleDirectory = some directory →
      c.name = cls → s.elementPage fs (.cls c) = .ok (some (.cls page)) →
      files.mapM (readExample fs) = .ok page.examples := by
  refine ⟨fun p => ⟨?shared, ?nested⟩, ?pages⟩
  case shared =>
    rintro ⟨here, there⟩
    rcases continues_of_shared named distinct found found' here there with more | more
    · exact Or.inl ⟨more, there⟩
    · exact Or.inr ⟨more, here⟩
  case nested =>
    rintro (⟨more, there⟩ | ⟨more, here⟩)
    · exact ⟨mem_of_continues found found' more there, there⟩
    · exact ⟨here, mem_of_continues found' found more here⟩
  case pages =>
    rintro s c page configured rfl built
    exact examples_of_elementPage configured found built

end Files

/-! ## 4. A hyphen in a name -/

/-- A directory with examples of three classes. -/
def kennel : FileSystem where
  nodes := [(["e"], .dir), (["e", "Dog-1.yml"], .file (.text "")),
    (["e", "DogHouse-1.yml"], .file (.text "")), (["e", "Dog-House-1.yml"], .file (.text ""))]

/-- A site that shows them. -/
def kennelSite : Site where
  view := View.ofSchemas { id := "k", name := "k", classes := [{ name := "Dog" }] } []
  config := { exampleDirectory := some "/e" }

theorem dogs_of_kennel :
    exampleFiles kennel "/e" "Dog" = .ok ["/e/Dog-1.yml", "/e/Dog-House-1.yml"] := by rfl

theorem houses_of_kennel : exampleFiles kennel "/e" "Dog-House" = .ok ["/e/Dog-House-1.yml"] := by rfl

/-- The page of the shorter name shows the example of the longer one. -/
theorem examples_shared_iff_kennel : kennel.Named ∧ "Dog" ≠ "Dog-House" ∧ ∃ dogs houses page,
    exampleFiles kennel "/e" "Dog" = .ok dogs ∧ exampleFiles kennel "/e" "Dog-House" = .ok houses ∧
      kennelSite.elementPage kennel (.cls { name := "Dog" }) = .ok (some (.cls page)) ∧
      ("/e/Dog-House-1.yml" ∈ dogs ∧ "/e/Dog-House-1.yml" ∈ houses) ∧
      dogs.mapM (readExample kennel) = .ok page.examples ∧
      page.examples.map Example.name = ["Dog-1", "Dog-House-1"] := by
  have named : kennel.Named := by decide
  have distinct : "Dog" ≠ "Dog-House" := by decide
  obtain ⟨shared, shown⟩ := examples_shared_iff named distinct dogs_of_kennel houses_of_kennel
  refine ⟨named, distinct, _, _, _, dogs_of_kennel, houses_of_kennel, rfl,
    (shared "/e/Dog-House-1.yml").mpr (Or.inl ⟨⟨"House", rfl⟩, by decide⟩),
    shown kennelSite { name := "Dog" } _ rfl rfl rfl, rfl⟩

/-- **Two classes may share an example**: what is behind the hyphen may be a part of a name or a
    label. -/
theorem not_apart_hyphen : "Dog" ≠ "Dog-House" ∧ ∃ dogs houses p,
    exampleFiles kennel "/e" "Dog" = .ok dogs ∧ exampleFiles kennel "/e" "Dog-House" = .ok houses ∧
      p ∈ dogs ∧ p ∈ houses :=
  ⟨by decide, _, _, "/e/Dog-House-1.yml", dogs_of_kennel, houses_of_kennel, by decide, by decide⟩

end Site

end SchemaPages
