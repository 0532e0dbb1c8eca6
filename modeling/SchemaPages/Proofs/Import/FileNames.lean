import SchemaPages.Proofs.Data.Records
import SchemaPages.Proofs.Files.Components
import SchemaPages.Proofs.Import.Root
/-!
# Importing files by their names

A schema file is known by its extension in any case, and an import list names a file as it stands only
by an extension in lower case: behind any other name a new extension is put. So a file that can be
loaded can be imported by its name exactly if its extension is in lower case.

* `Path.fileName?_join`, `extension?_join`: the file name and extension of a file in a directory;
* `Path.finishesWith_iff`: how names with an extension end;
* `FileSystem.pathOf_ne_of_longer`: a name that goes on names another file;
* `Path.LowerCase`, `endings_iff`: extensions in lower case, and the names that stand for themselves;
* `resolve_ok_iff`: which file a reference leads to;
* `importable_iff`: which files that can be loaded can be imported.
-/

namespace SchemaPages

/-! ## 1. File names and extensions -/

namespace Path

variable {name e : String}

/-- A path in a directory ends with the file name, behind a slash if anything stands before it. -/
theorem toList_join (h : IsName name) (base : String) :
    ∃ front, (join base name).toList = front ++ name.toList ∧
      (front = [] ∨ ∃ before, front = before ++ ['/']) := by
  unfold join
  rw [isAbsolute_of_plain h.plain]
  by_cases empty : base = ""
  · rw [if_pos (Or.inr empty)]
    exact ⟨[], rfl, Or.inl rfl⟩
  · rw [if_neg (by simp [empty])]
    split
    · rename_i ends
      obtain ⟨before, same⟩ := List.isSuffixOf_iff_suffix.mp ends
      exact ⟨base.toList, String.toList_append, Or.inr ⟨before, same.symm⟩⟩
    · exact ⟨base.toList ++ ['/'], by simp, Or.inr ⟨base.toList, rfl⟩⟩

/-- A name at the end of a path is not cut. -/
theorem trimReversed_name (h : IsName name) (rest : List Char) :
    trimReversed (name.toList.reverse ++ rest) = name.toList.reverse ++ rest := by
  have plain : '/' ∉ name.toList.reverse := fun there => h.plain (List.mem_reverse.mp there)
  have filled : name.toList.reverse ≠ [] := by simpa using h.filled
  have notHere : name.toList.reverse ≠ ['.'] := fun same =>
    h.notHere (String.toList_inj.mp (List.reverse_injective same))
  generalize name.toList.reverse = r at plain filled notHere
  unfold trimReversed
  split
  · rename_i tail same
    match r with
    | [] => exact absurd rfl filled
    | [c] =>
        obtain ⟨rfl, _⟩ := List.cons.inj same
        exact absurd rfl notHere
    | c :: d :: more =>
        obtain ⟨_, same⟩ := List.cons.inj same
        obtain ⟨rfl, _⟩ := List.cons.inj same
        exact absurd (by simp) plain
  · rename_i tail same
    match r with
    | [] => exact absurd rfl filled
    | c :: more =>
        obtain ⟨rfl, _⟩ := List.cons.inj same
        exact absurd List.mem_cons_self plain
  · rfl

/-- **The file name of a file in a directory.** -/
theorem fileName?_join (h : IsName name) (base : String) :
    fileName? (join base name) = some name := by
  obtain ⟨front, parts, slash⟩ := toList_join h base
  have whole : (name.toList.reverse ++ front.reverse).takeWhile (· ≠ '/') = name.toList.reverse := by
    rw [List.takeWhile_append_of_pos fun c hc => by
      simpa using fun same : c = '/' => h.plain (same ▸ List.mem_reverse.mp hc)]
    rcases slash with rfl | ⟨before, rfl⟩ <;> simp
  have real : ¬ (name = "" ∨ name = "." ∨ name = "..") :=
    not_or.mpr ⟨h.filled, not_or.mpr ⟨h.notHere, h.notUp⟩⟩
  unfold fileName?
  rw [parts, List.reverse_append, trimReversed_name h, whole, List.reverse_reverse,
    String.ofList_toList]
  dsimp only
  rw [if_neg real]

theorem fileName?_name (h : IsName name) : fileName? name = some name := by
  have alone : join "" name = name := by
    unfold join
    rw [if_pos (Or.inr rfl)]
  have found := fileName?_join h ""
  rwa [alone] at found

/-- The directory does not change the extension. -/
theorem extension?_join (h : IsName name) (base : String) :
    extension? (join base name) = extension? name := by
  unfold extension?
  rw [fileName?_join h, fileName?_name h]

/-- **A name with an extension** has something before its last point, and the extension behind it. -/
theorem exists_stem (h : IsName name) (ext : extension? name = some e) :
    ∃ stem, stem ≠ [] ∧ name.toList = stem ++ '.' :: e.toList ∧ '.' ∉ e.toList := by
  unfold extension? at ext
  rw [fileName?_name h, Option.bind_some] at ext
  unfold cutName at ext
  split at ext
  · rename_i after before cut
    obtain ⟨parts, fresh⟩ := Text.splitOnce_eq_some_iff.mp cut
    split at ext
    · cases ext
    · rename_i filled
      obtain rfl := Option.some.inj ext
      refine ⟨before.reverse, by simpa using filled, ?_, ?_⟩
      · rw [← List.reverse_reverse name.toList, parts]
        simp
      · rw [String.toList_ofList, List.mem_reverse]
        exact fresh
  · cases ext

/-- **How a name with an extension ends**: with a point and that extension, and no other. -/
theorem finishesWith_iff (h : IsName name) (ext : extension? name = some e) {x : String}
    (plain : '.' ∉ x.toList) : Text.finishesWith ("." ++ x) name = true ↔ e = x := by
  obtain ⟨stem, _, parts, fresh⟩ := exists_stem h ext
  unfold Text.finishesWith
  rw [List.isSuffixOf_iff_suffix, String.toList_append, parts]
  show '.' :: x.toList <:+ _ ↔ _
  constructor
  · intro ends
    rcases List.suffix_or_suffix_of_suffix ends (List.suffix_append stem ('.' :: e.toList))
      with within | within
    · rcases List.suffix_cons_iff.mp within with same | inside
      · exact String.toList_inj.mp (List.cons.inj same).2.symm
      · exact absurd (inside.mem List.mem_cons_self) fresh
    · rcases List.suffix_cons_iff.mp within with same | inside
      · exact String.toList_inj.mp (List.cons.inj same).2
      · exact absurd (inside.mem List.mem_cons_self) plain
  · rintro rfl
    exact List.suffix_append stem _

/-- The extension of a file name is in lower case, if there is one. -/
def LowerCase (name : String) : Prop := (extension? name).map Text.lowerText = extension? name

instance (name : String) : Decidable (LowerCase name) :=
  inferInstanceAs (Decidable ((extension? name).map Text.lowerText = extension? name))

/-- A file name goes on at the end, and stays a name. -/
theorem isName_append (h : IsName name) {ending : String} (plain : '/' ∉ ending.toList)
    (long : 2 ≤ ending.length) : IsName (name ++ ending) := by
  have longer : ∀ short : String, short.length ≤ 2 → name ++ ending ≠ short := by
    intro short bound same
    have sizes := congrArg String.length same
    have filled : name.length ≠ 0 := fun none =>
      h.filled (String.toList_eq_nil_iff.mp (List.length_eq_zero_iff.mp
        (String.length_toList.trans none)))
    rw [String.length_append] at sizes
    omega
  refine ⟨longer "" (by decide), longer "." (by decide), longer ".." (by decide), ?_⟩
  rw [String.toList_append, List.mem_append]
  exact not_or.mpr ⟨h.plain, plain⟩

end Path

/-! ## 2. Places in a directory -/

namespace FileSystem

variable {fs : FileSystem} {path base : String} {p q : Place} {n m : FileNode}

/-- The path of a place goes on as its last step does. By induction on the steps before it. -/
theorem pathOf_snoc (p : Place) (step ending : String) :
    pathOf (p ++ [step ++ ending]) = pathOf (p ++ [step]) ++ ending := by
  have joined : Text.join "/" (p ++ [step ++ ending]) = Text.join "/" (p ++ [step]) ++ ending := by
    induction p with
    | nil => rfl
    | cons first rest ih =>
        cases rest with
        | nil => simp [Text.join, String.append_assoc]
        | cons second others =>
            simp only [List.cons_append, Text.join] at ih ⊢
            rw [ih]
            simp only [String.append_assoc]
  unfold pathOf
  rw [joined, String.append_assoc]

/-- **A name that goes on names another file** in the same directory, with another path. -/
theorem pathOf_ne_of_longer {name ending : String} (h : Path.IsName name)
    (h' : Path.IsName (name ++ ending)) (longer : ending ≠ "")
    (found : fs.find (Path.join base name) = .ok (p, n))
    (found' : fs.find (Path.join base (name ++ ending)) = .ok (q, m)) : pathOf q ≠ pathOf p := by
  obtain ⟨top, leads, rfl⟩ := locate_name h (find_ok found).1
  obtain ⟨top', leads', rfl⟩ := locate_name h' (find_ok found').1
  obtain rfl : top = top' := Except.ok.inj (leads.symm.trans leads')
  rw [pathOf_snoc]
  intro same
  have rest :
      (pathOf (top ++ [name])).toList ++ ending.toList = (pathOf (top ++ [name])).toList := by
    rw [← String.toList_append, same]
  exact longer (String.toList_eq_nil_iff.mp (List.append_right_eq_self.mp rest))

end FileSystem

namespace Import

section Names

variable {fs : FileSystem} {directory name importer e : String} {p : Place} {content : Content}
  {format : FileFormat} {options : Options}

/-! ## 3. What a file name stands for -/

/-- The extensions of schema files, in lower case. -/
def schemaExtensions : List String := ["yaml", "yml", "json"]

theorem lowerText_mem_of_known (known : FileFormat.ofExtension? e = some format) :
    Text.lowerText e ∈ schemaExtensions := by
  unfold FileFormat.ofExtension? at known
  split at known
  · rename_i yaml; rw [yaml]; decide
  · rename_i yml; rw [yml]; decide
  · rename_i json; rw [json]; decide
  · cases known

/-- **A known extension is one in lower case** exactly if lower case does not change it. -/
theorem mem_schemaExtensions_iff (known : FileFormat.ofExtension? e = some format) :
    e ∈ schemaExtensions ↔ Text.lowerText e = e := by
  constructor
  · have lower : ∀ x ∈ schemaExtensions, Text.lowerText x = x := by decide +kernel
    exact lower e
  · intro same
    exact same ▸ lowerText_mem_of_known known

theorem extension_of_known (h : Path.IsName name)
    (known : FileFormat.ofPath (Path.join directory name) = .ok format) :
    ∃ e, Path.extension? name = some e ∧ FileFormat.ofExtension? e = some format := by
  unfold FileFormat.ofPath at known
  rw [Path.extension?_join h] at known
  split at known
  · rename_i f there
    cases known
    exact Option.bind_eq_some_iff.mp there
  · cases known

/-- **Which names of schema files stand for themselves**: those with an extension in lower case. -/
theorem endings_iff (h : Path.IsName name)
    (known : FileFormat.ofPath (Path.join directory name) = .ok format) :
    schemaEndings.any (Text.finishesWith · name) = true ↔ Path.LowerCase name := by
  obtain ⟨e, ext, known⟩ := extension_of_known h known
  have lower : Path.LowerCase name ↔ e ∈ schemaExtensions := by
    rw [mem_schemaExtensions_iff known, Path.LowerCase, ext, Option.map_some, Option.some.injEq]
  have endings : schemaEndings = schemaExtensions.map ("." ++ ·) := by decide
  have points : ∀ x ∈ schemaExtensions, '.' ∉ x.toList := by decide
  rw [lower, endings, List.any_map, List.any_eq_true]
  constructor
  · rintro ⟨x, known, ends⟩
    exact (Path.finishesWith_iff h ext (points x known)).mp ends ▸ known
  · exact fun known => ⟨e, known, (Path.finishesWith_iff h ext (points e known)).mpr rfl⟩

/-- A file name has no scheme of a remote file. -/
theorem not_beginsWith_of_name (h : Path.IsName name) {start : String} (slash : '/' ∈ start.toList) :
    Text.beginsWith start name = false := by
  refine Bool.eq_false_iff.mpr fun begins => h.plain ?_
  exact (List.isPrefixOf_iff_prefix.mp begins).mem slash

/-- **Where a file name leads**: to the file that its candidate names, and nowhere else. -/
theorem resolve_ok_iff (h : Path.IsName name) (file : Text.beginsWith "linkml:" name = false)
    {t : Source} : resolve fs name directory importer = .ok t ↔
      ∃ p content, fs.find (candidate name directory) = .ok (p, .file content) ∧
        t = .file (FileSystem.pathOf p) := by
  have local_name :
      ¬ (Text.beginsWith "http://" name = true ∨ Text.beginsWith "https://" name = true) := by
    rw [not_beginsWith_of_name h (by decide), not_beginsWith_of_name h (by decide)]
    decide
  have whole : Text.dropStart? "linkml:" name = none := if_neg (Bool.eq_false_iff.mp file)
  unfold resolve
  rw [whole]
  dsimp only
  rw [if_neg local_name]
  unfold FileSystem.isFile FileSystem.canonical
  cases found : fs.find (candidate name directory) with
  | error cause => simp
  | ok there =>
      obtain ⟨p, n⟩ := there
      cases n with
      | dir => simp
      | file c => simp [Except.map, eq_comm]

/-! ## 4. Files that can be loaded -/

theorem root_of_closure {root : Schema} {path dir : String} {v : View}
    (h : closure fs options root path dir = .ok v) : v.root = root := by
  cases follows : options.loadImports with
  | false =>
      unfold closure at h
      rw [follows] at h
      cases h
      rfl
  | true =>
      obtain ⟨_, loaded, _, _, rfl⟩ := (closure_ok_iff follows).mp h
      rfl

/-- What is read from a file says where it comes from. -/
theorem source_of_holds {path : String} {s : Schema} (h : (Source.file path).Holds fs s) :
    s.source = some path := by
  obtain ⟨dir, read⟩ := h
  obtain ⟨made, opened, same⟩ := exists_of_map_ok read
  obtain ⟨rfl, _⟩ := Prod.mk.inj same
  obtain ⟨document, _, decoded⟩ := exists_of_bind_ok opened
  obtain ⟨plain, _, stamped⟩ := exists_of_bind_ok decoded
  cases stamped
  rfl

/-- **The root of a view is what its file holds.** -/
theorem holds_of_load {path : String} {v : View} (h : load fs options path = .ok v) :
    ∃ found, fs.canonical path = .ok found ∧ (Source.file found).Holds fs v.root := by
  obtain ⟨r, root, loads⟩ := exists_root_of_load h
  have read := read_of_ofFile root
  obtain ⟨schema, found, canonical, _, rfl⟩ := ofFile_ok root
  rw [root_of_closure (closure_of_loads loads)]
  exact ⟨found, canonical, _, read⟩

/-- **A file that can be loaded is imported by its name** exactly if its extension is in lower case. -/
theorem resolve_file_iff (h : Path.IsName name)
    (regular : fs.find (Path.join directory name) = .ok (p, .file content))
    (known : FileFormat.ofPath (Path.join directory name) = .ok format)
    (file : Text.beginsWith "linkml:" name = false) :
    resolve fs name directory importer = .ok (.file (FileSystem.pathOf p)) ↔ Path.LowerCase name := by
  rw [resolve_ok_iff h file, ← endings_iff h known]
  unfold candidate
  by_cases ends : schemaEndings.any (Text.finishesWith · name) = true
  · rw [if_pos ends]
    exact ⟨fun _ => ends, fun _ => ⟨p, content, regular, rfl⟩⟩
  · -- another file may have the name with a new extension, but it has another path
    rw [if_neg ends]
    refine ⟨fun ⟨q, _, found, same⟩ => ?_, fun lower => absurd lower ends⟩
    have longer : Path.IsName (name ++ ".yaml") := Path.isName_append h (by decide) (by decide)
    exact absurd (Source.file.inj same).symm
      (FileSystem.pathOf_ne_of_longer h longer (by decide) regular found)

/-- **What can be loaded can be imported, if its extension is in lower case.** For a file in a
    directory with the extension of a schema file: a reference of its full name leads to the file
    exactly if the extension is in lower case, and if the file is accepted as a root, such a reference
    gives the same schema exactly then. -/
theorem importable_iff (h : Path.IsName name)
    (regular : fs.find (Path.join directory name) = .ok (p, .file content))
    (known : FileFormat.ofPath (Path.join directory name) = .ok format)
    (file : Text.beginsWith "linkml:" name = false) :
    (resolve fs name directory importer = .ok (.file (FileSystem.pathOf p)) ↔ Path.LowerCase name) ∧
      ∀ options v, load fs options (Path.join directory name) = .ok v →
        ((∃ t, resolve fs name directory importer = .ok t ∧ t.Holds fs v.root) ↔
          Path.LowerCase name) := by
  have leads : resolve fs name directory importer = .ok (.file (FileSystem.pathOf p)) ↔
      Path.LowerCase name := resolve_file_iff h regular known file
  refine ⟨leads, fun options v view => ?_⟩
  obtain ⟨found, canonical, holds⟩ := holds_of_load view
  have here : found = FileSystem.pathOf p := by
    unfold FileSystem.canonical at canonical
    rw [regular] at canonical
    exact (Except.ok.inj canonical).symm
  subst here
  rw [← leads]
  constructor
  · rintro ⟨t, there, same⟩
    obtain ⟨q, c, _, rfl⟩ := (resolve_ok_iff h file).mp there
    -- the schema says which file it comes from
    have one := Option.some.inj ((source_of_holds same).symm.trans (source_of_holds holds))
    exact one ▸ there
  · exact fun there => ⟨_, there, holds⟩

end Names

/-- A directory with two schema files, one of them with an extension in upper case. -/
def twoCases : FileSystem where
  nodes := [(["s"], .dir),
    (["s", "a.json"], .file (.text "\x7b\"id\": \"a\", \"name\": \"a\"\x7d")),
    (["s", "b.JSON"], .file (.text "\x7b\"id\": \"b\", \"name\": \"b\"\x7d"))]

/-- The file with the extension in lower case is imported. -/
theorem importable_iff_json : Path.IsName "a.json" ∧
    (∃ content, twoCases.find (Path.join "/s" "a.json") = .ok (["s", "a.json"], .file content)) ∧
    FileFormat.ofPath (Path.join "/s" "a.json") = .ok .json ∧
    Text.beginsWith "linkml:" "a.json" = false ∧
    resolve twoCases "a.json" "/s" "/s/r.json" = .ok (.file "/s/a.json") ∧
    ∃ v, load twoCases {} (Path.join "/s" "a.json") = .ok v ∧
      ∃ t, resolve twoCases "a.json" "/s" "/s/r.json" = .ok t ∧ t.Holds twoCases v.root := by
  have name : Path.IsName "a.json" := by decide
  have known : FileFormat.ofPath (Path.join "/s" "a.json") = .ok .json := by rfl
  have file : Text.beginsWith "linkml:" "a.json" = false := by decide
  have lower : Path.LowerCase "a.json" := by decide +kernel
  have viewed : (load twoCases {} (Path.join "/s" "a.json")).toOption.isSome = true := by
    decide +kernel
  have found : twoCases.find (Path.join "/s" "a.json") = .ok (["s", "a.json"], .file _) := rfl
  obtain ⟨leads, holds⟩ : (resolve twoCases "a.json" "/s" "/s/r.json" = _ ↔ _) ∧ _ :=
    importable_iff name found known file
  cases view : load twoCases {} (Path.join "/s" "a.json") with
  | error e => rw [view] at viewed; cases viewed
  | ok v =>
      exact ⟨name, ⟨_, found⟩, known, file, leads.mpr lower, v, rfl, (holds {} v view).mpr lower⟩

/-- **A file that can be loaded but not imported**: its extension is in upper case, so another one is
    put behind it. -/
theorem not_importable_upper : Path.IsName "b.JSON" ∧
    (∃ content, twoCases.find (Path.join "/s" "b.JSON") = .ok (["s", "b.JSON"], .file content)) ∧
    FileFormat.ofPath (Path.join "/s" "b.JSON") = .ok .json ∧
    Text.beginsWith "linkml:" "b.JSON" = false ∧
    (load twoCases {} (Path.join "/s" "b.JSON")).toOption.isSome = true ∧
    resolve twoCases "b.JSON" "/s" "/s/r.json" =
      .error (.unresolved "b.JSON" "/s/r.json" "file not found: /s/b.JSON.yaml") :=
  ⟨by decide, ⟨_, rfl⟩, by rfl, by decide, by decide +kernel, by rfl⟩

end Import

end SchemaPages
