import Mathlib.Data.List.Forall2
import SchemaPages.Proofs.Data.Records
import SchemaPages.Proofs.Import.Graph
/-!
# Root schemas

A view is loaded from a schema file or from a text. Either way its root has a path of its own, and
its references begin somewhere; a text has a path that no file needs to have. The imports that lead
from there make up a tour.

* `Root.ofFile`, `Root.ofText`, `Origin`, `Loads`: what a view is loaded from;
* `Root.targets`, `Root.schema?`, `Root.read`: the graph of imports below a root, and what its
  sources hold;
* `Root.Includes`, `Root.Above`, `Root.Toured`: what the edges of this graph lead to;
* `mem_targets_iff`: an edge is an entry of an import list that resolves;
* `displayPath_inj`: messages tell the sources below a root apart;
* `targets_of_ofFile`, `schema?_of_ofFile`: the root of a file is a source like the others;
* `tour_of_loads`: the schemas of a view in the order in which a tour finishes them.
-/

namespace SchemaPages.Import

open DepthFirst

/-- A root schema with its path and the place where its references begin. -/
structure Root where
  schema : Schema
  path : String
  dir : String

namespace Root

/-- The root of a schema file. -/
def ofFile (fs : FileSystem) (path : String) : Except LoadError Root := do
  let canonical ← (fs.canonical path).mapError (.unreadable path)
  let schema ← readFile fs canonical path
  return ⟨schema, canonical, directoryOf canonical⟩

/-- The root of a schema text, whose references begin at `dir`. -/
def ofText (text : String) (format : FileFormat) (dir : String) : Except LoadError Root := do
  let path := Path.join dir ("<memory>." ++ format.extension)
  let schema ← (Schema.read (← parse text format path)).mapError (.invalid path)
  return ⟨schema, path, dir⟩

/-- The root as a source, like the others. -/
def source (r : Root) : Source := .file r.path

/-- **The sources that a source imports**, below a root: the root's own references are those of its
    schema, and none are followed where imports are not wanted. -/
def targets (fs : FileSystem) (options : Options) (r : Root) (s : Source) : List Source :=
  if options.loadImports then
    if s = r.source then targetsOf fs r.schema.imports r.dir r.path else s.targets fs
  else []

/-- **The schema of a source**, below a root. -/
def schema? (fs : FileSystem) (r : Root) (s : Source) : Option Schema :=
  if s = r.source then some r.schema else (s.read fs).toOption.map (·.1)

/-- **What a source holds**, below a root: its schema, and where the references of this begin. -/
def read (fs : FileSystem) (r : Root) (s : Source) : Except LoadError (Schema × String) :=
  if s = r.source then .ok (r.schema, r.dir) else s.read fs

/-- The root leads to a source, over any number of imports, or is the same. -/
abbrev Includes (fs : FileSystem) (options : Options) (r : Root) : Source → Prop :=
  DepthFirst.Reaches (r.targets fs options) r.source

/-- One source imports another directly or through others, below a root. -/
abbrev Above (fs : FileSystem) (options : Options) (r : Root) : Source → Source → Prop :=
  Leads (r.targets fs options)

/-- A tour from the root has come through all that the root leads to. -/
abbrev Toured (fs : FileSystem) (options : Options) (r : Root) (t : Tour Source) : Prop :=
  Visits (r.targets fs options) (r.targets fs options r.source) ⟨[r.source], []⟩ t

end Root

/-- **What a view is loaded from**: a schema file, or a text whose references begin at `dir`. -/
inductive Origin where
  | file (path : String)
  | text (content : String) (format : FileFormat) (dir : String)

namespace Origin

/-- The root that an origin gives. -/
def root (fs : FileSystem) : Origin → Except LoadError Root
  | .file path => Root.ofFile fs path
  | .text content format dir => Root.ofText content format dir

/-- The view that is loaded from an origin. -/
def view (fs : FileSystem) (options : Options) : Origin → Except LoadError View
  | .file path => load fs options path
  | .text content format dir => loadText fs options content format dir

end Origin

/-- **A root is loaded**, from a file or from a text. -/
inductive Loads (fs : FileSystem) (options : Options) : Root → View → Prop where
  | file {path : String} {r : Root} {v : View} (root : Root.ofFile fs path = .ok r)
      (view : load fs options path = .ok v) : Loads fs options r v
  | text {text dir : String} {format : FileFormat} {r : Root} {v : View}
      (root : Root.ofText text format dir = .ok r)
      (view : loadText fs options text format dir = .ok v) : Loads fs options r v

/-! ## 1. Roots that are read and followed -/

section Follow

variable {fs : FileSystem} {options : Options} {path : String}

/-- The path in messages does not change what is read. -/
theorem readFile_shown {path shown other : String} {s : Schema}
    (h : readFile fs path shown = .ok s) : readFile fs path other = .ok s := by
  unfold readFile at h ⊢
  cases hp : parseFile fs path with
  | error e => rw [hp] at h; cases h
  | ok document =>
      rw [hp] at h
      simp only [bind, Except.bind] at h ⊢
      cases hr : Schema.read document with
      | error e => rw [hr] at h; cases h
      | ok _ => rw [hr] at h; exact h

theorem read_file {path shown : String} {s : Schema} (h : readFile fs path shown = .ok s) :
    (Source.file path).read fs = .ok (s, directoryOf path) := by
  simp only [Source.read, readFile_shown h]
  rfl

theorem closure_eq (h : options.loadImports = true) (root : Schema) (path dir : String) :
    closure fs options root path dir =
      (({ limit := options.limit } : ImportStack).push path >>= fun stack =>
        follow fs stack dir root.imports { seen := [path] } >>= fun loaded =>
          .ok (View.ofSchemas root loaded.schemas)) := by
  simp only [closure, h]
  rfl

/-- Whatever has the path of a file for its key is this file, but for the basic types. -/
theorem tracks_start {path : String} (h : path ≠ Source.basicTypes.key) :
    Tracks fs (.file path) ⟨[.file path], []⟩ { seen := [path] } where
  seen := rfl
  begun := List.mem_singleton_self _
  located _ hs := Or.inl (List.mem_singleton.mp hs)
  alone s _ e := by
    cases s with
    | basicTypes => exact absurd e.symm h
    | file other => exact congrArg Source.file e
  schemas := .nil

/-- **What a root with its imports comes to**: they are followed from a stack that holds it alone. -/
theorem closure_ok_iff {root : Schema} {dir : String} {v : View} (hi : options.loadImports = true) :
    closure fs options root path dir = .ok v ↔
      ∃ stack loaded, ({ limit := options.limit } : ImportStack).push path = .ok stack ∧
        Follows fs stack dir root.imports { seen := [path] } loaded ∧
        v = View.ofSchemas root loaded.schemas := by
  rw [closure_eq hi]
  constructor
  · intro h
    obtain ⟨stack, pushed, h⟩ := exists_of_bind_ok h
    obtain ⟨loaded, followed, h⟩ := exists_of_bind_ok h
    cases h
    exact ⟨stack, loaded, pushed, follow_ok_iff.mp followed, rfl⟩
  · rintro ⟨stack, loaded, pushed, run, rfl⟩
    rw [pushed]
    show (follow fs stack dir root.imports _ >>= _) = _
    rw [follow_of_follows run]
    rfl

/-- **Where a root with its imports fails**: at its own push, or later. -/
theorem closure_error {root : Schema} {dir : String} {e : LoadError}
    (hi : options.loadImports = true) (h : closure fs options root path dir = .error e) :
    ({ limit := options.limit } : ImportStack).push path = .error e ∨
      ∃ stack, ({ limit := options.limit } : ImportStack).push path = .ok stack ∧
        Stops fs stack dir root.imports { seen := [path] } e := by
  rw [closure_eq hi] at h
  cases pushed : ({ limit := options.limit } : ImportStack).push path with
  | error cause =>
      rw [pushed] at h
      cases h
      exact Or.inl rfl
  | ok stack =>
      rw [pushed] at h
      simp only [bind, Except.bind] at h
      cases followed : follow fs stack dir root.imports { seen := [path] } with
      | ok loaded => rw [followed] at h; cases h
      | error cause =>
          rw [followed] at h
          cases h
          exact Or.inr ⟨stack, rfl, follow_error_iff.mp followed⟩

end Follow

/-! ## 2. Paths of roots -/

section Paths

variable {fs : FileSystem} {options : Options} {r : Root} {v : View}

/-- Loading a file reads the root and then follows its imports. -/
theorem load_eq (fs : FileSystem) (options : Options) (path : String) :
    load fs options path =
      Root.ofFile fs path >>= fun r => closure fs options r.schema r.path r.dir := by
  simp only [load, Root.ofFile, bind_assoc, pure_bind]

/-- So does loading a text. -/
theorem loadText_eq (fs : FileSystem) (options : Options) (text : String) (format : FileFormat)
    (dir : String) :
    loadText fs options text format dir =
      Root.ofText text format dir >>= fun r => closure fs options r.schema r.path r.dir := by
  simp only [loadText, Root.ofText, bind_assoc, pure_bind]

/-- **Loading reads the root**, and then follows its imports. -/
theorem view_eq (o : Origin) : o.view fs options =
    o.root fs >>= fun r => closure fs options r.schema r.path r.dir := by
  cases o with
  | file path => exact load_eq fs options path
  | text content format dir => exact loadText_eq fs options content format dir

/-- **Whatever is loaded has a root.** -/
theorem exists_root_of_view {o : Origin} (h : o.view fs options = .ok v) :
    ∃ r, o.root fs = .ok r ∧ Loads fs options r v := by
  cases root : o.root fs with
  | error e => rw [view_eq, root] at h; cases h
  | ok r =>
      refine ⟨r, rfl, ?_⟩
      cases o with
      | file path => exact .file root h
      | text content format dir => exact .text root h

/-- So has whatever is loaded from a file. -/
theorem exists_root_of_load {path : String} (h : load fs options path = .ok v) :
    ∃ r, Root.ofFile fs path = .ok r ∧ Loads fs options r v :=
  exists_root_of_view (o := .file path) h

theorem exists_origin (h : Loads fs options r v) :
    ∃ o : Origin, o.root fs = .ok r ∧ o.view fs options = .ok v := by
  cases h with
  | @file path _ _ root view => exact ⟨.file path, root, view⟩
  | @text text dir format _ _ root view => exact ⟨.text text format dir, root, view⟩

theorem closure_of_loads (h : Loads fs options r v) :
    closure fs options r.schema r.path r.dir = .ok v := by
  obtain ⟨o, root, view⟩ := exists_origin h
  rw [view_eq, root] at view
  exact view

/-- What the root of a file is. -/
theorem ofFile_ok {path : String} (h : Root.ofFile fs path = .ok r) :
    ∃ schema found, fs.canonical path = .ok found ∧ readFile fs found path = .ok schema ∧
      r = ⟨schema, found, directoryOf found⟩ := by
  unfold Root.ofFile at h
  cases hc : fs.canonical path with
  | error e => rw [hc] at h; cases h
  | ok found =>
      rw [hc] at h
      cases hr : readFile fs found path with
      | error e => simp only [Except.mapError, bind, Except.bind, hr] at h; cases h
      | ok schema =>
          simp only [Except.mapError, bind, Except.bind, hr] at h
          cases h
          exact ⟨schema, found, rfl, hr, rfl⟩

theorem ofFile_eq {path found : String} {schema : Schema} (hc : fs.canonical path = .ok found)
    (hr : readFile fs found path = .ok schema) :
    Root.ofFile fs path = .ok ⟨schema, found, directoryOf found⟩ := by
  simp only [Root.ofFile, hc, Except.mapError, bind, Except.bind, hr]
  rfl

/-- A joined path ends as its second part. -/
theorem getLast_join (dir : String) {p : String} (h : p ≠ "") :
    (Path.join dir p).toList.getLast? = p.toList.getLast? := by
  have some_last : p.toList ≠ [] := by simpa using h
  unfold Path.join
  split
  · rfl
  · split <;>
    · rw [String.toList_append, List.getLast?_append_of_ne_nil _ some_last]

/-- The path that the root of a text has, in the directory where its references begin. -/
def textPath (dir : String) (format : FileFormat) : String :=
  Path.join dir ("<memory>." ++ format.extension)

/-- The path of a text ends as its format says. -/
theorem getLast_textPath (dir : String) (format : FileFormat) :
    (textPath dir format).toList.getLast? = format.extension.toList.getLast? := by
  unfold textPath
  rw [getLast_join dir (by cases format <;> decide)]
  cases format <;> decide

/-- No text has the key of the basic types, or is shown like them. -/
theorem textPath_ne_basicTypes (dir : String) (format : FileFormat) :
    textPath dir format ≠ Source.basicTypes.key ∧
      textPath dir format ≠ Source.basicTypes.displayPath := by
  have last := getLast_textPath dir format
  constructor
  all_goals
    intro same
    rw [same] at last
    cases format <;> exact absurd last (by decide)

theorem path_of_ofText {text dir : String} {format : FileFormat}
    (h : Root.ofText text format dir = .ok r) : r.path = textPath dir format := by
  unfold Root.ofText at h
  cases hp : parse text format (Path.join dir ("<memory>." ++ format.extension)) with
  | error e => simp only [hp, bind, Except.bind] at h; cases h
  | ok document =>
      simp only [hp, bind, Except.bind] at h
      cases hs : Schema.read document with
      | error e => simp only [hs, Except.mapError] at h; cases h
      | ok schema =>
          simp only [hs, Except.mapError] at h
          cases h
          rfl

/-- **No root has the key of the basic types**, nor is it shown like them. -/
theorem path_ne_of_root {o : Origin} (h : o.root fs = .ok r) :
    r.path ≠ Source.basicTypes.key ∧ r.path ≠ Source.basicTypes.displayPath := by
  cases o with
  | file path =>
      obtain ⟨schema, found, canonical, _, rfl⟩ := ofFile_ok h
      exact ne_basicTypes_of_located (located_of_canonical canonical)
  | text content format dir =>
      rw [path_of_ofText h]
      exact textPath_ne_basicTypes dir format

end Paths

/-! ## 3. Graphs below roots -/

section Graph

variable {fs : FileSystem} {options : Options} {r : Root} {v : View} {s : Source}

theorem targets_of_ne (h : options.loadImports = true) (hs : s ≠ r.source) :
    r.targets fs options s = s.targets fs := by
  unfold Root.targets
  rw [if_pos h, if_neg hs]

theorem targets_source (h : options.loadImports = true) :
    r.targets fs options r.source = targetsOf fs r.schema.imports r.dir r.path := by
  unfold Root.targets
  rw [if_pos h, if_pos rfl]

theorem read_source : r.read fs r.source = .ok (r.schema, r.dir) := if_pos rfl

theorem read_of_ne (hs : s ≠ r.source) : r.read fs s = s.read fs := if_neg hs

/-- **An edge is an entry of an import list that resolves.** -/
theorem mem_targets_iff (h : options.loadImports = true) {t : Source} :
    t ∈ r.targets fs options s ↔ ∃ schema dir, r.read fs s = .ok (schema, dir) ∧
      ∃ reference ∈ schema.imports, resolve fs reference dir s.displayPath = .ok t := by
  by_cases hs : s = r.source
  · rw [hs, targets_source h, read_source, mem_targetsOf]
    constructor
    · exact fun edge => ⟨_, _, rfl, edge⟩
    · rintro ⟨_, _, e, edge⟩
      cases e
      exact edge
  · rw [targets_of_ne h hs, read_of_ne hs]
    exact imports_iff

/-- What a root leads to is the root or can be led to by a reference. -/
theorem located_of_includes (h : options.loadImports = true) (hs : r.Includes fs options s) :
    s = r.source ∨ s.Located fs := by
  cases hs with
  | refl => exact Or.inl rfl
  | tail _ edge =>
      obtain ⟨_, _, _, _, _, resolved⟩ := (mem_targets_iff h).mp edge
      exact Or.inr (located_of_resolve resolved)

/-- **Messages tell sources apart**, of those below one root. -/
theorem displayPath_inj (hr : r.path ≠ Source.basicTypes.displayPath) {t : Source}
    (hs : s = r.source ∨ s.Located fs) (ht : t = r.source ∨ t.Located fs)
    (h : s.displayPath = t.displayPath) : s = t := by
  -- a file is never shown like the basic types
  have file_ne : ∀ path, (Source.file path = r.source ∨ (Source.file path).Located fs) →
      path ≠ Source.basicTypes.displayPath := by
    rintro path (e | located)
    · cases e
      exact hr
    · exact (ne_basicTypes_of_located located).2
  cases s with
  | basicTypes =>
      cases t with
      | basicTypes => rfl
      | file path => exact absurd h.symm (file_ne path ht)
  | file path =>
      cases t with
      | basicTypes => exact absurd h (file_ne path hs)
      | file other => exact congrArg Source.file h

theorem schema?_source : r.schema? fs r.source = some r.schema := if_pos rfl

theorem schema?_of_holds {schema : Schema} (hs : s ≠ r.source) (h : s.Holds fs schema) :
    r.schema? fs s = some schema := by
  obtain ⟨dir, read⟩ := h
  unfold Root.schema?
  rw [if_neg hs, read]
  rfl

section File

variable {path : String} (root : Root.ofFile fs path = .ok r)
include root

theorem read_of_ofFile : r.source.read fs = .ok (r.schema, r.dir) := by
  obtain ⟨schema, found, _, read, rfl⟩ := ofFile_ok root
  exact read_file read

/-- **Below the root of a file, edges are those of the files.** -/
theorem targets_of_ofFile (h : options.loadImports = true) :
    r.targets fs options = Source.targets fs := by
  funext s
  by_cases hs : s = r.source
  · rw [hs, targets_source h, Source.targets, read_of_ofFile root]
    rfl
  · exact targets_of_ne h hs

/-- Below the root of a file, sources hold what they read. -/
theorem read_eq_of_ofFile : r.read fs s = s.read fs := by
  by_cases hs : s = r.source
  · rw [hs, read_source, read_of_ofFile root]
  · exact read_of_ne hs

/-- All that the root of a file leads to is located, the root too. -/
theorem located_of_ofFile (h : options.loadImports = true) (hs : r.Includes fs options s) :
    s.Located fs := by
  rcases located_of_includes h hs with rfl | located
  · obtain ⟨schema, found, canonical, _, rfl⟩ := ofFile_ok root
    exact located_of_canonical canonical
  · exact located

/-- Below the root of a file, schemas are those of the files. -/
theorem schema?_of_ofFile : r.schema? fs s = (s.read fs).toOption.map (·.1) := by
  unfold Root.schema?
  split
  · rename_i hs
    rw [hs, read_of_ofFile root]
    rfl
  · rfl

end File

/-- **A view holds the schemas of a tour from its root**, in the order of finishing, the root
    last. -/
theorem tour_of_loads (h : Loads fs options r v) :
    ∃ t, r.Toured fs options t ∧
      List.Forall₂ (fun s schema => r.schema? fs s = some schema) (t.done ++ [r.source])
        v.schemas := by
  have hc := closure_of_loads h
  cases wanted : options.loadImports with
  | false =>
      have none_followed : r.targets fs options r.source = [] := by
        unfold Root.targets
        rw [wanted]
        rfl
      refine ⟨⟨[r.source], []⟩, by rw [Root.Toured, none_followed]; exact .stop _, ?_⟩
      unfold closure at hc
      rw [wanted] at hc
      cases hc
      exact .cons schema?_source .nil
  | true =>
      obtain ⟨stack, loaded, pushed, run, rfl⟩ := (closure_ok_iff wanted).mp hc
      obtain ⟨o, root, _⟩ := exists_origin h
      have key_ne := (path_ne_of_root root).1
      obtain ⟨t, hv, ht⟩ := visits_of_follows (fun s hs => targets_of_ne wanted hs)
        (tracks_start key_ne) run
      rw [top_of_push pushed, ← targets_source wanted] at hv
      refine ⟨t, hv, List.rel_append ?_ (.cons schema?_source .nil)⟩
      -- the root is not finished, so each finished source holds what it reads
      have unfinished : ∀ s ∈ t.done, s ≠ r.source := by
        rintro s hs rfl
        exact (((sound_of_visits_root hv).2 r.source).mpr rfl).2 hs
      exact ((List.forall₂_and_left _ _).mpr ⟨unfinished, ht.schemas⟩).imp
        fun s schema both => schema?_of_holds both.1 both.2

end Graph

end SchemaPages.Import
