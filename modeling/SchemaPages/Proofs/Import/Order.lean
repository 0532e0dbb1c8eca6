import SchemaPages.Proofs.Import.Failure
/-!
# The order of loaded schemas

A view that has been loaded from a file holds one schema for each source that the root leads to. The
imports of a schema stand before it, but for those that import it in turn; the root comes last.

* `LoadOrder`: what is said of the schemas of a view;
* `loadOrder_of_load`: it holds of every view that is loaded;
* `load_ne_tooDeep`, `load_ok_of_readable`: a limit that is never reached;
* `import_closure`: all of it in one statement.
-/

namespace SchemaPages.Import

open DepthFirst

/-- **Sources in the order in which their schemas are loaded.** -/
structure LoadOrder (fs : FileSystem) (root : Source) (sources : List Source)
    (schemas : List Schema) : Prop where
  /-- Schemas are those of the sources, one for one. -/
  holds : List.Forall₂ (Source.Holds fs) sources schemas
  /-- No key stands twice. -/
  keys : (sources.map Source.key).Nodup
  /-- The sources are exactly those that the root leads to. -/
  mem : ∀ s, s ∈ sources ↔ Reaches fs root s
  last : sources.getLast? = some root
  /-- What a source imports stands before it, unless it leads back to the source. -/
  ordered : ∀ before s after, sources = before ++ s :: after →
    ∀ t, Imports fs s t → t ∈ before ∨ Reaches fs t s

section Order

variable {fs : FileSystem} {options : Options} {path : String}

/-- A tour from the root of a file with all its schemas, and the root's own schema at last. -/
theorem loadOrder_of_toured {r : Root} {t : Tour Source} {schemas : List Schema}
    (hi : options.loadImports = true) (root : Root.ofFile fs path = .ok r)
    (toured : r.Toured fs options t)
    (found : List.Forall₂ (fun s schema => r.schema? fs s = some schema) (t.done ++ [r.source])
      schemas) :
    LoadOrder fs r.source (t.done ++ [r.source]) schemas := by
  obtain ⟨nodup, reached, ordered⟩ := ordered_of_visits_root toured
  have located : ∀ s ∈ t.done ++ [r.source], s.Located fs := fun s hs =>
    located_of_ofFile root hi ((reached s).mp hs)
  have keys : ((t.done ++ [r.source]).map Source.key).Nodup := List.Nodup.map_on
    (fun s hs u hu e => key_inj (located s hs) (located u hu) e) nodup
  rw [targets_of_ofFile root hi] at reached ordered
  refine ⟨found.imp fun s schema hs => ?_, keys, reached, by simp, ordered⟩
  rw [schema?_of_ofFile root] at hs
  cases read : s.read fs with
  | error e => rw [read] at hs; cases hs
  | ok held => rw [read] at hs; cases hs; exact ⟨held.2, read⟩

/-- **A view that is loaded holds exactly what the root leads to, in the order of imports.** -/
theorem loadOrder_of_load {v : View} (hi : options.loadImports = true)
    (h : load fs options path = .ok v) :
    ∃ found sources, fs.canonical path = .ok found ∧
      LoadOrder fs (.file found) sources v.schemas := by
  obtain ⟨r, root, loads⟩ := exists_root_of_load h
  obtain ⟨t, toured, schemas⟩ := tour_of_loads loads
  have order := loadOrder_of_toured hi root toured schemas
  obtain ⟨schema, found, canonical, _, rfl⟩ := ofFile_ok root
  exact ⟨found, _, canonical, order⟩

/-- No path of the graph meets more sources than there are. -/
theorem length_le_of_simplePath {r : Root} {trail : List Source} (hi : options.loadImports = true)
    (root : Root.ofFile fs path = .ok r) (h : SimplePath fs options r trail) :
    trail.length ≤ fs.nodes.length + 2 :=
  length_le_of_located h.nodup fun _ hs => located_of_ofFile root hi (includes_of_simplePath h hs)

/-- **A limit above the number of files is never reached**, whatever imports what. -/
theorem load_ne_tooDeep (hi : options.loadImports = true) (hl : fs.nodes.length + 2 ≤ options.limit)
    (limit : Nat) (chain : List String) :
    load fs options path ≠ .error (.tooDeep limit chain) := by
  intro h
  rcases fails_of_view (o := .file path) hi h with unread | ⟨r, root, fails⟩
  · exact ofDocument_of_root unread
  · obtain ⟨_, trail, long⟩ := overlong_of_fails fails
    have bound := length_le_of_simplePath hi root long.toSimplePath
    rw [long.length] at bound
    omega

/-- **Loading succeeds** when the limit is above the number of files, every source that the root
    leads to can be read and all its references resolve. -/
theorem load_ok_of_readable {found : String} {schema : Schema} (hi : options.loadImports = true)
    (hl : fs.nodes.length + 2 ≤ options.limit) (hc : fs.canonical path = .ok found)
    (hr : readFile fs found path = .ok schema)
    (readable : ∀ s, Reaches fs (.file found) s → ∃ schema dir, s.read fs = .ok (schema, dir) ∧
      ∀ r ∈ schema.imports, ∃ t, resolve fs r dir s.displayPath = .ok t) :
    ∃ v, load fs options path = .ok v := by
  have root := ofFile_eq hc hr
  refine view_ok_of_readable (o := .file path) hi root (fun s reached => ?_) fun trail h =>
    Nat.le_trans (length_le_of_simplePath hi root h) hl
  rw [Root.Includes, targets_of_ofFile root hi] at reached
  rw [read_eq_of_ofFile root]
  exact readable s reached

end Order

/-- **The closure of imports.** A view that is loaded holds exactly the sources that its root leads
    to, each once, the root last, and each after what it imports unless that leads back to it. For no
    graph does following the imports go on for longer than there are files: a limit above their
    number is never the reason for an error, and without another reason there is a view. -/
theorem import_closure (fs : FileSystem) (options : Options) (path : String)
    (hi : options.loadImports = true) :
    (∀ v, load fs options path = .ok v → ∃ found sources, fs.canonical path = .ok found ∧
      LoadOrder fs (.file found) sources v.schemas) ∧
    (fs.nodes.length + 2 ≤ options.limit →
      (∀ limit chain, load fs options path ≠ .error (.tooDeep limit chain)) ∧
      ∀ found root, fs.canonical path = .ok found → readFile fs found path = .ok root →
        (∀ s, Reaches fs (.file found) s → ∃ schema dir, s.read fs = .ok (schema, dir) ∧
          ∀ r ∈ schema.imports, ∃ t, resolve fs r dir s.displayPath = .ok t) →
        ∃ v, load fs options path = .ok v) := by
  refine ⟨fun v h => loadOrder_of_load hi h, fun hl => ⟨load_ne_tooDeep hi hl, ?_⟩⟩
  intro found root hc hr readable
  exact load_ok_of_readable hi hl hc hr readable

/-- Two files that import each other, one of them itself too, and both the basic types. -/
def mutualFiles : FileSystem where
  nodes := [
    (["a.json"], .file (.text
      "\x7b\"id\":\"a\",\"name\":\"a\",\"imports\":[\"a.json\",\"b.json\",\"linkml:types\"]\x7d")),
    (["b.json"], .file (.text
      "\x7b\"id\":\"b\",\"name\":\"b\",\"imports\":[\"linkml:types\",\"a.json\",\"b.json\"]\x7d"))]

set_option maxRecDepth 10000 in
theorem import_closure_mutual :
    ((load mutualFiles {} "a.json").map View.importsClosure).toOption =
      some ["types", "b", "a"] ∧
    (∀ v, load mutualFiles {} "a.json" = .ok v → ∃ found sources,
      mutualFiles.canonical "a.json" = .ok found ∧
        LoadOrder mutualFiles (.file found) sources v.schemas) ∧
    ∀ limit chain, load mutualFiles {} "a.json" ≠ .error (.tooDeep limit chain) :=
  have closed := import_closure mutualFiles {} "a.json" rfl
  ⟨by decide +kernel, closed.1, (closed.2 (by decide)).1⟩

end SchemaPages.Import
