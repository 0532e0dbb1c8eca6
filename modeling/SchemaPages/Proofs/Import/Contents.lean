import SchemaPages.Proofs.Data.Records
import SchemaPages.Proofs.Import.Precedence
/-!
# Schema files and their contents

A schema can be loaded from its file, or from the text that the file holds. The two ways differ in
the path of the root: it is the key under which the root has been met, and stands at the bottom of
the stack. Where no import has one of the two paths, both ways find the same schemas.

* `Loaded.Matches`, `ImportStack.Levels`: what has been loaded, and the stack, on either way;
* `follows_of_matches`: references that can be followed on one way can be followed on the other;
* `ReadsAs`, `ofFile_ok_iff`, `ofText_ok_iff`: the roots of a file and of its text;
* `load_iff_loadText`: a file against its text.
-/

namespace SchemaPages.Import

open DepthFirst

/-! ## 1. Two ways -/

/-- **The same has been loaded**, apart from what has been met under keys of its own. -/
structure Loaded.Matches (own : String → Prop) (a b : Loaded) : Prop where
  schemas : a.schemas = b.schemas
  seen : ∀ k, ¬ own k → (k ∈ a.seen ↔ k ∈ b.seen)

/-- Two stacks are equally deep under one limit. -/
structure ImportStack.Levels (a b : ImportStack) : Prop where
  limit : a.limit = b.limit
  depth : a.depth = b.depth

section Ways

variable {fs : FileSystem} {own : String → Prop} {a b : Loaded} {stack stack' inner : ImportStack}

theorem matches_enter (h : a.Matches own b) (key : String) :
    Loaded.Matches own { a with seen := key :: a.seen } { b with seen := key :: b.seen } where
  schemas := h.schemas
  seen k hk := by rw [List.mem_cons, List.mem_cons, h.seen k hk]

theorem matches_leave (h : a.Matches own b) (s : Schema) :
    Loaded.Matches own { a with schemas := a.schemas ++ [s] }
      { b with schemas := b.schemas ++ [s] } where
  schemas := by rw [h.schemas]
  seen := h.seen

/-- Equally deep stacks have room for one schema more alike. -/
theorem push_of_levels {path : String} (h : stack.Levels stack')
    (hp : stack.push path = .ok inner) (other : String) :
    ∃ inner', stack'.push other = .ok inner' ∧ inner.Levels inner' := by
  unfold ImportStack.push at hp ⊢
  split at hp
  · cases hp
  · rename_i room
    cases hp
    rw [h.limit, h.depth] at room
    rw [if_neg room]
    have deeper : stack.depth + 1 = stack'.depth + 1 := by rw [h.depth]
    exact ⟨_, rfl, h.limit, by simpa [ImportStack.depth] using deeper⟩

/-- The schema that a reference stands in shows in messages alone. -/
theorem resolve_importer {r dir importer : String} {s : Source}
    (h : resolve fs r dir importer = .ok s) (other : String) : resolve fs r dir other = .ok s := by
  unfold resolve at h ⊢
  split at h
  · exact h
  · cases h
  · split at h
    · cases h
    · rename_i near
      rw [if_neg near]
      dsimp only at h ⊢
      split at h
      · rename_i file
        rw [if_pos file]
        split at h
        · exact h
        · cases h
      · cases h

theorem targetsOf_importer (references : List String) (dir importer other : String) :
    targetsOf fs references dir importer = targetsOf fs references dir other := by
  unfold targetsOf
  congr 1
  funext r
  cases h : resolve fs r dir importer with
  | ok s => rw [resolve_importer h other]
  | error e =>
      cases h' : resolve fs r dir other with
      | ok s => rw [resolve_importer h' importer] at h; cases h
      | error _ => rfl

/-! ## 2. Following references -/

/-- **References that can be followed on one way can be followed on the other**, and the same is
    loaded, if nothing that they lead to has a key of the ways' own. -/
theorem follows_of_matches {below : Source → Prop} (apart : ∀ s, below s → ¬ own s.key)
    (closed : ∀ s t, below s → Imports fs s t → below t) {dir : String} {references : List String}
    {result : Loaded} (h : Follows fs stack dir references a result) (level : stack.Levels stack')
    (same : a.Matches own b) (begun : ∀ s ∈ targetsOf fs references dir stack.top, below s) :
    ∃ result', Follows fs stack' dir references b result' ∧ result.Matches own result' := by
  induction h generalizing stack' b with
  | done => exact ⟨b, .done, same⟩
  | @met _ _ _ _ _ _ s leads seen _ ih =>
      rw [targetsOf_cons leads] at begun
      obtain ⟨here, later⟩ := List.forall_mem_cons.mp begun
      have met := same.seen s.key (apart s here)
      obtain ⟨result', run, done⟩ := ih level same later
      exact ⟨result', .met (resolve_importer leads stack'.top) (met.mp seen) run, done⟩
  | @enter _ _ _ _ _ _ _ _ _ s schema leads new read pushed _ _ ihBelow ihLater =>
      rw [targetsOf_cons leads] at begun
      obtain ⟨here, later⟩ := List.forall_mem_cons.mp begun
      have met := same.seen s.key (apart s here)
      obtain ⟨inner', pushed', deeper⟩ := push_of_levels level pushed s.displayPath
      have inside : ∀ t ∈ s.targets fs, below t := fun t edge => closed s t here edge
      rw [targets_of_push read pushed] at inside
      obtain ⟨within', run, done⟩ := ihBelow deeper (matches_enter same s.key) inside
      obtain ⟨result', run', done'⟩ := ihLater level (matches_leave done schema) later
      exact ⟨result', .enter (resolve_importer leads stack'.top) (fun seen => new (met.mpr seen)) read
        pushed' run run', done'⟩

end Ways

/-! ## 3. Roots -/

/-- A text of a format holds a schema. -/
def ReadsAs (text : String) (format : FileFormat) (s : Schema) : Prop :=
  ∃ document, parse text format "" = .ok document ∧ Schema.read document = .ok s

section Roots

variable {fs : FileSystem} {options : Options} {path text dir : String} {format : FileFormat}
  {r : Root}

/-- The path of a text shows in messages alone. -/
theorem parse_shown {p : String} {document : Value} (h : parse text format p = .ok document)
    (other : String) : parse text format other = .ok document := by
  unfold parse at h ⊢
  split
  · dsimp only at h
    split at h
    · exact h
    · cases h
    · cases h
  · dsimp only at h
    split at h
    · exact h
    · cases h

/-- The root of a text. -/
theorem ofText_ok_iff : Root.ofText text format dir = .ok r ↔
    ∃ s, ReadsAs text format s ∧ r = ⟨s, textPath dir format, dir⟩ := by
  unfold Root.ofText
  constructor
  · intro h
    obtain ⟨document, parsed, h⟩ := exists_of_bind_ok h
    obtain ⟨s, read, h⟩ := exists_of_bind_ok h
    cases h
    exact ⟨s, ⟨document, parse_shown parsed "", mapError_ok_iff.mp read⟩, rfl⟩
  · rintro ⟨s, ⟨document, parsed, read⟩, rfl⟩
    dsimp only
    rw [parse_shown parsed]
    show ((Schema.read document).mapError _ >>= _) = _
    rw [read]
    rfl

section File

variable (canonical : fs.canonical path = .ok path) (content : fs.readText path = .ok text)
  (known : FileFormat.ofPath path = .ok format)
include canonical content known

/-- **The root of a file with its canonical path is that of its text**, but for where it comes
    from. -/
theorem ofFile_ok_iff : Root.ofFile fs path = .ok r ↔
    ∃ s, ReadsAs text format s ∧ r = ⟨{ s with source := path }, path, directoryOf path⟩ := by
  have parsed : parseFile fs path = parse text format path := by
    unfold parseFile
    rw [known, content]
    rfl
  have opened : Root.ofFile fs path =
      (readFile fs path path).map fun s => ⟨s, path, directoryOf path⟩ := by
    unfold Root.ofFile
    rw [canonical]
    dsimp only [Except.mapError, bind, Except.bind]
    cases readFile fs path path <;> rfl
  rw [opened]
  unfold readFile
  rw [parsed]
  constructor
  · intro h
    obtain ⟨schema, made, rfl⟩ := exists_of_map_ok h
    obtain ⟨document, parsed, made⟩ := exists_of_bind_ok made
    obtain ⟨s, read, made⟩ := exists_of_bind_ok made
    cases made
    exact ⟨s, ⟨document, parse_shown parsed "", mapError_ok_iff.mp read⟩, rfl⟩
  · rintro ⟨s, ⟨document, parsed, read⟩, rfl⟩
    rw [parse_shown parsed]
    show ((Schema.read document).mapError _ >>= _).map _ = _
    rw [read]
    rfl

end File

/-! ## 4. Views -/

/-- **A root with another path and source finds the same schemas**, if its imports begin in the same
    directory and lead to nothing that has one of the two paths. -/
theorem closure_of_imports (root root' : Schema) (path path' : String) {v : View}
    (same : root.imports = root'.imports)
    (below : Source → Prop) (apart : ∀ s, below s → ¬ (s.key = path ∨ s.key = path'))
    (closed : ∀ s t, below s → Imports fs s t → below t)
    (begun : ∀ s ∈ targetsOf fs root.imports dir path, below s)
    (h : closure fs options root path dir = .ok v) :
    ∃ schemas, v = View.ofSchemas root schemas ∧
      closure fs options root' path' dir = .ok (View.ofSchemas root' schemas) := by
  cases wanted : options.loadImports with
  | false =>
      unfold closure at h ⊢
      rw [wanted] at h ⊢
      cases h
      exact ⟨[], rfl, rfl⟩
  | true =>
      obtain ⟨stack, loaded, pushed, run, rfl⟩ := (closure_ok_iff wanted).mp h
      obtain ⟨stack', pushed', level⟩ := push_of_levels ⟨rfl, rfl⟩ pushed path'
      have start : Loaded.Matches (fun k => k = path ∨ k = path') { seen := [path] }
          { seen := [path'] } := by
        refine ⟨rfl, fun k hk => ?_⟩
        obtain ⟨other, other'⟩ := not_or.mp hk
        simp [other, other']
      rw [← top_of_push pushed] at begun
      obtain ⟨loaded', run', done⟩ := follows_of_matches apart closed run level start begun
      rw [same] at run'
      exact ⟨loaded.schemas, rfl, (closure_ok_iff wanted).mpr
        ⟨stack', loaded', pushed', run', by rw [done.schemas]⟩⟩

end Roots

section Agreement

variable {fs : FileSystem} {options : Options} {path text : String} {format : FileFormat}
  (canonical : fs.canonical path = .ok path) (content : fs.readText path = .ok text)
  (known : FileFormat.ofPath path = .ok format)
  (apart : ∀ s, Relation.TransGen (Imports fs) (.file path) s →
    s ≠ .file path ∧ s ≠ .file (textPath (directoryOf path) format))
include canonical

include apart in
/-- Nothing that the file leads to has its key, or that of its text. -/
theorem key_apart {s : Source} (h : Relation.TransGen (Imports fs) (.file path) s) :
    s.key ≠ path ∧ s.key ≠ textPath (directoryOf path) format := by
  cases s with
  | basicTypes =>
      exact ⟨(ne_basicTypes_of_located (located_of_canonical canonical)).1.symm,
        (textPath_ne_basicTypes _ format).1.symm⟩
  | file p =>
      obtain ⟨other, other'⟩ := apart _ h
      exact ⟨fun e => other (congrArg Source.file e), fun e => other' (congrArg Source.file e)⟩

include content known in
/-- What the references of the file's schema lead to, whichever schema messages show. -/
theorem leads_of_targets {r : Root} (root : Root.ofFile fs path = .ok r) (importer : String)
    {s : Source} (h : s ∈ targetsOf fs r.schema.imports (directoryOf path) importer) :
    Relation.TransGen (Imports fs) (.file path) s := by
  obtain ⟨_, _, rfl⟩ := (ofFile_ok_iff canonical content known).mp root
  have read := read_of_ofFile root
  refine .single ?_
  unfold Imports Source.targets
  rw [targetsOf_importer _ _ importer path] at h
  unfold Root.source at read
  rw [read]
  exact h

include content known apart

/-- A text can be loaded whose file can be loaded. -/
theorem loadText_of_load {v : View} (h : load fs options path = .ok v) :
    ∃ s schemas, v = View.ofSchemas { s with source := path } schemas ∧
      loadText fs options text format (directoryOf path) = .ok (View.ofSchemas s schemas) := by
  rw [load_eq] at h
  obtain ⟨r, root, h⟩ := exists_of_bind_ok h
  have begun := fun s => leads_of_targets canonical content known root path (s := s)
  obtain ⟨s, read, rfl⟩ := (ofFile_ok_iff canonical content known).mp root
  obtain ⟨schemas, rfl, found⟩ := closure_of_imports { s with source := path } s path
    (textPath (directoryOf path) format) rfl _
    (fun s hs => not_or.mpr (key_apart canonical apart hs)) (fun _ _ hs edge => hs.tail edge) begun h
  refine ⟨s, schemas, rfl, ?_⟩
  rw [loadText_eq, ofText_ok_iff.mpr ⟨s, read, rfl⟩]
  exact found

/-- A file can be loaded whose text can be loaded. -/
theorem load_of_loadText {w : View}
    (h : loadText fs options text format (directoryOf path) = .ok w) :
    ∃ v, load fs options path = .ok v := by
  rw [loadText_eq] at h
  obtain ⟨r, root, h⟩ := exists_of_bind_ok h
  obtain ⟨s, read, rfl⟩ := ofText_ok_iff.mp root
  have file := (ofFile_ok_iff canonical content known).mpr ⟨s, read, rfl⟩
  obtain ⟨schemas, _, found⟩ := closure_of_imports s { s with source := path }
    (textPath (directoryOf path) format) path rfl _
    (fun s hs => not_or.mpr (key_apart canonical apart hs).symm) (fun _ _ hs edge => hs.tail edge)
    (fun s => leads_of_targets canonical content known file _ (s := s)) h
  rw [load_eq, file]
  exact ⟨_, found⟩

end Agreement

/-- **A file and its text are loaded alike.** A schema file is named by its canonical path and has a
    supported extension. If its imports lead neither back to it nor to a file in the place that its
    text would have, the file can be loaded exactly when its text can be loaded in its directory,
    and the views are the same but for where the root says that it comes from. -/
theorem load_iff_loadText (fs : FileSystem) (options : Options) (path text : String)
    (format : FileFormat) (canonical : fs.canonical path = .ok path)
    (content : fs.readText path = .ok text) (known : FileFormat.ofPath path = .ok format)
    (apart : ∀ s, Relation.TransGen (Imports fs) (.file path) s →
      s ≠ .file path ∧ s ≠ .file (textPath (directoryOf path) format)) :
    ((∃ v, load fs options path = .ok v) ↔
      ∃ w, loadText fs options text format (directoryOf path) = .ok w) ∧
    ∀ v w, load fs options path = .ok v →
      loadText fs options text format (directoryOf path) = .ok w →
      v.root = { w.root with source := path } ∧ v.imported = w.imported ∧ v.own = w.own ∧
        v.merged = w.merged := by
  refine ⟨⟨fun ⟨v, file⟩ => ?_, fun ⟨w, given⟩ => ?_⟩, fun v w file given => ?_⟩
  · obtain ⟨s, schemas, _, found⟩ := loadText_of_load canonical content known apart file
    exact ⟨_, found⟩
  · exact load_of_loadText canonical content known apart given
  · obtain ⟨s, schemas, rfl, found⟩ := loadText_of_load canonical content known apart file
    rw [found] at given
    cases given
    exact ⟨rfl, rfl, rfl, rfl⟩

/-- The imports of the root among the files lead neither back to it nor to a text. -/
theorem apart_siblings (s : Source)
    (h : Relation.TransGen (Imports siblingFiles) (.file "/r.json") s) :
    s ≠ .file "/r.json" ∧ s ≠ .file (textPath "/" .json) := by
  obtain ⟨mem, lower⟩ := rank_lt_of_leads siblingSources (siblingSources.idxOf ·) siblings_down h
    (by decide)
  have others : ∀ t ∈ siblingSources, t ≠ .file (textPath "/" .json) := by decide +kernel
  exact ⟨fun e => Nat.lt_irrefl _ (e ▸ lower), others s mem⟩

set_option maxRecDepth 10000 in
/-- The root among the files, with imports of imports, is loaded from its file and from its text. -/
theorem load_iff_loadText_siblings : ∃ text v w, siblingFiles.canonical "/r.json" = .ok "/r.json" ∧
    siblingFiles.readText "/r.json" = .ok text ∧ FileFormat.ofPath "/r.json" = .ok .json ∧
    load siblingFiles {} "/r.json" = .ok v ∧ loadText siblingFiles {} text .json "/" = .ok w ∧
    v.importsClosure = ["a", "c", "b", "r"] ∧ v.imported = w.imported ∧ v.merged = w.merged := by
  have canonical : siblingFiles.canonical "/r.json" = .ok "/r.json" := by rfl
  have known : FileFormat.ofPath "/r.json" = .ok .json := by rfl
  have dir : directoryOf "/r.json" = "/" := by decide +kernel
  have viewed : (load siblingFiles {} "/r.json").toOption.map View.importsClosure =
      some ["a", "c", "b", "r"] := by decide +kernel
  cases content : siblingFiles.readText "/r.json" with
  | error e =>
      have there : (siblingFiles.readText "/r.json").toOption.isSome = true := by decide +kernel
      rw [content] at there
      cases there
  | ok text =>
      obtain ⟨alike, same⟩ := load_iff_loadText siblingFiles {} "/r.json" text .json canonical content
        known (dir.symm ▸ apart_siblings)
      cases file : load siblingFiles {} "/r.json" with
      | error e => rw [file] at viewed; cases viewed
      | ok v =>
          rw [file] at viewed
          obtain ⟨w, given⟩ := alike.mp ⟨v, file⟩
          obtain ⟨_, imported, _, merged⟩ := same v w file given
          rw [dir] at given
          exact ⟨text, v, w, canonical, rfl, known, rfl, given, Option.some.inj viewed, imported,
            merged⟩

end SchemaPages.Import
