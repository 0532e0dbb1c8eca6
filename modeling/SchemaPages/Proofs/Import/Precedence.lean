import SchemaPages.Proofs.Import.Root
import SchemaPages.Proofs.View.Definitions
/-!
# Which definition wins

Several schemas that a root leads to may define one name or declare one prefix. The view takes what
the last of them declares in the order in which imports are finished. So a schema shadows whatever it
imports; but of two schemas that do not import each other the one imported later wins.

* `Root.definition?`, `Root.expansion?`: what a source declares;
* `declaredLast_of_loads`: a view takes what is declared last;
* `importer_shadows`: nothing is taken from a source that another one imports and shadows;
* `first_visited_wins_iff`: when the source that is met first is the one to win;
* `later_sibling_wins`: it need not be.
-/

namespace SchemaPages.Import

open DepthFirst

/-! ## 1. What sources declare -/

/-- What a source below a root declares, of whatever can be asked of a schema. -/
def Root.declared {β : Type} (fs : FileSystem) (r : Root) (f : Schema → Option β) (s : Source) :
    Option β :=
  (r.schema? fs s).bind f

/-- What a source below a root defines by a name. -/
def Root.definition? (fs : FileSystem) (r : Root) (k : Kind) (n : String) :
    Source → Option Element :=
  r.declared fs (·.definition? k n)

/-- The expansion that a source below a root declares for a prefix. -/
def Root.expansion? (fs : FileSystem) (r : Root) (key : String) : Source → Option String :=
  r.declared fs (·.prefixes.lookup key)

/-- One of some sources declares something, and none of those behind it does. -/
def DeclaredLast {β : Type} (sources : List Source) (declared : Source → Option β) (u : Source)
    (b : β) : Prop :=
  declared u = some b ∧
    ∃ before after, sources = before ++ u :: after ∧ ∀ s ∈ after, declared s = none

section Last

variable {β : Type} {fs : FileSystem} {options : Options} {r : Root} {v : View} {s : Source}

/-- Below the root of a file, sources declare what their files do. -/
theorem declared_of_ofFile {path : String} (root : Root.ofFile fs path = .ok r)
    (f : Schema → Option β) :
    r.declared fs f s = ((s.read fs).toOption.map (·.1)).bind f := by
  unfold Root.declared
  rw [schema?_of_ofFile root]

/-- Sources and their schemas declare the same. -/
theorem findSome?_reverse_eq {f : Schema → Option β} {sources : List Source} {schemas : List Schema}
    (h : List.Forall₂ (fun s schema => r.schema? fs s = some schema) sources schemas) :
    schemas.reverse.findSome? f = sources.reverse.findSome? (r.declared fs f) := by
  induction h with
  | nil => rfl
  | cons same _ ih =>
      rw [List.reverse_cons, List.reverse_cons, List.findSome?_append, List.findSome?_append, ih]
      simp [Root.declared, same]

/-- Where something is declared, something is declared last. -/
theorem exists_declaredLast {declared : Source → Option β} {sources : List Source}
    (hs : s ∈ sources) (h : declared s ≠ none) :
    ∃ u b, DeclaredLast sources declared u b ∧ sources.reverse.findSome? declared = some b := by
  have found : sources.reverse.findSome? declared ≠ none := fun silent =>
    h (List.findSome?_eq_none_iff.mp silent s (List.mem_reverse.mpr hs))
  obtain ⟨b, hb⟩ := Option.ne_none_iff_exists'.mp found
  obtain ⟨after, u, before, split, hu, silent⟩ := List.findSome?_eq_some_iff.mp hb
  have order : sources = before.reverse ++ u :: after.reverse := by
    rw [← List.reverse_reverse sources, split]
    simp
  exact ⟨u, b, ⟨hu, before.reverse, after.reverse, order,
    fun x hx => silent x (List.mem_reverse.mp hx)⟩, hb⟩

/-- **A view takes what is declared last**, in the order in which a tour from its root finishes the
    sources, whatever it takes from its schemas. -/
theorem declaredLast_of_loads (h : Loads fs options r v) :
    ∃ t, r.Toured fs options t ∧
      ∀ (β : Type) (f : Schema → Option β) s, r.Includes fs options s →
        r.declared fs f s ≠ none →
        ∃ u b, DeclaredLast (t.done ++ [r.source]) (r.declared fs f) u b ∧
          v.schemas.reverse.findSome? f = some b := by
  obtain ⟨t, visits, holds⟩ := tour_of_loads h
  refine ⟨t, visits, fun β f s included declares => ?_⟩
  have hs := ((ordered_of_visits_root visits).2.1 s).mpr included
  obtain ⟨u, b, last, found⟩ := exists_declaredLast hs declares
  exact ⟨u, b, last, (findSome?_reverse_eq holds).trans found⟩

/-! ## 2. Importing schemas win -/

/-- **A source wins** among those that declare something below a root: none of the others imports
    it, directly or through others, and the root wins wherever it declares something. -/
structure Root.Wins (fs : FileSystem) (options : Options) (r : Root) (declared : Source → Option β)
    (u : Source) (b : β) : Prop where
  included : r.Includes fs options u
  declares : declared u = some b
  unshadowed : ∀ s, r.Includes fs options s → declared s ≠ none → ¬ r.Above fs options s u
  root_first : declared r.source ≠ none → u = r.source

/-- Nothing shadows what a tour without cycles finishes last. -/
theorem wins_of_declaredLast {t : Tour Source} {declared : Source → Option β} {u : Source} {b : β}
    (visits : r.Toured fs options t) (acyclic : Acyclic (r.targets fs options) r.source)
    (h : DeclaredLast (t.done ++ [r.source]) declared u b) : r.Wins fs options declared u b := by
  obtain ⟨declares, before, after, split, silent⟩ := h
  have included : r.Includes fs options u :=
    ((ordered_of_visits_root visits).2.1 u).mp (split ▸ List.mem_append_right _ List.mem_cons_self)
  have unshadowed : ∀ s, r.Includes fs options s → declared s ≠ none →
      ¬ r.Above fs options s u := fun s hs said =>
    not_leads_last (fun x => declared x ≠ none) visits acyclic split
      (fun x hx said => said (silent x hx)) hs said
  refine ⟨included, declares, unshadowed, fun said => ?_⟩
  by_contra other
  exact unshadowed r.source .refl said
    ((Relation.reflTransGen_iff_eq_or_transGen.mp included).resolve_left other)

end Last

/-- **An importing schema shadows what it imports**, where imports have no cycles. What a view has
    for a kind and name, if any of its schemas defines it, is the definition of a source that wins;
    and so is the expansion of a prefix. -/
theorem importer_shadows (fs : FileSystem) (options : Options) (r : Root) (v : View)
    (h : Loads fs options r v) (acyclic : Acyclic (r.targets fs options) r.source) :
    (∀ k n s, r.Includes fs options s → r.definition? fs k n s ≠ none →
      ∃ u e, r.Wins fs options (r.definition? fs k n) u e ∧
        v.elementOfKind? k n = some (v.shown e) ∧
        ∀ x, v.element? n = some x → x.kind = k → x = v.shown e) ∧
    ∀ curie key rest, Text.cutAt? ':' curie = some (key, rest) →
      Text.beginsWith "//" rest = false → ∀ s, r.Includes fs options s →
        r.expansion? fs key s ≠ none →
        ∃ u b, r.Wins fs options (r.expansion? fs key) u b ∧ v.expandCurie curie = b ++ rest := by
  obtain ⟨t, visits, taken⟩ := declaredLast_of_loads h
  refine ⟨fun k n s hs defined => ?_, fun curie key rest cut plain s hs declares => ?_⟩
  · obtain ⟨u, e, last, found⟩ := taken _ _ s hs defined
    have look_up : v.elementOfKind? k n = some (v.shown e) := by
      rw [View.elementOfKind?_eq_findSome?, found]
      rfl
    refine ⟨u, e, wins_of_declaredLast visits acyclic last, look_up, fun x hx kind => ?_⟩
    obtain ⟨mem, name⟩ := View.mem_of_element? hx
    have same := View.elementOfKind?_of_mem mem
    rw [kind, name, look_up] at same
    exact (Option.some.inj same).symm
  · obtain ⟨u, b, last, found⟩ := taken _ _ s hs declares
    refine ⟨u, b, wins_of_declaredLast visits acyclic last, ?_⟩
    have expansion : v.expansion? key = some b := (View.expansion?_eq_findSome? key).trans found
    unfold View.expandCurie
    simp [cut, plain, expansion]

/-- A root that imports two files, the second of which imports a third. These three define a class
    of one name, and the latter two declare one prefix. -/
def siblingFiles : FileSystem where
  nodes := [
    (["r.json"], .file (.text
      "\x7b\"id\":\"r\",\"name\":\"r\",\"imports\":[\"a.json\",\"b.json\"]\x7d")),
    (["a.json"], .file (.text
      "\x7b\"id\":\"a\",\"name\":\"a\",\"classes\":\x7b\"X\":\x7b\x7d\x7d\x7d")),
    (["b.json"], .file (.text
      "\x7b\"id\":\"b\",\"name\":\"b\",\"imports\":\"c.json\",\"prefixes\":\x7b\"p\":\"b\"\x7d,
       \"classes\":\x7b\"X\":\x7b\x7d\x7d\x7d")),
    (["c.json"], .file (.text
      "\x7b\"id\":\"c\",\"name\":\"c\",\"prefixes\":\x7b\"p\":\"c\"\x7d,
       \"classes\":\x7b\"X\":\x7b\x7d\x7d\x7d"))]

/-- What there is in one of the files: its imports, the schema of its class, the expansion of its
    prefix, and where it lies. -/
def contents (s : Source) : Option (List String × Option (Option String) × Option String × String) :=
  (s.read siblingFiles).toOption.map fun (schema, dir) =>
    (schema.imports, (schema.definition? .cls "X").map Element.fromSchema,
      schema.prefixes.lookup "p", dir)

set_option maxRecDepth 10000 in
theorem contents_siblings :
    contents (.file "/r.json") = some (["a.json", "b.json"], none, none, "/") ∧
    contents (.file "/a.json") = some ([], some (some "a"), none, "/") ∧
    contents (.file "/b.json") = some (["c.json"], some (some "b"), some "b", "/") ∧
    contents (.file "/c.json") = some ([], some (some "c"), some "c", "/") := by
  refine ⟨?_, ?_, ?_, ?_⟩ <;> decide +kernel

section Contents

variable {s : Source} {imports : List String} {x : Option (Option String)} {p : Option String}
  {dir : String} (h : contents s = some (imports, x, p, dir))
include h

theorem targets_of_contents :
    s.targets siblingFiles = targetsOf siblingFiles imports dir s.displayPath := by
  unfold Source.targets
  unfold contents at h
  cases read : s.read siblingFiles with
  | error e => rw [read] at h; cases h
  | ok found => rw [read] at h; cases h; rfl

theorem declared_of_contents {r : Root} (root : Root.ofFile siblingFiles "r.json" = .ok r) :
    (r.definition? siblingFiles .cls "X" s).map Element.fromSchema = x ∧
      r.expansion? siblingFiles "p" s = p := by
  unfold Root.definition? Root.expansion?
  rw [declared_of_ofFile root, declared_of_ofFile root]
  unfold contents at h
  cases read : s.read siblingFiles with
  | error e => rw [read] at h; cases h
  | ok found => rw [read] at h; cases h; exact ⟨rfl, rfl⟩

end Contents

/-- The imports of the files. -/
theorem targets_siblings :
    Source.targets siblingFiles (.file "/r.json") = [.file "/a.json", .file "/b.json"] ∧
    Source.targets siblingFiles (.file "/a.json") = [] ∧
    Source.targets siblingFiles (.file "/b.json") = [.file "/c.json"] ∧
    Source.targets siblingFiles (.file "/c.json") = [] := by
  obtain ⟨r, a, b, c⟩ := contents_siblings
  rw [targets_of_contents r, targets_of_contents a, targets_of_contents b, targets_of_contents c]
  decide +kernel

/-- The sources of the files, each after what it imports. -/
def siblingSources : List Source :=
  [.file "/c.json", .file "/b.json", .file "/a.json", .file "/r.json"]

/-- Every import goes down in the list of sources. -/
theorem siblings_down : ∀ s ∈ siblingSources, ∀ t ∈ s.targets siblingFiles,
    t ∈ siblingSources ∧ siblingSources.idxOf t < siblingSources.idxOf s := by
  obtain ⟨r, a, b, c⟩ := targets_siblings
  unfold siblingSources
  simp only [List.forall_mem_cons, r, a, b, c]
  decide

/-- A root and a view as they are loaded from the files. -/
structure Siblings (r : Root) (v : View) : Prop where
  root : Root.ofFile siblingFiles "r.json" = .ok r
  source : r.source = .file "/r.json"
  targets : r.targets siblingFiles {} = Source.targets siblingFiles
  loads : Loads siblingFiles {} r v
  class_from : (v.elementOfKind? .cls "X").map Element.fromSchema = some (some "b")

set_option maxRecDepth 10000 in
theorem exists_siblings : ∃ r v, Siblings r v := by
  have viewed : (load siblingFiles {} "r.json").toOption.map (fun v =>
      (v.elementOfKind? .cls "X").map Element.fromSchema) = some (some (some "b")) := by
    decide +kernel
  have canonical : (siblingFiles.canonical "r.json").toOption = some "/r.json" := by decide +kernel
  cases view : load siblingFiles {} "r.json" with
  | error e => rw [view] at viewed; cases viewed
  | ok v =>
      rw [view] at viewed
      obtain ⟨r, root, loads⟩ := exists_root_of_load view
      refine ⟨r, v, root, ?_, targets_of_ofFile root rfl, loads, Option.some.inj viewed⟩
      obtain ⟨schema, found, there, _, rfl⟩ := ofFile_ok root
      rw [there] at canonical
      exact congrArg Source.file (Option.some.inj canonical)

section Siblings

variable {r : Root} {v : View} (h : Siblings r v)
include h

theorem acyclic_siblings : Acyclic (r.targets siblingFiles {}) r.source := by
  rw [h.source, h.targets]
  exact acyclic_of_rank siblingSources (siblingSources.idxOf ·) siblings_down (by decide)

/-- The second of the files is imported and imports the third. -/
theorem above_siblings : r.Includes siblingFiles {} (.file "/b.json") ∧
    r.Above siblingFiles {} (.file "/b.json") (.file "/c.json") := by
  obtain ⟨root, _, second, _⟩ := targets_siblings
  refine ⟨.single ?_, .single ?_⟩
  · rw [h.source, h.targets, root]
    decide
  · rw [h.targets, second]
    decide

/-- It defines the class and declares the prefix. -/
theorem declared_second : r.definition? siblingFiles .cls "X" (.file "/b.json") ≠ none ∧
    r.expansion? siblingFiles "p" (.file "/b.json") ≠ none := by
  obtain ⟨defined, declared⟩ := declared_of_contents contents_siblings.2.2.1 h.root
  refine ⟨fun silent => ?_, by rw [declared]; decide⟩
  rw [silent] at defined
  cases defined

end Siblings

/-- The third of the files is shadowed by the second, which imports it. -/
theorem importer_shadows_siblings : ∃ r v, Loads siblingFiles {} r v ∧
    Acyclic (r.targets siblingFiles {}) r.source ∧
    (∃ u e, r.definition? siblingFiles .cls "X" u = some e ∧
      v.elementOfKind? .cls "X" = some (v.shown e) ∧ u ≠ .file "/c.json") ∧
    ∃ u b, r.expansion? siblingFiles "p" u = some b ∧ v.expandCurie "p:x" = b ++ "x" ∧
      u ≠ .file "/c.json" := by
  obtain ⟨r, v, h⟩ := exists_siblings
  obtain ⟨included, above⟩ := above_siblings h
  obtain ⟨defines, declares⟩ := declared_second h
  obtain ⟨elements, prefixes⟩ := importer_shadows siblingFiles {} r v h.loads (acyclic_siblings h)
  obtain ⟨u, e, wins, found, _⟩ := elements .cls "X" _ included defines
  obtain ⟨w, b, pwins, expanded⟩ :=
    prefixes "p:x" "p" "x" (by decide +kernel) (by decide +kernel) _ included declares
  refine ⟨r, v, h.loads, acyclic_siblings h, ⟨u, e, wins.declares, found, ?_⟩,
    w, b, pwins.declares, expanded, ?_⟩
  · rintro rfl
    exact wins.unshadowed _ included defines above
  · rintro rfl
    exact pwins.unshadowed _ included declares above

/-! ## 3. The source that is met first -/

/-- **When the source that is met first wins**, where imports have no cycles. Of the sources that
    define a name, the view has the definition of the one that the tour from the root finishes last.
    The one that the tour meets first is the same exactly when it imports all others of them,
    directly or through others. -/
theorem first_visited_wins_iff (fs : FileSystem) (options : Options) (r : Root) (v : View)
    (h : Loads fs options r v) (acyclic : Acyclic (r.targets fs options) r.source) :
    ∃ t, r.Toured fs options t ∧
      ∀ k n a later earlier, t.met = later ++ a :: earlier → r.definition? fs k n a ≠ none →
        (∀ b ∈ earlier, r.definition? fs k n b = none) →
        ∃ u e, DeclaredLast (t.done ++ [r.source]) (r.definition? fs k n) u e ∧
          v.elementOfKind? k n = some (v.shown e) ∧
          (u = a ↔ ∀ b, r.Includes fs options b → r.definition? fs k n b ≠ none → b ≠ a →
            r.Above fs options a b) := by
  obtain ⟨t, visits, taken⟩ := declaredLast_of_loads h
  refine ⟨t, visits, fun k n a later earlier met defined first => ?_⟩
  have included : r.Includes fs options a :=
    ((ordered_of_visits_root visits).2.1 a).mp
      ((met_iff_finished visits).mp (met ▸ List.mem_append_right _ List.mem_cons_self))
  obtain ⟨u, e, last, found⟩ := taken _ _ a included defined
  refine ⟨u, e, last, ?_, ?_⟩
  · rw [View.elementOfKind?_eq_findSome?, found]
    rfl
  · obtain ⟨declares, before, after, split, silent⟩ := last
    refine last_eq_first_iff (fun x => r.definition? fs k n x ≠ none) visits acyclic met
      (fun b hb said => said (first b hb)) defined split (fun b hb said => said (silent b hb)) ?_
    exact fun none_there => by cases none_there.symm.trans declares

/-- The tour through the files. -/
def siblingTour : Tour Source where
  met := [.file "/c.json", .file "/b.json", .file "/a.json", .file "/r.json"]
  done := [.file "/a.json", .file "/c.json", .file "/b.json"]

theorem visits_siblings {r : Root} {v : View} (h : Siblings r v) :
    r.Toured siblingFiles {} siblingTour := by
  obtain ⟨root, a, b, c⟩ := targets_siblings
  have inside_a : Visits (Source.targets siblingFiles) (Source.targets siblingFiles (.file "/a.json"))
      ⟨[.file "/a.json", .file "/r.json"], []⟩ ⟨[.file "/a.json", .file "/r.json"], []⟩ := by
    rw [a]
    exact .stop _
  have inside_b : Visits (Source.targets siblingFiles) (Source.targets siblingFiles (.file "/b.json"))
      ⟨[.file "/b.json", .file "/a.json", .file "/r.json"], [.file "/a.json"]⟩
      ⟨siblingTour.met, [.file "/a.json", .file "/c.json"]⟩ := by
    rw [b]
    exact .enter (by decide) (by rw [c]; exact .stop _) (.stop _)
  rw [Root.Toured, h.source, h.targets, root]
  exact .enter (by decide) inside_a (.enter (by decide) inside_b (.stop _))

/-- Of the root and the first of the files, only the latter defines the class. -/
theorem defined_first {r : Root} {v : View} (h : Siblings r v) :
    r.definition? siblingFiles .cls "X" (.file "/r.json") = none ∧
      ∃ e, r.definition? siblingFiles .cls "X" (.file "/a.json") = some e ∧
        e.fromSchema = some "a" := by
  obtain ⟨root, first, _, _⟩ := contents_siblings
  exact ⟨Option.map_eq_none_iff.mp (declared_of_contents root h.root).1,
    Option.map_eq_some_iff.mp (declared_of_contents first h.root).1⟩

/-- The class of the file that is met first is not the one that the view has: the second file is
    none of its imports. -/
theorem first_visited_wins_iff_siblings : ∃ r v t, Loads siblingFiles {} r v ∧
    Acyclic (r.targets siblingFiles {}) r.source ∧
    r.Toured siblingFiles {} t ∧
    ∃ u e, DeclaredLast (t.done ++ [r.source]) (r.definition? siblingFiles .cls "X") u e ∧
      v.elementOfKind? .cls "X" = some (v.shown e) ∧ u ≠ .file "/a.json" := by
  obtain ⟨r, v, h⟩ := exists_siblings
  obtain ⟨t, visits, taken⟩ :=
    first_visited_wins_iff siblingFiles {} r v h.loads (acyclic_siblings h)
  have same : t = siblingTour := visits_unique visits (visits_siblings h)
  obtain ⟨silent, e, defined, _⟩ := defined_first h
  obtain ⟨u, d, last, found, first⟩ := taken .cls "X" (.file "/a.json")
    [.file "/c.json", .file "/b.json"] [.file "/r.json"] (same ▸ rfl)
    (fun none_there => by cases none_there.symm.trans defined)
    (fun b hb => List.mem_singleton.mp hb ▸ silent)
  refine ⟨r, v, t, h.loads, acyclic_siblings h, visits, u, d, last, found, fun won => ?_⟩
  have above := first.mp won _ (above_siblings h).1 (declared_second h).1 (by decide)
  obtain ⟨x, edge, _⟩ := Relation.TransGen.head'_iff.mp above
  rw [h.targets, targets_siblings.2.1] at edge
  exact absurd edge List.not_mem_nil

/-- **Of siblings the later one wins.** The first of the files is met first and none of the others
    imports it, but the view has another class. -/
theorem later_sibling_wins : ∃ r v t a e later earlier, Loads siblingFiles {} r v ∧
    Acyclic (r.targets siblingFiles {}) r.source ∧
    r.Toured siblingFiles {} t ∧
    t.met = later ++ a :: earlier ∧ r.definition? siblingFiles .cls "X" a = some e ∧
    (∀ b ∈ earlier, r.definition? siblingFiles .cls "X" b = none) ∧
    (∀ b, r.Includes siblingFiles {} b → r.definition? siblingFiles .cls "X" b ≠ none →
      ¬ r.Above siblingFiles {} b a) ∧
    v.elementOfKind? .cls "X" ≠ some (v.shown e) := by
  obtain ⟨r, v, h⟩ := exists_siblings
  obtain ⟨silent, e, defined, origin⟩ := defined_first h
  refine ⟨r, v, siblingTour, .file "/a.json", e, [.file "/c.json", .file "/b.json"],
    [.file "/r.json"], h.loads, acyclic_siblings h, visits_siblings h, rfl, defined,
    fun b hb => List.mem_singleton.mp hb ▸ silent, ?_, fun same => ?_⟩
  · intro b included defines above
    -- only the root stands behind the first of the files in the list of sources
    have only : ∀ s ∈ siblingSources,
        siblingSources.idxOf (.file "/a.json") < siblingSources.idxOf s → s = .file "/r.json" := by
      decide
    rw [Root.Includes, h.source, h.targets] at included
    rw [Root.Above, h.targets] at above
    have hb := mem_of_reaches _ _ siblings_down (by decide) included
    have less := (rank_lt_of_leads _ _ siblings_down above hb).2
    exact defines (only b hb less ▸ silent)
  · have other := h.class_from
    rw [same, Option.map_some, View.fromSchema_shown, origin] at other
    exact absurd other (by decide)

end SchemaPages.Import
